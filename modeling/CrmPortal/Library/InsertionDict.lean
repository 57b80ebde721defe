import CrmPortal.Library.FirstOccurrence
import CrmPortal.Library.LastWins
import Mathlib.Data.List.Nodup

/-!
# Dictionaries in the order of insertion

A dictionary lists its items in the order in which their keys were first set; setting a key
again changes the value in its place. A run of assignments leaves the keys in the order of
their first occurrence, each with the value it was given last.
-/

namespace InsertionDict

open FirstOccurrence

universe u v
variable {Key : Type u} {Value : Type v} [DecidableEq Key]

def assign : List (Key × Value) → Key → Value → List (Key × Value)
  | [], key, value => [(key, value)]
  | item :: rest, key, value =>
    if item.1 = key then (key, value) :: rest else item :: assign rest key value

def find : List (Key × Value) → Key → Option Value
  | [], _ => none
  | item :: rest, key => if item.1 = key then some item.2 else find rest key

theorem find_assign (items : List (Key × Value)) (key k : Key) (value : Value) :
    find (assign items key value) k = if k = key then some value else find items k := by
  induction items with
  | nil =>
    simp only [assign, find, eq_comm]
  | cons item rest ih =>
    simp only [assign]
    by_cases hitem : item.1 = key
    · rw [if_pos hitem]
      by_cases hk : k = key
      · simp only [find, hk, if_true]
      · simp only [find, hitem, if_neg hk, if_neg (Ne.symm hk)]
    · rw [if_neg hitem]
      by_cases hk : k = key
      · subst hk
        simp only [find, if_neg hitem, ih]
      · simp only [find, ih, if_neg hk]

theorem keys_assign (items : List (Key × Value)) (key : Key) (value : Value) :
    (assign items key value).map Prod.fst =
      if key ∈ items.map Prod.fst then items.map Prod.fst
      else items.map Prod.fst ++ [key] := by
  induction items with
  | nil => rfl
  | cons item rest ih =>
    simp only [assign]
    by_cases hitem : item.1 = key
    · rw [if_pos hitem, if_pos (by simp [hitem])]
      simp [hitem]
    · have hmem : (key ∈ (item :: rest).map Prod.fst) = (key ∈ rest.map Prod.fst) := by
        simp [Ne.symm hitem]
      rw [if_neg hitem, List.map_cons, ih]
      simp only [hmem]
      split <;> rfl

/-- Each key stands once. -/
structure Dict (Key : Type u) (Value : Type v) where
  items : List (Key × Value)
  once : (items.map Prod.fst).Nodup

namespace Dict

def empty : Dict Key Value := ⟨[], List.nodup_nil⟩

/-- `dict[key] = value`. -/
def set (dict : Dict Key Value) (key : Key) (value : Value) : Dict Key Value where
  items := assign dict.items key value
  once := by
    rw [keys_assign]
    split
    · exact dict.once
    · next hnew =>
      refine List.nodup_append.mpr ⟨dict.once, List.nodup_singleton key, ?_⟩
      rintro k hold k' hk' rfl
      exact hnew (List.mem_singleton.mp hk' ▸ hold)

/-- `dict.get(key)`. -/
def get (dict : Dict Key Value) (key : Key) : Option Value := find dict.items key

/-- The dictionary after some assignments. -/
def assignments (pairs : List (Key × Value)) : Dict Key Value :=
  pairs.foldl (fun dict pair => dict.set pair.1 pair.2) empty

theorem assignments_concat (pairs : List (Key × Value)) (pair : Key × Value) :
    (assignments (pairs ++ [pair])) = (assignments pairs).set pair.1 pair.2 := by
  simp only [assignments, List.foldl_append, List.foldl_cons, List.foldl_nil]

end Dict

theorem firsts_concat (l : List Key) (x : Key) :
    firsts (l ++ [x]) = if x ∈ l then firsts l else firsts l ++ [x] := by
  induction l with
  | nil => rfl
  | cons y rest ih =>
    rw [List.cons_append, firsts, ih]
    by_cases hx : x = y
    · subst hx
      rw [if_pos List.mem_cons_self]
      split <;> simp [firsts]
    · have hmem : (x ∈ y :: rest) = (x ∈ rest) := by simp [hx]
      simp only [hmem]
      split <;> simp [firsts, hx]

/-- The keys stand in the order of their first assignment. -/
theorem keys_assignments (pairs : List (Key × Value)) :
    (Dict.assignments pairs).items.map Prod.fst = firsts (pairs.map Prod.fst) := by
  induction pairs using List.reverseRecOn with
  | nil => rfl
  | append_singleton pairs pair ih =>
    rw [Dict.assignments_concat, Dict.set, keys_assign, ih, List.map_append, List.map_singleton,
      firsts_concat]
    simp only [mem_firsts]

/-- Each source may assign a value: a key has the one of the last source that set it. -/
theorem get_assignments {Source : Type v} (entry : Source → Option (Key × Value))
    (sources : List Source) (key : Key) :
    (Dict.assignments (sources.filterMap entry)).get key =
      (LastWins.build (fun s => ((entry s).map Prod.fst).toList) sources key).bind fun s =>
        (entry s).map Prod.snd := by
  induction sources using List.reverseRecOn with
  | nil => rfl
  | append_singleton sources s ih =>
    simp only [LastWins.build, List.foldl_append, List.foldl_cons, List.foldl_nil,
      LastWins.file_apply, List.filterMap_append] at ih ⊢
    cases hentry : entry s with
    | none => simpa [hentry] using ih
    | some pair =>
      rw [List.filterMap_cons_some hentry, List.filterMap_nil, Dict.assignments_concat, Dict.get,
        Dict.set, find_assign]
      by_cases hkey : key = pair.1
      · simp [hkey, hentry]
      · simpa [hkey, Dict.get] using ih

end InsertionDict
