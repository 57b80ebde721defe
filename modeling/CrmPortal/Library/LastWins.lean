import Mathlib.Data.List.Basic
import Mathlib.Data.List.Induction

/-!
# Dictionaries in which the last writer wins

A dictionary is filled by a loop over rows; each row is filed under several keys, and a
later row takes a key over from an earlier one.
-/

namespace LastWins

universe u v
variable {Key : Type u} {Row : Type v} [DecidableEq Key]

/-- `dict[key] = row`. -/
def put (dict : Key → Option Row) (key : Key) (row : Row) : Key → Option Row :=
  fun k => if k = key then some row else dict k

def file (keys : Row → List Key) (dict : Key → Option Row) (row : Row) : Key → Option Row :=
  (keys row).foldl (fun dict key => put dict key row) dict

def build (keys : Row → List Key) (rows : List Row) : Key → Option Row :=
  rows.foldl (file keys) fun _ => none

variable {keys : Row → List Key} {rows : List Row} {k : Key} {r : Row}

theorem file_apply (dict : Key → Option Row) (row : Row) (k : Key) :
    file keys dict row k = if k ∈ keys row then some row else dict k := by
  unfold file
  induction keys row generalizing dict with
  | nil => simp
  | cons key rest ih =>
    rw [List.foldl_cons, ih, put]
    by_cases hrest : k ∈ rest
    · simp [hrest]
    · by_cases hkey : k = key
      · simp [hkey]
      · simp [hrest, hkey]

/-- A key names the last of the rows that are filed under it. -/
theorem build_eq_some_iff : build keys rows k = some r ↔
    ∃ before after, rows = before ++ r :: after ∧ k ∈ keys r ∧ ∀ s ∈ after, k ∉ keys s := by
  unfold build
  induction rows using List.reverseRecOn with
  | nil => simp
  | append_singleton done row ih =>
    rw [List.foldl_append, List.foldl_cons, List.foldl_nil, file_apply]
    by_cases hrow : k ∈ keys row
    · rw [if_pos hrow]
      constructor
      · intro h
        obtain rfl := Option.some.inj h
        exact ⟨done, [], rfl, hrow, by simp⟩
      · rintro ⟨before, after, hsplit, -, hafter⟩
        rcases List.eq_nil_or_concat after with rfl | ⟨start, last, rfl⟩
        · obtain ⟨-, hlast⟩ := List.append_inj' hsplit rfl
          rw [List.singleton_inj.mp hlast]
        · have hend : done ++ [row] = (before ++ r :: start) ++ [last] := by simpa using hsplit
          obtain ⟨-, hlast⟩ := List.append_inj' hend rfl
          obtain rfl := List.singleton_inj.mp hlast
          exact absurd hrow (hafter row (by simp))
    · rw [if_neg hrow, ih]
      constructor
      · rintro ⟨before, after, rfl, hr, hafter⟩
        refine ⟨before, after ++ [row], by simp, hr, ?_⟩
        intro s hs
        rcases List.mem_append.mp hs with hs | hs
        · exact hafter s hs
        · rw [List.mem_singleton.mp hs]
          exact hrow
      · rintro ⟨before, after, hsplit, hr, hafter⟩
        rcases List.eq_nil_or_concat after with rfl | ⟨start, last, rfl⟩
        · obtain ⟨-, hlast⟩ := List.append_inj' hsplit rfl
          rw [List.singleton_inj.mp hlast] at hrow
          exact absurd hr hrow
        · have hend : done ++ [row] = (before ++ r :: start) ++ [last] := by simpa using hsplit
          obtain ⟨hinit, -⟩ := List.append_inj' hend rfl
          exact ⟨before, start, hinit, hr, fun s hs => hafter s (by simp [hs])⟩

theorem build_mem (h : build keys rows k = some r) : r ∈ rows ∧ k ∈ keys r := by
  obtain ⟨before, after, rfl, hr, -⟩ := build_eq_some_iff.mp h
  exact ⟨by simp, hr⟩

/-- Every key of a row is in the dictionary. -/
theorem build_isSome (hr : r ∈ rows) (hk : k ∈ keys r) : (build keys rows k).isSome := by
  unfold build
  induction rows using List.reverseRecOn with
  | nil => cases hr
  | append_singleton done row ih =>
    rw [List.foldl_append, List.foldl_cons, List.foldl_nil, file_apply]
    split
    · rfl
    · next hrow =>
      rcases List.mem_append.mp hr with hr | hr
      · exact ih hr
      · rw [List.mem_singleton.mp hr] at hk
        exact absurd hk hrow

/-- Rows may be filed by what is made of them. -/
theorem build_map {Source : Type v} (f : Source → Row) (rows : List Source) (k : Key) :
    build keys (rows.map f) k = (build (fun r => keys (f r)) rows k).map f := by
  unfold build
  induction rows using List.reverseRecOn with
  | nil => rfl
  | append_singleton done row ih =>
    rw [List.map_append, List.foldl_append, List.foldl_append]
    simp only [List.map_cons, List.map_nil, List.foldl_cons, List.foldl_nil, file_apply, ih]
    split <;> rfl

/-- A relation between earlier and later rows, read at the places where a row stands. -/
theorem pairwise_iff_split {Leaves : Row → Row → Prop} : rows.Pairwise Leaves ↔
    ∀ before r after, rows = before ++ r :: after → ∀ s ∈ after, Leaves r s := by
  constructor
  · rintro h before r after rfl
    exact (List.pairwise_cons.mp (List.pairwise_append.mp h).2.1).1
  · intro h
    induction rows with
    | nil => exact List.Pairwise.nil
    | cons r rest ih =>
      refine List.pairwise_cons.mpr ⟨h [] r rest rfl, ih fun before s after hrest => ?_⟩
      exact h (r :: before) s after (congrArg (r :: ·) hrest)

theorem notMem_around (once : rows.Nodup) {before after : List Row}
    (split : rows = before ++ r :: after) : r ∉ before ∧ r ∉ after := by
  subst split
  obtain ⟨-, hrest, hapart⟩ := List.nodup_append.mp once
  exact ⟨fun hmem => hapart r hmem r List.mem_cons_self rfl, (List.nodup_cons.mp hrest).1⟩

/-- A row keeps a key of its own exactly when no later row is filed under it. -/
theorem build_keeps_iff (once : rows.Nodup) {before after : List Row}
    (split : rows = before ++ r :: after) (hk : k ∈ keys r) :
    build keys rows k = some r ↔ ∀ s ∈ after, k ∉ keys s := by
  rw [build_eq_some_iff]
  constructor
  · rintro ⟨front, back, hsplit, -, hback⟩
    obtain ⟨hfront, hnot⟩ := notMem_around once hsplit
    obtain ⟨-, -, hend⟩ :=
      (List.append_cons_inj_of_notMem hfront hnot).mp (hsplit.symm.trans split)
    exact hend ▸ hback
  · intro hafter
    exact ⟨before, after, split, hk, hafter⟩

end LastWins
