import Mathlib.Algebra.BigOperators.Group.Finset.Basic
import Mathlib.Algebra.BigOperators.Group.Finset.Piecewise
import Mathlib.Algebra.BigOperators.Group.List.Basic
import Mathlib.Algebra.Order.Ring.Int
import Mathlib.Algebra.Order.Ring.Nat
import Mathlib.Data.List.Dedup
import Mathlib.Data.List.Perm.Basic

/-!
# Groups, outer joins and counters

The rows of a query are grouped under a key; the sums over the groups add up to the sum over
the rows. An outer join has each row of its left side with all that matches it, or once with
nothing; grouped by what identifies the left side, a group counts the matches of its row.
A counter that goes up and down adds amounts under labels, and its total is the sum of its
values over the labels that it was used with.
-/

namespace Grouping

universe u v w x

section Groups
variable {Row : Type u} {Key : Type v} {M : Type w} [DecidableEq Key] [AddCommMonoid M]

def group (key : Row → Key) (rows : List Row) (k : Key) : List Row :=
  rows.filter fun r => decide (key r = k)

/-- The keys of the groups. -/
def groupKeys (key : Row → Key) (rows : List Row) : List Key := (rows.map key).dedup

theorem sum_filter_cons (key : Row → Key) (f : Row → M) {k : Key} {ks : List Key} (hk : k ∉ ks)
    (rows : List Row) :
    ((rows.filter fun r => decide (key r ∈ k :: ks)).map f).sum =
      ((group key rows k).map f).sum +
        ((rows.filter fun r => decide (key r ∈ ks)).map f).sum := by
  induction rows with
  | nil => exact (add_zero 0).symm
  | cons r rest ih =>
    simp only [group] at ih ⊢
    by_cases hr : key r = k
    · have hks : key r ∉ ks := hr ▸ hk
      rw [List.filter_cons_of_pos (by simp [hr]), List.filter_cons_of_pos (by simp [hr]),
        List.filter_cons_of_neg (by simp [hks]), List.map_cons, List.sum_cons, ih, List.map_cons,
        List.sum_cons, add_assoc]
    · by_cases hks : key r ∈ ks
      · rw [List.filter_cons_of_pos (by simp [hks]), List.filter_cons_of_neg (by simp [hr]),
          List.filter_cons_of_pos (by simp [hks]), List.map_cons, List.sum_cons, ih, List.map_cons,
          List.sum_cons, add_left_comm]
      · rw [List.filter_cons_of_neg (by simp [hr, hks]), List.filter_cons_of_neg (by simp [hr]),
          List.filter_cons_of_neg (by simp [hks]), ih]

theorem sum_filter_mem (key : Row → Key) (rows : List Row) (f : Row → M) {ks : List Key}
    (hks : ks.Nodup) :
    (ks.map fun k => ((group key rows k).map f).sum).sum =
      ((rows.filter fun r => decide (key r ∈ ks)).map f).sum := by
  induction ks with
  | nil => simp
  | cons k rest ih =>
    obtain ⟨hk, hrest⟩ := List.nodup_cons.mp hks
    rw [List.map_cons, List.sum_cons, ih hrest, sum_filter_cons key f hk]

/-- Some groups, added up. -/
theorem sum_groups {key : Row → Key} {rows : List Row} {ks : List Key} {p : Row → Bool}
    (hks : ks.Nodup) (hp : ∀ r ∈ rows, p r = true ↔ key r ∈ ks) (f : Row → M) :
    (ks.map fun k => ((group key rows k).map f).sum).sum = ((rows.filter p).map f).sum := by
  rw [sum_filter_mem key rows f hks]
  refine congrArg (fun l => (l.map f).sum) (List.filter_congr fun r hr => ?_)
  rw [Bool.eq_iff_iff, decide_eq_true_iff]
  exact (hp r hr).symm

/-- All groups, added up. -/
theorem sum_all_groups (key : Row → Key) (rows : List Row) (f : Row → M) :
    ((groupKeys key rows).map fun k => ((group key rows k).map f).sum).sum = (rows.map f).sum := by
  have honce : (groupKeys key rows).Nodup := List.nodup_dedup _
  rw [sum_groups (p := fun _ => true) honce fun r hr => ?_, List.filter_true]
  exact ⟨fun _ => List.mem_dedup.mpr (List.mem_map_of_mem hr), fun _ => rfl⟩

/-- A row without a value counts for nothing. -/
theorem sum_filterMap (f : Row → Option M) (rows : List Row) :
    (rows.filterMap f).sum = (rows.map fun r => (f r).getD 0).sum := by
  induction rows with
  | nil => rfl
  | cons r rest ih =>
    cases hr : f r with
    | none => rw [List.filterMap_cons_none hr, List.map_cons, List.sum_cons, ih, hr,
        Option.getD_none, zero_add]
    | some y => rw [List.filterMap_cons_some hr, List.map_cons, List.sum_cons, List.sum_cons, ih,
        hr, Option.getD_some]

theorem length_eq_sum (rows : List Row) : rows.length = (rows.map fun _ => 1).sum := by
  simp

end Groups

section OuterJoin
variable {L : Type u} {R : Type v} {Key : Type w} [DecidableEq Key] (on_ : L → R → Bool)

/-- The rows of the join for one row of the left side. -/
def joined (right : List R) (l : L) : List (L × Option R) :=
  match right.filter (on_ l) with
  | [] => [(l, none)]
  | r :: rest => (r :: rest).map fun r => (l, some r)

def outerJoin (left : List L) (right : List R) : List (L × Option R) :=
  left.flatMap (joined on_ right)

variable {on_} {left : List L} {right : List R} {l : L}

theorem joined_ne_nil : joined on_ right l ≠ [] := by
  simp only [joined]
  split
  · exact List.cons_ne_nil _ _
  · exact List.cons_ne_nil _ _

theorem fst_of_mem_joined {row : L × Option R} (h : row ∈ joined on_ right l) : row.1 = l := by
  simp only [joined] at h
  split at h
  · rw [List.mem_singleton.mp h]
  · obtain ⟨r, -, rfl⟩ := List.mem_map.mp h
    rfl

/-- COUNT leaves out the row that has no match. -/
theorem count_joined :
    (joined on_ right l).countP (fun row => row.2.isSome) = right.countP (on_ l) := by
  rw [List.countP_eq_length_filter (p := on_ l)]
  simp only [joined]
  split
  · next hnone =>
    rw [hnone]
    rfl
  · next r rest hsome =>
    rw [hsome, List.countP_map]
    simp [Function.comp_def]

theorem joined_find (once : right.countP (on_ l) ≤ 1) :
    joined on_ right l = [(l, right.find? (on_ l))] := by
  rw [List.countP_eq_length_filter] at once
  rw [← List.head?_filter]
  simp only [joined]
  split
  · next hnone => rw [hnone, List.head?_nil]
  · next r more hsome =>
    rw [hsome] at once
    obtain rfl : more = [] := List.length_eq_zero_iff.mp (by simpa using once)
    rw [hsome]
    rfl

/-- Where nothing is matched twice, the join is the left side with what it matches. -/
theorem outerJoin_find (left : List L) (once : ∀ l ∈ left, right.countP (on_ l) ≤ 1) :
    outerJoin on_ left right = left.map fun l => (l, right.find? (on_ l)) := by
  induction left with
  | nil => rfl
  | cons l rest ih =>
    have hrest := ih fun l' hl' => once l' (List.mem_cons_of_mem l hl')
    rw [outerJoin, List.flatMap_cons, joined_find (once l List.mem_cons_self), List.map_cons,
      ← hrest]
    rfl

/-- A group of the join is that of one row of the left side. -/
theorem group_outerJoin {key : L → Key} (once : (left.map key).Nodup) (hl : l ∈ left) :
    group (fun row => key row.1) (outerJoin on_ left right) (key l) = joined on_ right l := by
  have hother : ∀ l', key l' ≠ key l →
      group (fun row => key row.1) (joined on_ right l') (key l) = [] := by
    intro l' hne
    rw [group, List.filter_eq_nil_iff]
    intro row hrow
    rw [fst_of_mem_joined hrow]
    exact fun heq => hne (of_decide_eq_true heq)
  have hsame : group (fun row => key row.1) (joined on_ right l) (key l) = joined on_ right l := by
    rw [group, List.filter_eq_self]
    intro row hrow
    rw [fst_of_mem_joined hrow]
    exact decide_eq_true rfl
  induction left with
  | nil => cases hl
  | cons first rest ih =>
    obtain ⟨hfirst, hrest⟩ := List.nodup_cons.mp once
    have happend : group (fun row => key row.1) (outerJoin on_ (first :: rest) right) (key l) =
        group (fun row => key row.1) (joined on_ right first) (key l) ++
          group (fun row => key row.1) (outerJoin on_ rest right) (key l) := List.filter_append _ _
    rw [happend]
    rcases List.mem_cons.mp hl with rfl | hmem
    · have hnone : group (fun row => key row.1) (outerJoin on_ rest right) (key l) = [] := by
        rw [group, List.filter_eq_nil_iff]
        intro row hrow heq
        obtain ⟨l', hl', hin⟩ := List.mem_flatMap.mp hrow
        rw [fst_of_mem_joined hin] at heq
        exact hfirst (of_decide_eq_true heq ▸ List.mem_map_of_mem hl')
      rw [hsame, hnone, List.append_nil]
    · have hne : key first ≠ key l := fun heq => hfirst (heq ▸ List.mem_map_of_mem hmem)
      rw [hother first hne, List.nil_append, ih hrest hmem]

/-- Every row of the left side has a group. -/
theorem groupKeys_outerJoin {key : L → Key} (once : (left.map key).Nodup) :
    (groupKeys (fun row => key row.1) (outerJoin on_ left right)).Perm (left.map key) := by
  rw [groupKeys, List.perm_ext_iff_of_nodup (List.nodup_dedup _) once]
  intro k
  rw [List.mem_dedup, List.mem_map, List.mem_map]
  constructor
  · rintro ⟨row, hrow, rfl⟩
    obtain ⟨l', hl', hin⟩ := List.mem_flatMap.mp hrow
    exact ⟨l', hl', by rw [fst_of_mem_joined hin]⟩
  · rintro ⟨l', hl', rfl⟩
    obtain ⟨row, hrow⟩ : ∃ row, row ∈ joined on_ right l' :=
      List.exists_mem_of_ne_nil _ joined_ne_nil
    exact ⟨row, List.mem_flatMap.mpr ⟨l', hl', hrow⟩, by rw [fst_of_mem_joined hrow]⟩

end OuterJoin

section Repeats
variable {α : Type u} [DecidableEq α] {l : List α} {a : α}

/-- What a list has of each element beyond the last one, which `List.dedup` keeps. -/
def repeats : List α → List α
  | [] => []
  | a :: l => if a ∈ l then a :: repeats l else repeats l

theorem perm_dedup_append (l : List α) : l.Perm (l.dedup ++ repeats l) := by
  induction l with
  | nil => rfl
  | cons a l ih =>
    by_cases ha : a ∈ l
    · rw [List.dedup_cons_of_mem ha, repeats, if_pos ha]
      exact (ih.cons a).trans List.perm_middle.symm
    · rw [List.dedup_cons_of_notMem ha, repeats, if_neg ha]
      exact ih.cons a

theorem mem_of_mem_repeats (h : a ∈ repeats l) : a ∈ l :=
  (perm_dedup_append l).mem_iff.mpr (List.mem_append_right _ h)

end Repeats

end Grouping

namespace UpDownCounter

universe u
variable {Label : Type u} [DecidableEq Label]

/-- What was added so far, in order. -/
abbrev Counter (Label : Type u) := List (Label × ℤ)

def add (c : Counter Label) (label : Label) (amount : ℤ) : Counter Label := c ++ [(label, amount)]

def value (c : Counter Label) (label : Label) : ℤ :=
  (c.map fun entry => if entry.1 = label then entry.2 else 0).sum

def labels (c : Counter Label) : Finset Label := (c.map Prod.fst).toFinset

def total (c : Counter Label) : ℤ := ∑ label ∈ labels c, value c label

@[simp] theorem value_nil (label : Label) : value ([] : Counter Label) label = 0 := rfl

@[simp] theorem value_add (c : Counter Label) (label other : Label) (amount : ℤ) :
    value (add c label amount) other = value c other + if label = other then amount else 0 := by
  simp [value, add]

theorem sum_value (c : Counter Label) {all : Finset Label} (within : labels c ⊆ all) :
    ∑ label ∈ all, value c label = (c.map Prod.snd).sum := by
  induction c with
  | nil => simp
  | cons entry rest ih =>
    have hlabels : labels (entry :: rest) = insert entry.1 (labels rest) := by
      simp [labels]
    rw [hlabels, Finset.insert_subset_iff] at within
    have hvalue : ∀ label, value (entry :: rest) label =
        (if entry.1 = label then entry.2 else 0) + value rest label := fun label => by
      simp [value]
    simp only [hvalue, Finset.sum_add_distrib, Finset.sum_ite_eq, within.1, if_true,
      ih within.2, List.map_cons, List.sum_cons]

/-- The total is what was added altogether. -/
theorem total_eq_sum (c : Counter Label) : total c = (c.map Prod.snd).sum :=
  sum_value c (Finset.Subset.refl _)

@[simp] theorem total_nil : total ([] : Counter Label) = 0 := rfl

@[simp] theorem total_add (c : Counter Label) (label : Label) (amount : ℤ) :
    total (add c label amount) = total c + amount := by
  rw [total_eq_sum, total_eq_sum, add, List.map_append, List.sum_append]
  simp

end UpDownCounter
