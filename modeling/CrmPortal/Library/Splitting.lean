import Mathlib.Data.List.Basic

/-!
# Cutting a list at a separator

`cut` parts a list at the first occurrence of a separator, `cutLast` at the last
one. A cut that succeeds determines its parts.
-/

namespace Splitting

universe u
variable {α : Type u} [DecidableEq α] {sep : α} {l a b : List α}

def cut (sep : α) : List α → Option (List α × List α)
  | [] => none
  | x :: rest => if x = sep then some ([], rest)
    else (cut sep rest).map fun parts => (x :: parts.1, parts.2)

def cutLast (sep : α) (l : List α) : Option (List α × List α) :=
  (cut sep l.reverse).map fun parts => (parts.2.reverse, parts.1.reverse)

theorem cut_append (h : sep ∉ a) : cut sep (a ++ sep :: b) = some (a, b) := by
  induction a with
  | nil => simp [cut]
  | cons x rest ih =>
    obtain ⟨hne, hrest⟩ := List.ne_and_not_mem_of_not_mem_cons h
    have hcut := ih hrest
    simp [cut, hcut, Ne.symm hne]

theorem cut_eq_some_iff : cut sep l = some (a, b) ↔ l = a ++ sep :: b ∧ sep ∉ a := by
  constructor
  · intro h
    induction l generalizing a with
    | nil => cases h
    | cons x rest ih =>
      unfold cut at h
      split at h
      · rename_i hx
        obtain ⟨rfl, rfl⟩ := Prod.mk.inj (Option.some.inj h)
        exact ⟨hx ▸ rfl, List.not_mem_nil⟩
      · rename_i hx
        obtain ⟨⟨c, d⟩, hcut, hparts⟩ := Option.map_eq_some_iff.mp h
        obtain ⟨rfl, rfl⟩ := Prod.mk.inj hparts
        obtain ⟨rfl, hc⟩ := ih hcut
        exact ⟨rfl, List.not_mem_cons_of_ne_of_not_mem (Ne.symm hx) hc⟩
  · rintro ⟨rfl, h⟩
    exact cut_append h

theorem cut_eq_none_iff : cut sep l = none ↔ sep ∉ l := by
  induction l with
  | nil => simp [cut]
  | cons x rest ih =>
    by_cases hx : x = sep
    · simp [cut, hx]
    · simp [cut, hx, ih, Ne.symm hx]

theorem cutLast_eq_some_iff : cutLast sep l = some (a, b) ↔ l = a ++ sep :: b ∧ sep ∉ b := by
  unfold cutLast
  rw [Option.map_eq_some_iff]
  constructor
  · rintro ⟨⟨c, d⟩, hcut, hparts⟩
    obtain ⟨rfl, rfl⟩ := Prod.mk.inj hparts
    obtain ⟨hl, hc⟩ := cut_eq_some_iff.mp hcut
    refine ⟨?_, by simpa using hc⟩
    rw [← List.reverse_reverse l, hl]
    simp
  · rintro ⟨rfl, h⟩
    refine ⟨(b.reverse, a.reverse), cut_eq_some_iff.mpr ⟨by simp, by simpa using h⟩, by simp⟩

theorem cutLast_eq_none_iff : cutLast sep l = none ↔ sep ∉ l := by
  unfold cutLast
  rw [Option.map_eq_none_iff, cut_eq_none_iff, List.mem_reverse]

end Splitting
