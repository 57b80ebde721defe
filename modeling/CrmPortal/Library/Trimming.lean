import Mathlib.Data.List.DropRight

/-!
# Trimming a list at its ends

`trim p` takes the elements that satisfy `p` off both ends of a list,
`List.rdropWhile q` takes elements off the right end only.
-/

namespace Trimming

universe u
variable {α : Type u} {p q : α → Bool} {l a c : List α}

def trim (p : α → Bool) (l : List α) : List α := (l.dropWhile p).rdropWhile p

theorem dropWhile_eq_self_iff_head : l.dropWhile p = l ↔ ∀ x ∈ l.head?, p x = false := by
  cases l with
  | nil => simp
  | cons x rest =>
    by_cases hx : p x = true
    · have hlt : (rest.dropWhile p).length ≠ (x :: rest).length := by
        have hle := List.length_dropWhile_le p rest
        simp only [List.length_cons]
        omega
      have hne : rest.dropWhile p ≠ x :: rest := fun h => hlt (congrArg List.length h)
      simp [hx, hne]
    · simp [hx]

theorem rdropWhile_eq_self_iff_last : l.rdropWhile p = l ↔ ∀ x ∈ l.getLast?, p x = false := by
  unfold List.rdropWhile
  rw [List.reverse_eq_iff, dropWhile_eq_self_iff_head, List.head?_reverse]

theorem rdropWhile_append_of_all (h : ∀ y ∈ c, q y = true) :
    (a ++ c).rdropWhile q = a.rdropWhile q := by
  unfold List.rdropWhile
  rw [List.reverse_append, List.dropWhile_append_of_pos]
  intro y hy
  exact h y (List.mem_reverse.mp hy)

/-- What is left of a list, and what was taken off its right end. -/
theorem rdropWhile_eq_iff : l.rdropWhile q = a ↔
    ∃ c, l = a ++ c ∧ (∀ y ∈ c, q y = true) ∧ ∀ x ∈ a.getLast?, q x = false := by
  constructor
  · rintro rfl
    refine ⟨l.rtakeWhile q, List.rdropWhile_append_rtakeWhile.symm, ?_, ?_⟩
    · intro y hy
      exact List.mem_rtakeWhile_imp hy
    · exact rdropWhile_eq_self_iff_last.mp (List.rdropWhile_idempotent q l)
  · rintro ⟨c, rfl, hall, hlast⟩
    rw [rdropWhile_append_of_all hall, rdropWhile_eq_self_iff_last.mpr hlast]

theorem mem_getLast_rdropWhile_iff {x : α} : x ∈ (l.rdropWhile q).getLast? ↔
    ∃ a c, l = a ++ x :: c ∧ (∀ y ∈ c, q y = true) ∧ q x = false := by
  constructor
  · intro hx
    obtain ⟨c, hl, hall, hlast⟩ := rdropWhile_eq_iff.mp (Eq.refl (l.rdropWhile q))
    obtain ⟨a, ha⟩ := List.getLast?_eq_some_iff.mp (Option.mem_def.mp hx)
    refine ⟨a, c, ?_, hall, hlast x hx⟩
    rw [hl, ha, List.append_assoc, List.singleton_append]
  · rintro ⟨a, c, rfl, hall, hx⟩
    rw [← List.singleton_append, ← List.append_assoc, rdropWhile_append_of_all hall,
      List.rdropWhile_concat_neg q a x (by simp [hx]), List.getLast?_concat]
    rfl

theorem trim_eq_self_iff : trim p l = l ↔
    (∀ x ∈ l.head?, p x = false) ∧ ∀ x ∈ l.getLast?, p x = false := by
  constructor
  · intro h
    have hdrop : l.dropWhile p = l := by
      refine (List.dropWhile_suffix p).eq_of_length (le_antisymm (List.length_dropWhile_le p l) ?_)
      calc l.length = (trim p l).length := by rw [h]
        _ ≤ (l.dropWhile p).length := (List.rdropWhile_prefix p _).length_le
    unfold trim at h
    rw [hdrop] at h
    exact ⟨dropWhile_eq_self_iff_head.mp hdrop, rdropWhile_eq_self_iff_last.mp h⟩
  · rintro ⟨hhead, hlast⟩
    unfold trim
    rw [dropWhile_eq_self_iff_head.mpr hhead, rdropWhile_eq_self_iff_last.mpr hlast]

theorem trim_sublist : List.Sublist (trim p l) l :=
  (List.rdropWhile_prefix p _).sublist.trans (List.dropWhile_suffix p).sublist

/-- What is taken off the right end leaves the first element, or nothing. -/
theorem head_rdropWhile_mem {x : α} (h : x ∈ (l.rdropWhile q).head?) : x ∈ l.head? := by
  obtain ⟨c, hl, -, -⟩ := rdropWhile_eq_iff.mp (Eq.refl (l.rdropWhile q))
  rw [hl, List.head?_append, Option.mem_def.mp h]
  rfl

@[simp]
theorem trim_trim : trim p (trim p l) = trim p l := by
  refine trim_eq_self_iff.mpr ⟨fun x hx => ?_, fun x hx => ?_⟩
  · have hhead : x ∈ (l.dropWhile p).head? := head_rdropWhile_mem hx
    have hnot := List.head?_dropWhile_not p l
    rw [Option.mem_def.mp hhead] at hnot
    exact hnot
  · obtain ⟨a, c, -, -, hnot⟩ := mem_getLast_rdropWhile_iff.mp hx
    exact hnot

end Trimming
