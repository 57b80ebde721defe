import Mathlib.Data.List.Basic

/-!
# Lists without their repetitions

`firsts` keeps the first occurrence of each element. Which of two elements comes first is
the same before and after, and it is also the same after a filter that both pass.
-/

namespace FirstOccurrence

universe u
variable {α : Type u}

theorem findIdx_filter_lt_iff {p a b : α → Bool} (ha : ∀ x, a x = true → p x = true)
    (hb : ∀ x, b x = true → p x = true) (l : List α) :
    (l.filter p).findIdx a < (l.filter p).findIdx b ↔ l.findIdx a < l.findIdx b := by
  induction l with
  | nil => simp
  | cons x rest ih =>
    by_cases hp : p x = true
    · rw [List.filter_cons_of_pos hp]
      cases hax : a x <;> cases hbx : b x <;> simp [List.findIdx_cons, hax, hbx, ih]
    · have hax : a x = false := Bool.eq_false_iff.mpr fun h => hp (ha x h)
      have hbx : b x = false := Bool.eq_false_iff.mpr fun h => hp (hb x h)
      rw [List.filter_cons_of_neg hp]
      simp [List.findIdx_cons, hax, hbx, ih]

/-- Among the images of what a filter keeps, too. -/
theorem idxOf_map_filter_lt_iff [BEq α] [LawfulBEq α] {β : Type u} {f : β → α} {p : β → Bool}
    {x y : α} (hx : ∀ b, f b = x → p b = true) (hy : ∀ b, f b = y → p b = true) (l : List β) :
    ((l.filter p).map f).idxOf x < ((l.filter p).map f).idxOf y ↔
      (l.map f).idxOf x < (l.map f).idxOf y := by
  unfold List.idxOf
  rw [List.findIdx_map, List.findIdx_map, List.findIdx_map, List.findIdx_map]
  exact findIdx_filter_lt_iff (fun b hb => hx b (by simpa using hb))
    (fun b hb => hy b (by simpa using hb)) l

variable [DecidableEq α]

/-- `list(dict.fromkeys(l))`. -/
def firsts : List α → List α
  | [] => []
  | x :: rest => x :: (firsts rest).filter (fun y => decide (y ≠ x))

@[simp]
theorem mem_firsts {x : α} {l : List α} : x ∈ firsts l ↔ x ∈ l := by
  induction l with
  | nil => rfl
  | cons y rest ih =>
    by_cases hx : x = y
    · simp [firsts, hx]
    · simp [firsts, hx, ih]

theorem firsts_nodup (l : List α) : (firsts l).Nodup := by
  induction l with
  | nil => exact List.nodup_nil
  | cons x rest ih =>
    refine List.nodup_cons.mpr ⟨fun h => ?_, ih.filter _⟩
    exact absurd rfl (of_decide_eq_true (List.mem_filter.mp h).2)

/-- Images that are told apart are repeated where their sources are. -/
theorem firsts_map {β : Type u} [DecidableEq β] {f : α → β} {l : List α}
    (h : ∀ x ∈ l, ∀ y ∈ l, f x = f y → x = y) : firsts (l.map f) = (firsts l).map f := by
  induction l with
  | nil => rfl
  | cons x rest ih =>
    have hrest := ih fun y hy z hz => h y (List.mem_cons_of_mem x hy) z (List.mem_cons_of_mem x hz)
    rw [List.map_cons, firsts, hrest, firsts, List.map_cons, List.filter_map]
    refine congrArg (f x :: ·) (congrArg (List.map f) (List.filter_congr fun y hy => ?_))
    have hmem : y ∈ rest := mem_firsts.mp hy
    refine decide_eq_decide.mpr (not_congr ⟨fun heq => ?_, fun heq => congrArg f heq⟩)
    exact h y (List.mem_cons_of_mem x hmem) x List.mem_cons_self heq

theorem idxOf_firsts_lt_iff [BEq α] [LawfulBEq α] (l : List α) (x y : α) :
    (firsts l).idxOf x < (firsts l).idxOf y ↔ l.idxOf x < l.idxOf y := by
  induction l with
  | nil => simp [firsts]
  | cons z rest ih =>
    by_cases hx : z = x
    · by_cases hy : z = y
      · simp [firsts, ← hx, ← hy]
      · simp [firsts, hx, List.idxOf_cons_ne _ (hx ▸ hy)]
    · by_cases hy : z = y
      · simp [firsts, hy]
      · have hpasses : ∀ v, ¬ z = v → ∀ w, (w == v) = true → decide (w ≠ z) = true := by
          intro v hne w hw
          obtain rfl : w = v := eq_of_beq hw
          exact decide_eq_true (Ne.symm hne)
        have hfilter := findIdx_filter_lt_iff (hpasses x hx) (hpasses y hy) (firsts rest)
        simp only [firsts, List.idxOf_cons_ne _ hx, List.idxOf_cons_ne _ hy,
          Nat.succ_lt_succ_iff]
        exact hfilter.trans ih

end FirstOccurrence
