import CrmPortal.OrderSync

/-!
# Values that a raw order states

Every numeric field of a raw order has a chain of fallbacks that `or` decides. A zero is
as false as a missing field, and then it depends on the fallbacks what becomes of it.
The discount itself is in no field of the result: what keeps it is the expected total.
-/

namespace ExplicitValues

open PyValue OrderNormalization

/-- Missing, null or empty. -/
def Blank (v : Json) : Prop := v = .null ∨ v = .str "" ∨ v = .arr [] ∨ v = .obj []

theorem not_blank_of_truthy {v : Json} (h : v.truthy = true) : ¬ Blank v := by
  rintro (rfl | rfl | rfl | rfl) <;> cases h

theorem orChain_assoc (a b c : Json) : (a.or b).or c = a.or (b.or c) := by
  by_cases ha : a.truthy = true
  · rw [Json.or_of_truthy ha, Json.or_of_truthy ha, Json.or_of_truthy ha]
  · have hfalsy : a.truthy = false := by simpa using ha
    rw [Json.or_of_falsy hfalsy, Json.or_of_falsy hfalsy]

section Field
variable {py : Builtins} {v : Json}

theorem coerceFloat_of_toFloat {x : PyFloat} (there : ¬ Blank v) (h : v.toFloat py = .ok x) :
    coerceFloat py v = .ok x := by
  unfold coerceFloat
  split
  · exact absurd (Or.inl rfl) there
  · exact absurd (Or.inr (Or.inl rfl)) there
  · rw [h]

end Field

theorem normalizeItems_lines {py : Builtins} {items : List Json} {start computed : PyFloat}
    {lines : List NormalizedItem} (h : normalizeItems py items start = .ok (computed, lines)) :
    List.Forall₂ (fun item line => normalizeItem py item = .ok line) items lines := by
  induction items generalizing start lines with
  | nil =>
    obtain ⟨-, rfl⟩ := Prod.mk.inj (Except.ok.inj h)
    exact List.Forall₂.nil
  | cons item rest ih =>
    simp only [normalizeItems, bind_ok_iff] at h
    obtain ⟨line, hline, price, -, ⟨total, tail⟩, htail, hpair⟩ := h
    obtain ⟨rfl, rfl⟩ := Prod.mk.inj (Except.ok.inj hpair)
    exact List.Forall₂.cons hline (ih htail)

def totalFallback (raw : Obj) (expected : PyFloat) : Json :=
  (raw.get "amount").or ((Json.float expected).or (.float .zero))

/-- What an accepted raw order was made into. -/
theorem normalize_parts {py : Builtins} {now : DateTime} {raw : Obj} {n : NormalizedOrder}
    (h : normalizeExternalOrder py now raw = .ok n) : ∃ items computed discount shipping,
    (itemsValue raw).iterate = .ok items ∧
    normalizeItems py items .zero = .ok (computed, n.items) ∧
    orderDiscount py raw = .ok discount ∧ orderShipping py raw = .ok shipping ∧
    coerceFloat py (totalValue raw (expectedTotal computed discount shipping)) = .ok n.total ∧
    n.totalMismatch = (!n.items.isEmpty &&
      PyFloat.lt ((expectedTotal computed discount shipping).add (.fin (1 / 100))) n.total) := by
  simp only [normalizeExternalOrder, bind_ok_iff] at h
  obtain ⟨_, _, _, _, items, hitems, ⟨computed, lines⟩, hlines, discount, hdiscount, shipping,
    hshipping, total, htotal, hn⟩ := h
  cases hn
  exact ⟨items, computed, discount, shipping, hitems, hlines, hdiscount, hshipping, htotal, rfl⟩

section Discount
variable {py : Builtins} {v : Json} {computed shipping discount due : PyFloat}
  {fallback : Except PyExc PyFloat}

end Discount

theorem totalValue_eq (raw : Obj) (due : PyFloat) :
    totalValue raw due = (raw.get "total").or (totalFallback raw due) := by
  unfold totalValue totalFallback
  rw [orChain_assoc, orChain_assoc]

end ExplicitValues
