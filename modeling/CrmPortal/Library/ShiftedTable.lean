import CrmPortal.Library.IdentityTable

/-!
# Two tables that differ by a gap of identities

Work that was undone leaves a gap in the identities: every row written later has
an identity past the gap. Two copies of a table, one with such a gap and one
without, hold the same rows under shifted identities, and INSERT, UPDATE, lookup
and rollback keep it so. `f` says how a row changes under the shift, for rows that
hold identities of their own or of other tables.
-/

namespace IdentityTable

universe u v
variable {Row : Type u} {Key : Type v}

/-- The identities from `start` on, `len` of them, that name no row. -/
structure Gap where
  start : Nat
  len : Nat

namespace Gap

/-- The identity that a row has in the copy with the gap. -/
def skip (g : Gap) (i : Nat) : Nat := if i < g.start then i else i + g.len

def holds (g : Gap) (i : Nat) : Bool := decide (g.start ≤ i) && decide (i < g.start + g.len)

theorem holds_iff {g : Gap} {i : Nat} :
    g.holds i = true ↔ g.start ≤ i ∧ i < g.start + g.len := by
  simp [holds]

theorem skip_of_lt {g : Gap} {i : Nat} (h : i < g.start) : g.skip i = i := if_pos h

theorem skip_of_ge {g : Gap} {i : Nat} (h : g.start ≤ i) : g.skip i = i + g.len :=
  if_neg (by omega)

theorem skip_injective (g : Gap) : Function.Injective g.skip := by
  intro i j h
  unfold skip at h
  split at h <;> split at h <;> omega

@[simp] theorem skip_inj (g : Gap) {i j : Nat} : g.skip i = g.skip j ↔ i = j :=
  g.skip_injective.eq_iff

/-- An identity is in the gap or is the shift of another. -/
theorem holds_or_skip (g : Gap) (j : Nat) : g.holds j = true ∨ ∃ i, j = g.skip i := by
  by_cases hlow : j < g.start
  · exact Or.inr ⟨j, (skip_of_lt hlow).symm⟩
  by_cases hhigh : g.start + g.len ≤ j
  · refine Or.inr ⟨j - g.len, ?_⟩
    have hge : g.start ≤ j - g.len := by omega
    rw [skip_of_ge hge]
    omega
  · exact Or.inl (holds_iff.mpr ⟨by omega, by omega⟩)

end Gap

namespace Table
variable {key : Row → Option Key} {g : Gap} {f : Row → Row} {t t' u u' : Table Row key}

/-- `t'` is `t` with the gap `g`. -/
structure Shifted (g : Gap) (f : Row → Row) (t t' : Table Row key) : Prop where
  rows : ∀ i, t'.row (g.skip i) = (t.row i).map f
  gap : ∀ j, g.holds j = true → t'.row j = none
  next : t'.next = t.next + g.len
  reached : g.start ≤ t.next

/-- The identities handed out between two states of a table. -/
def gapSince (t later : Table Row key) : Gap := ⟨t.next, later.next - t.next⟩

theorem gapSince_skip (t later : Table Row key) {i : Nat} (h : (t.row i).isSome) :
    (gapSince t later).skip i = i := by
  obtain ⟨r, hr⟩ := Option.isSome_iff_exists.mp h
  exact Gap.skip_of_lt (lt_next hr)

theorem gapSince_holds {t later : Table Row key} {i : Nat} (low : t.next ≤ i)
    (high : i < later.next) : (gapSince t later).holds i = true := by
  have hend : i < t.next + (later.next - t.next) := by omega
  exact Gap.holds_iff.mpr ⟨low, hend⟩

/-- What undone work leaves, where no row of before changes under the shift. -/
theorem Shifted.ofRollback (t later : Table Row key) (same : ∀ i r, t.row i = some r → f r = r) :
    Shifted (gapSince t (t.rollback later)) f t (t.rollback later) where
  rows := by
    intro i
    rw [rollback_row]
    cases hrow : t.row i with
    | some r =>
      have hkept := gapSince_skip t (t.rollback later) (Option.isSome_of_eq_some hrow)
      rw [hkept, hrow, Option.map_some, same i r hrow]
    | none =>
      rw [Option.map_none]
      by_cases hi : i < t.next
      · have hkept : (gapSince t (t.rollback later)).skip i = i := Gap.skip_of_lt hi
        rw [hkept, hrow]
      · have hmoved : (gapSince t (t.rollback later)).skip i = i + _ := Gap.skip_of_ge (by
          exact Nat.le_of_not_lt hi)
        rw [hmoved]
        exact t.fresh _ (by omega)
  gap := fun j hj => t.fresh j (Gap.holds_iff.mp hj).1
  next := by
    have hle : t.next ≤ (t.rollback later).next := Nat.le_max_left _ _
    change (t.rollback later).next = t.next + ((t.rollback later).next - t.next)
    omega
  reached := Nat.le_refl _

theorem Shifted.skip_next (h : Shifted g f t t') : g.skip t.next = t'.next := by
  rw [Gap.skip_of_ge h.reached, h.next]

theorem Shifted.isSome (h : Shifted g f t t') (i : Nat) :
    (t'.row (g.skip i)).isSome = (t.row i).isSome := by
  rw [h.rows, Option.isSome_map]

/-- Every row of the copy is a row of the original. -/
theorem Shifted.preimage (h : Shifted g f t t') {j : Nat} {r : Row} (hr : t'.row j = some r) :
    ∃ i s, j = g.skip i ∧ t.row i = some s ∧ f s = r := by
  rcases g.holds_or_skip j with hgap | ⟨i, rfl⟩
  · rw [h.gap j hgap] at hr
    cases hr
  · rw [h.rows, Option.map_eq_some_iff] at hr
    obtain ⟨s, hs, hf⟩ := hr
    exact ⟨i, s, rfl, hs, hf⟩

/-- `t'` holds the rows of `t` under other identities, and no others. -/
structure Renamed (ρ : Nat → Nat) (f : Row → Row) (t t' : Table Row key) : Prop where
  injective : Function.Injective ρ
  rows : ∀ i, t'.row (ρ i) = (t.row i).map f
  onto : ∀ j r, t'.row j = some r → ∃ i, j = ρ i

theorem Shifted.renamed (h : Shifted g f t t') : Renamed g.skip f t t' where
  injective := g.skip_injective
  rows := h.rows
  onto := by
    intro j r hr
    obtain ⟨i, _, hi, _⟩ := h.preimage hr
    exact ⟨i, hi⟩

theorem Shifted.rollback (h : Shifted g f t t') (k : Shifted g f u u') :
    Shifted g f (t.rollback u) (t'.rollback u') where
  rows := h.rows
  gap := h.gap
  next := by
    have hnext := h.next
    have knext := k.next
    simp only [rollback_next]
    omega
  reached := Nat.le_trans h.reached (Nat.le_max_left _ _)

theorem Shifted.modify (h : Shifted g f t t') (i : Nat) {a b : Row → Row}
    (keepsA : ∀ r, key (a r) = key r) (keepsB : ∀ r, key (b r) = key r)
    (comm : ∀ r, f (a r) = b (f r)) :
    Shifted g f (t.modify i a keepsA) (t'.modify (g.skip i) b keepsB) where
  rows := by
    intro j
    simp only [modify_row, Gap.skip_inj]
    by_cases hj : j = i
    · rw [if_pos hj, if_pos hj, h.rows, Option.map_map, Option.map_map]
      exact congrArg (Option.map · (t.row j)) (funext fun r => (comm r).symm)
    · rw [if_neg hj, if_neg hj, h.rows]
  gap := by
    intro j hj
    rw [modify_row, h.gap j hj]
    exact ite_self _
  next := h.next
  reached := h.reached

section Keyed
variable [DecidableEq Key]

theorem Shifted.find (h : Shifted g f t t') (keeps : ∀ r, key (f r) = key r) (k : Key) :
    t'.find k = (t.find k).map g.skip := by
  cases hf : t.find k with
  | some i =>
    obtain ⟨r, hr, hk⟩ := (t.find_eq_some_iff k i).mp hf
    refine (t'.find_eq_some_iff k (g.skip i)).mpr ⟨f r, ?_, (keeps r).trans hk⟩
    rw [h.rows, hr, Option.map_some]
  | none =>
    rw [Option.map_none, find_eq_none_iff]
    intro j r hr hk
    obtain ⟨i, s, _, hs, rfl⟩ := h.preimage hr
    exact (t.find_eq_none_iff k).mp hf i s hs ((keeps s).symm.trans hk)

/-- A row and its shifted form are both inserted, one identity past the gap from
the other, or both refused. -/
theorem Shifted.insert (h : Shifted g f t t') (keeps : ∀ r, key (f r) = key r) (r : Row) :
    (t.insert r = none ∧ t'.insert (f r) = none) ∨
      ∃ u u', t.insert r = some (t.next, u) ∧ t'.insert (f r) = some (g.skip t.next, u') ∧
        Shifted g f u u' := by
  by_cases hfree : (t.insert r).isSome
  · obtain ⟨⟨i, u⟩, hu⟩ := Option.isSome_iff_exists.mp hfree
    have hfree' : (t'.insert (f r)).isSome := by
      rw [insert_isSome_iff] at hfree ⊢
      intro k hk
      rw [h.find keeps, hfree k ((keeps r).symm.trans hk), Option.map_none]
    obtain ⟨⟨i', u'⟩, hu'⟩ := Option.isSome_iff_exists.mp hfree'
    obtain ⟨rfl, _, hnext, hrow⟩ := insert_eq_some hu
    obtain ⟨rfl, _, hnext', hrow'⟩ := insert_eq_some hu'
    refine Or.inr ⟨u, u', hu, ?_, ?_, ?_, ?_, ?_⟩
    · rw [h.skip_next, hu']
    · intro i
      rw [hrow, hrow', ← h.skip_next]
      simp only [Gap.skip_inj]
      by_cases hi : i = t.next
      · rw [if_pos hi, if_pos hi, Option.map_some]
      · rw [if_neg hi, if_neg hi, h.rows]
    · intro j hj
      have hne : j ≠ t'.next := by
        have hlt := (Gap.holds_iff.mp hj).2
        have hreached := h.reached
        have hshift := h.next
        omega
      rw [hrow', if_neg hne, h.gap j hj]
    · rw [hnext, hnext', h.next]
      omega
    · rw [hnext]
      exact Nat.le_succ_of_le h.reached
  · have hbusy : ¬ (t'.insert (f r)).isSome := by
      rw [insert_isSome_iff] at hfree ⊢
      intro hno
      refine hfree fun k hk => ?_
      have hnone := hno k ((keeps r).trans hk)
      rw [h.find keeps, Option.map_eq_none_iff] at hnone
      exact hnone
    exact Or.inl ⟨Option.not_isSome_iff_eq_none.mp hfree, Option.not_isSome_iff_eq_none.mp hbusy⟩

end Keyed
end Table
end IdentityTable
