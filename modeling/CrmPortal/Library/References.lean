import CrmPortal.Library.IdentityTable
import Mathlib.Data.Set.Insert

/-!
# References between tables

Rows name identities of another table, or nothing. Identities that come cannot
break a reference, and neither can rows that go; what a write has to know is what
its new rows name, and what a deletion has to know is that nothing names the
identity that it takes away.
-/

namespace References

open IdentityTable

universe u v
variable {Id : Type u} {Row : Type v}

/-- Every identity that a row names is there. -/
def Named (ids : Set Id) (rows : Set Row) (ref : Row → Option Id) : Prop :=
  ∀ row ∈ rows, ∀ id, ref row = some id → id ∈ ids

section Named
variable {ids ids' : Set Id} {rows rows' : Set Row} {ref : Row → Option Id}

theorem Named.mono (h : Named ids rows ref) (hids : ids ⊆ ids') (hrows : rows' ⊆ rows) :
    Named ids' rows' ref :=
  fun row hrow id hid => hids (h row (hrows hrow) id hid)

theorem Named.insert (h : Named ids rows ref) {row : Row}
    (hrow : ∀ id, ref row = some id → id ∈ ids) : Named ids (Insert.insert row rows) ref := by
  rintro other (rfl | hother) id hid
  · exact hrow id hid
  · exact h other hother id hid

/-- An identity that no row names may go. -/
theorem Named.remove (h : Named ids rows ref) {gone : Id}
    (unused : ∀ row ∈ rows, ref row ≠ some gone)
    (hids : ∀ id ∈ ids, id ≠ gone → id ∈ ids') : Named ids' rows ref := by
  intro row hrow id hid
  refine hids id (h row hrow id hid) ?_
  rintro rfl
  exact unused row hrow hid

/-- Each row names what a row before it named, or something that is there. -/
theorem Named.rewrite (h : Named ids rows ref) (hids : ids ⊆ ids')
    (hrows : ∀ row ∈ rows', (∀ id, ref row = some id → id ∈ ids') ∨
      ∃ old ∈ rows, ref old = ref row) : Named ids' rows' ref := by
  intro row hrow id hid
  rcases hrows row hrow with hnew | ⟨old, hold, href⟩
  · exact hnew id hid
  · exact hids (h old hold id (href.trans hid))

end Named

section Tables
variable {Key : Type u} {key : Row → Option Key}

def identities (t : Table Row key) : Set Nat := {i | (t.row i).isSome}

def contents (t : Table Row key) : Set Row := {r | ∃ i, t.row i = some r}

variable {t t' : Table Row key} {i : Nat} {r : Row}

theorem mem_identities (h : t.row i = some r) : i ∈ identities t :=
  Option.isSome_of_eq_some h

theorem mem_identities_iff : i ∈ identities t ↔ ∃ r, t.row i = some r :=
  Option.isSome_iff_exists

theorem identities_congr (h : ∀ j, t'.row j = t.row j) : identities t' = identities t :=
  Set.ext fun j => by simp [identities, h]

theorem contents_congr (h : ∀ j, t'.row j = t.row j) : contents t' = contents t :=
  Set.ext fun r => by simp [contents, h]

theorem identities_extends (h : Table.Extends t t') : identities t ⊆ identities t' :=
  fun _ hj => h.isSome hj

/-- One row is written. -/
theorem identities_put (h : ∀ j, t'.row j = if j = i then some r else t.row j) :
    identities t ⊆ identities t' := by
  intro j hj
  by_cases hji : j = i
  · exact mem_identities ((h j).trans (if_pos hji))
  · obtain ⟨row, hrow⟩ := mem_identities_iff.mp hj
    exact mem_identities ((h j).trans ((if_neg hji).trans hrow))

theorem contents_put (h : ∀ j, t'.row j = if j = i then some r else t.row j) :
    contents t' ⊆ Insert.insert r (contents t) := by
  rintro row ⟨j, hj⟩
  rw [h j] at hj
  split at hj
  · exact Or.inl (Option.some.inj hj).symm
  · exact Or.inr ⟨j, hj⟩

/-- One row is taken away. -/
theorem identities_delete (h : ∀ j, t'.row j = if j = i then none else t.row j) {j : Nat}
    (hj : j ∈ identities t) (hne : j ≠ i) : j ∈ identities t' := by
  obtain ⟨row, hrow⟩ := mem_identities_iff.mp hj
  exact mem_identities ((h j).trans ((if_neg hne).trans hrow))

theorem contents_delete (h : ∀ j, t'.row j = if j = i then none else t.row j) :
    contents t' ⊆ contents t := by
  rintro row ⟨j, hj⟩
  rw [h j] at hj
  split at hj
  · cases hj
  · exact ⟨j, hj⟩

/-- The other columns of the rows are rewritten, here or everywhere. -/
theorem identities_map {f : Nat → Row → Row} (h : ∀ j, t'.row j = (t.row j).map (f j)) :
    identities t' = identities t := by
  ext j
  simp [identities, h]

theorem contents_map {f : Nat → Row → Row} (h : ∀ j, t'.row j = (t.row j).map (f j)) {row : Row}
    (hrow : row ∈ contents t') : ∃ j old, t.row j = some old ∧ row = f j old := by
  obtain ⟨j, hj⟩ := hrow
  rw [h j] at hj
  obtain ⟨old, hold, rfl⟩ := Option.map_eq_some_iff.mp hj
  exact ⟨j, old, hold, rfl⟩

end Tables

end References
