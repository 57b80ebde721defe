import Mathlib.Logic.Function.Basic
import Mathlib.Data.List.Nodup
import Mathlib.Data.Finset.Card

/-!
# Tables with generated identities and one unique key

A table maps identities to rows. The sequence `next` is never set back, not even
by a rollback, so an identity handed out in work that was undone names no row
afterwards. `key` is the column list of a UNIQUE constraint; a row whose key is
`none` (a NULL column) takes no part in it. Both facts are fields: a table with
a repeated key cannot be built.
-/

namespace IdentityTable

universe u v
variable {Row : Type u} {Key : Type v}

structure Table (Row : Type u) {Key : Type v} (key : Row → Option Key) where
  row : Nat → Option Row
  next : Nat
  fresh : ∀ i, next ≤ i → row i = none
  unique : ∀ i j r s k, row i = some r → row j = some s →
    key r = some k → key s = some k → i = j

namespace Table
variable {key : Row → Option Key}

def empty : Table Row key where
  row := fun _ => none
  next := 1
  fresh := fun _ _ => rfl
  unique := by intro i j r s k h; cases h

theorem lt_next {t : Table Row key} {i : Nat} {r : Row} (h : t.row i = some r) :
    i < t.next := by
  by_contra hge
  rw [t.fresh i (by omega)] at h
  cases h

section Find
variable [DecidableEq Key]

/-- The identity of the row with key `k`, found by a scan. -/
def find (t : Table Row key) (k : Key) : Option Nat :=
  (List.range t.next).find? (fun i => decide ((t.row i).bind key = some k))

theorem find_eq_some_iff (t : Table Row key) (k : Key) (i : Nat) :
    t.find k = some i ↔ ∃ r, t.row i = some r ∧ key r = some k := by
  constructor
  · intro h
    have hkey := List.find?_some h
    simpa [Option.bind_eq_some_iff] using hkey
  · rintro ⟨r, hr, hk⟩
    have hmem : i ∈ List.range t.next := List.mem_range.mpr (lt_next hr)
    cases hf : t.find k with
    | none =>
      have hno := List.find?_eq_none.mp hf i hmem
      simp [hr, hk] at hno
    | some j =>
      have hj : ∃ s, t.row j = some s ∧ key s = some k := by
        have hkey := List.find?_some hf
        simpa [Option.bind_eq_some_iff] using hkey
      obtain ⟨s, hs, hks⟩ := hj
      exact congrArg some (t.unique j i s r k hs hr hks hk)

theorem find_eq_none_iff (t : Table Row key) (k : Key) :
    t.find k = none ↔ ∀ i r, t.row i = some r → key r ≠ some k := by
  constructor
  · intro h i r hr hk
    have hf := (t.find_eq_some_iff k i).mpr ⟨r, hr, hk⟩
    rw [h] at hf
    cases hf
  · intro h
    cases hf : t.find k with
    | none => rfl
    | some i =>
      obtain ⟨r, hr, hk⟩ := (t.find_eq_some_iff k i).mp hf
      exact False.elim (h i r hr hk)

end Find

/-- Rows are added and none is changed or taken away. -/
def Extends (t t' : Table Row key) : Prop := ∀ i r, t.row i = some r → t'.row i = some r

theorem Extends.refl (t : Table Row key) : Extends t t := fun _ _ h => h

theorem Extends.trans {t u v : Table Row key} (h : Extends t u) (k : Extends u v) :
    Extends t v := fun i r hr => k i r (h i r hr)

theorem Extends.isSome {t u : Table Row key} (h : Extends t u) {i : Nat}
    (hi : (t.row i).isSome) : (u.row i).isSome := by
  obtain ⟨r, hr⟩ := Option.isSome_iff_exists.mp hi
  exact Option.isSome_of_eq_some (h i r hr)

section Writes
variable [DecidableEq Key]

/-- No row other than `i` holds the key of `r`. -/
def FreeBut (t : Table Row key) (i : Nat) (r : Row) : Prop :=
  ∀ k, key r = some k → ∀ j, t.find k = some j → j = i

instance (t : Table Row key) (i : Nat) (r : Row) : Decidable (t.FreeBut i r) :=
  match hk : key r with
  | none => isTrue (by intro k h; rw [hk] at h; cases h)
  | some k =>
    match hf : t.find k with
    | none => isTrue (by
        intro k' h j hj
        obtain rfl : k = k' := Option.some.inj (hk.symm.trans h)
        rw [hf] at hj; cases hj)
    | some j =>
      if h : j = i then isTrue (by
        intro k' h' j' hj
        obtain rfl : k = k' := Option.some.inj (hk.symm.trans h')
        rw [hf] at hj; cases hj; exact h)
      else isFalse (fun hfree => h (hfree k hk j hf))

theorem FreeBut.other {t : Table Row key} {i : Nat} {r : Row} (h : t.FreeBut i r)
    {j : Nat} {s : Row} {k : Key} (hs : t.row j = some s) (hk : key s = some k)
    (hr : key r = some k) : j = i :=
  h k hr j ((t.find_eq_some_iff k j).mpr ⟨s, hs, hk⟩)

/-- Write `r` under identity `i`, moving the sequence past it. -/
def put (t : Table Row key) (i : Nat) (r : Row) (h : t.FreeBut i r) : Table Row key where
  row := fun j => if j = i then some r else t.row j
  next := max t.next (i + 1)
  fresh := by
    intro j hj
    have hne : j ≠ i := by omega
    simp only [if_neg hne]
    exact t.fresh j (by omega)
  unique := by
    intro a b ra rb k ha hb hka hkb
    by_cases hai : a = i <;> by_cases hbi : b = i
    · exact hai.trans hbi.symm
    · simp only [if_pos hai, Option.some.injEq] at ha
      simp only [if_neg hbi] at hb
      subst ha
      exact hai.trans (h.other hb hkb hka).symm
    · simp only [if_neg hai] at ha
      simp only [if_pos hbi, Option.some.injEq] at hb
      subst hb
      exact (h.other ha hka hkb).trans hbi.symm
    · simp only [if_neg hai] at ha
      simp only [if_neg hbi] at hb
      exact t.unique a b ra rb k ha hb hka hkb

/-- INSERT: the row gets the next identity, or the constraint refuses it. -/
def insert (t : Table Row key) (r : Row) : Option (Nat × Table Row key) :=
  if h : t.FreeBut t.next r then some (t.next, t.put t.next r h) else none

/-- UPDATE of one row, which may move its key. -/
def replace (t : Table Row key) (i : Nat) (r : Row) : Option (Table Row key) :=
  if h : t.FreeBut i r then some (t.put i r h) else none

@[simp] theorem put_row (t : Table Row key) (i : Nat) (r : Row) (h : t.FreeBut i r) (j : Nat) :
    (t.put i r h).row j = if j = i then some r else t.row j := rfl

@[simp] theorem put_next (t : Table Row key) (i : Nat) (r : Row) (h : t.FreeBut i r) :
    (t.put i r h).next = max t.next (i + 1) := rfl

theorem insert_eq_some {t t' : Table Row key} {r : Row} {i : Nat}
    (h : t.insert r = some (i, t')) :
    i = t.next ∧ t.row i = none ∧ t'.next = t.next + 1 ∧
      ∀ j, t'.row j = if j = i then some r else t.row j := by
  unfold insert at h
  split at h
  · next hfree =>
    cases h
    refine ⟨rfl, t.fresh _ (Nat.le_refl _), ?_, fun j => rfl⟩
    simp
  · cases h

theorem insert_extends {t t' : Table Row key} {r : Row} {i : Nat}
    (h : t.insert r = some (i, t')) : Extends t t' := by
  obtain ⟨_, hfree, _, hrow⟩ := insert_eq_some h
  intro j s hs
  have hne : j ≠ i := by
    rintro rfl
    rw [hfree] at hs
    cases hs
  rw [hrow j, if_neg hne, hs]

theorem insert_eq_none_iff (t : Table Row key) (r : Row) :
    t.insert r = none ↔ ∃ k, key r = some k ∧ (t.find k).isSome := by
  unfold insert
  constructor
  · intro h
    split at h
    · cases h
    · next hfree =>
      simp only [FreeBut, not_forall] at hfree
      obtain ⟨k, hk, j, hj, _⟩ := hfree
      exact ⟨k, hk, by rw [hj]; rfl⟩
  · rintro ⟨k, hk, hsome⟩
    obtain ⟨j, hj⟩ := Option.isSome_iff_exists.mp hsome
    have hbusy : ¬ t.FreeBut t.next r := by
      intro hfree
      obtain ⟨s, hs, _⟩ := (t.find_eq_some_iff k j).mp hj
      have := lt_next hs
      have := hfree k hk j hj
      omega
    simp only [dif_neg hbusy]

/-- A row is inserted exactly when no row holds its key. -/
theorem insert_isSome_iff (t : Table Row key) (r : Row) :
    (t.insert r).isSome ↔ ∀ k, key r = some k → t.find k = none := by
  rw [Option.isSome_iff_ne_none, Ne, insert_eq_none_iff]
  constructor
  · intro h k hk
    cases hf : t.find k with
    | none => rfl
    | some j => exact False.elim (h ⟨k, hk, by rw [hf]; rfl⟩)
  · rintro h ⟨k, hk, hsome⟩
    rw [h k hk] at hsome
    cases hsome

theorem replace_eq_some {t t' : Table Row key} {r : Row} {i : Nat}
    (h : t.replace i r = some t') :
    t'.next = max t.next (i + 1) ∧ ∀ j, t'.row j = if j = i then some r else t.row j := by
  unfold replace at h
  split at h
  · cases h
    exact ⟨rfl, fun j => rfl⟩
  · cases h

end Writes

/-- UPDATE of one row's other columns. -/
def modify (t : Table Row key) (i : Nat) (f : Row → Row) (keeps : ∀ r, key (f r) = key r) :
    Table Row key where
  row := fun j => if j = i then (t.row j).map f else t.row j
  next := t.next
  fresh := by
    intro j hj
    simp [t.fresh j hj]
  unique := by
    have back : ∀ j r, (if j = i then (t.row j).map f else t.row j) = some r →
        ∃ s, t.row j = some s ∧ key r = key s := by
      intro j r h
      by_cases hj : j = i
      · simp only [if_pos hj, Option.map_eq_some_iff] at h
        obtain ⟨s, hs, rfl⟩ := h
        exact ⟨s, hs, keeps s⟩
      · simp only [if_neg hj] at h
        exact ⟨r, h, rfl⟩
    intro a b ra rb k ha hb hka hkb
    obtain ⟨sa, hsa, hea⟩ := back a ra ha
    obtain ⟨sb, hsb, heb⟩ := back b rb hb
    exact t.unique a b sa sb k hsa hsb (hea ▸ hka) (heb ▸ hkb)

/-- UPDATE of the other columns of every row. -/
def mapRows (t : Table Row key) (f : Row → Row) (keeps : ∀ r, key (f r) = key r) :
    Table Row key where
  row := fun j => (t.row j).map f
  next := t.next
  fresh := by
    intro j hj
    simp [t.fresh j hj]
  unique := by
    intro a b ra rb k ha hb hka hkb
    obtain ⟨sa, hsa, rfl⟩ := Option.map_eq_some_iff.mp ha
    obtain ⟨sb, hsb, rfl⟩ := Option.map_eq_some_iff.mp hb
    exact t.unique a b sa sb k hsa hsb (keeps sa ▸ hka) (keeps sb ▸ hkb)

def delete (t : Table Row key) (i : Nat) : Table Row key where
  row := fun j => if j = i then none else t.row j
  next := t.next
  fresh := by
    intro j hj
    simp [t.fresh j hj]
  unique := by
    intro a b ra rb k ha hb hka hkb
    by_cases hai : a = i
    · simp [hai] at ha
    by_cases hbi : b = i
    · simp [hbi] at hb
    simp only [if_neg hai] at ha
    simp only [if_neg hbi] at hb
    exact t.unique a b ra rb k ha hb hka hkb

/-- The rows of `t` come back; the identities `later` handed out stay used. -/
def rollback (t later : Table Row key) : Table Row key where
  row := t.row
  next := max t.next later.next
  fresh := fun i hi => t.fresh i (by omega)
  unique := t.unique

@[simp] theorem modify_row (t : Table Row key) (i : Nat) (f : Row → Row)
    (keeps : ∀ r, key (f r) = key r) (j : Nat) :
    (t.modify i f keeps).row j = if j = i then (t.row j).map f else t.row j := rfl

@[simp] theorem mapRows_row (t : Table Row key) (f : Row → Row) (keeps : ∀ r, key (f r) = key r)
    (j : Nat) : (t.mapRows f keeps).row j = (t.row j).map f := rfl

/-- An UPDATE that finds nothing to change. -/
theorem mapRows_same {t : Table Row key} {f : Row → Row} (keeps : ∀ r, key (f r) = key r)
    (h : ∀ i r, t.row i = some r → f r = r) : t.mapRows f keeps = t := by
  have hrow : (fun j => (t.row j).map f) = t.row := by
    funext j
    cases hj : t.row j with
    | none => rfl
    | some r => exact congrArg some (h j r hj)
  obtain ⟨row, next, fresh, unique⟩ := t
  simpa [mapRows] using hrow

@[simp] theorem delete_row (t : Table Row key) (i j : Nat) :
    (t.delete i).row j = if j = i then none else t.row j := rfl

@[simp] theorem rollback_row (t later : Table Row key) (i : Nat) :
    (t.rollback later).row i = t.row i := rfl

@[simp] theorem rollback_next (t later : Table Row key) :
    (t.rollback later).next = max t.next later.next := rfl

theorem rollback_self (t : Table Row key) : t.rollback t = t := by
  obtain ⟨row, next, fresh, unique⟩ := t
  simp [rollback]

/-- Lookups read the rows only. -/
theorem find_congr [DecidableEq Key] {t s : Table Row key} (rows : ∀ i, t.row i = s.row i)
    (k : Key) : t.find k = s.find k := by
  cases hf : s.find k with
  | none =>
    rw [find_eq_none_iff] at hf ⊢
    intro i r hr
    exact hf i r ((rows i).symm.trans hr)
  | some i =>
    rw [find_eq_some_iff] at hf ⊢
    obtain ⟨r, hr, hk⟩ := hf
    exact ⟨r, (rows i).trans hr, hk⟩

section Get
variable [DecidableEq Key] {t t' : Table Row key} {k : Key}

/-- The row with key `k`. -/
def get (t : Table Row key) (k : Key) : Option Row := (t.find k).bind t.row

theorem get_eq_some_iff {r : Row} :
    t.get k = some r ↔ ∃ i, t.row i = some r ∧ key r = some k := by
  unfold get
  rw [Option.bind_eq_some_iff]
  constructor
  · rintro ⟨i, hi, hr⟩
    obtain ⟨s, hs, hk⟩ := (t.find_eq_some_iff k i).mp hi
    obtain rfl : s = r := Option.some.inj (hs.symm.trans hr)
    exact ⟨i, hs, hk⟩
  · rintro ⟨i, hr, hk⟩
    exact ⟨i, (t.find_eq_some_iff k i).mpr ⟨r, hr, hk⟩, hr⟩

theorem get_congr (rows : ∀ i, t.row i = t'.row i) : t.get k = t'.get k := by
  unfold get
  rw [find_congr rows k]
  exact Option.bind_congr fun i _ => rows i

theorem get_insert {r : Row} {i : Nat} (h : t.insert r = some (i, t')) {new : Key}
    (hnew : key r = some new) : t'.get k = if k = new then some r else t.get k := by
  obtain ⟨-, hfresh, -, hrow⟩ := insert_eq_some h
  by_cases hk : k = new
  · rw [if_pos hk, get_eq_some_iff]
    exact ⟨i, by rw [hrow, if_pos rfl], hk ▸ hnew⟩
  · rw [if_neg hk]
    apply Option.ext
    intro s
    rw [get_eq_some_iff, get_eq_some_iff]
    constructor
    · rintro ⟨j, hs, hks⟩
      rw [hrow] at hs
      by_cases hj : j = i
      · rw [if_pos hj] at hs
        obtain rfl := Option.some.inj hs
        exact absurd (Option.some.inj (hks.symm.trans hnew)) hk
      · rw [if_neg hj] at hs
        exact ⟨j, hs, hks⟩
    · rintro ⟨j, hs, hks⟩
      have hj : j ≠ i := by
        rintro rfl
        rw [hfresh] at hs
        cases hs
      exact ⟨j, by rw [hrow, if_neg hj]; exact hs, hks⟩

theorem get_delete {i : Nat} {old : Key} (h : t.find old = some i) :
    (t.delete i).get k = if k = old then none else t.get k := by
  obtain ⟨r, hr, hkr⟩ := (t.find_eq_some_iff old i).mp h
  apply Option.ext
  intro s
  rw [get_eq_some_iff]
  by_cases hk : k = old
  · rw [if_pos hk]
    constructor
    · rintro ⟨j, hs, hks⟩
      by_cases hj : j = i
      · simp [hj] at hs
      · rw [delete_row, if_neg hj] at hs
        exact absurd (t.unique j i s r k hs hr hks (hk ▸ hkr)) hj
    · intro hs
      cases hs
  · rw [if_neg hk, get_eq_some_iff]
    constructor
    · rintro ⟨j, hs, hks⟩
      by_cases hj : j = i
      · simp [hj] at hs
      · rw [delete_row, if_neg hj] at hs
        exact ⟨j, hs, hks⟩
    · rintro ⟨j, hs, hks⟩
      have hj : j ≠ i := by
        rintro rfl
        obtain rfl : r = s := Option.some.inj (hr.symm.trans hs)
        exact hk (Option.some.inj (hks.symm.trans hkr))
      exact ⟨j, by rw [delete_row, if_neg hj]; exact hs, hks⟩

end Get

/-- A SELECT of the whole table: each row once, in an order of the server's choice. -/
structure Listing (t : Table Row key) where
  rows : List (Nat × Row)
  complete : ∀ i r, (i, r) ∈ rows ↔ t.row i = some r
  once : (rows.map Prod.fst).Nodup

/-- The rows in the order of their identities. -/
def listing (t : Table Row key) : Listing t where
  rows := (List.range t.next).filterMap fun i => (t.row i).map (Prod.mk i)
  complete := by
    intro i r
    rw [List.mem_filterMap]
    constructor
    · rintro ⟨j, _, hj⟩
      obtain ⟨s, hs, hpair⟩ := Option.map_eq_some_iff.mp hj
      obtain ⟨rfl, rfl⟩ := Prod.mk.inj hpair
      exact hs
    · intro h
      exact ⟨i, List.mem_range.mpr (lt_next h), by rw [h]; rfl⟩
  once := by
    rw [List.map_filterMap]
    refine List.Nodup.filterMap ?_ List.nodup_range
    intro a b i ha hb
    simp only [Option.map_map, Option.mem_def, Option.map_eq_some_iff] at ha hb
    obtain ⟨_, _, rfl⟩ := ha
    obtain ⟨_, _, rfl⟩ := hb
    rfl

/-- What names a row by its identity names one row. -/
theorem listing_countP_le_one (t : Table Row key) (id : Option Nat) :
    t.listing.rows.countP (fun row => decide (id = some row.1)) ≤ 1 := by
  cases id with
  | none => simp
  | some i =>
    have hcount : t.listing.rows.countP (fun row => decide (some i = some row.1)) =
        (t.listing.rows.map Prod.fst).count i := by
      rw [List.count_eq_countP, List.countP_map]
      refine List.countP_congr fun row _ => ?_
      simp only [Option.some.injEq, Function.comp_apply, beq_iff_eq, decide_eq_true_eq]
      exact eq_comm
    rw [hcount]
    exact List.nodup_iff_count_le_one.mp t.listing.once i

/-- A search by identity is a lookup. -/
theorem find_listing (t : Table Row key) (id : Option Nat) :
    t.listing.rows.find? (fun row => decide (id = some row.1)) =
      id.bind fun i => (t.row i).map (Prod.mk i) := by
  cases id with
  | none => simp
  | some i =>
    cases hrow : t.row i with
    | none =>
      rw [List.find?_eq_none.mpr]
      · simp [hrow]
      · intro row hmem hsame
        obtain rfl := Option.some.inj (of_decide_eq_true hsame)
        have hthere := (t.listing.complete row.1 row.2).mp hmem
        rw [hrow] at hthere
        cases hthere
    | some r =>
      have hmem : (i, r) ∈ t.listing.rows := (t.listing.complete i r).mpr hrow
      cases hfind : t.listing.rows.find? fun row => decide (some i = some row.1) with
      | none => exact absurd (decide_eq_true rfl) (List.find?_eq_none.mp hfind _ hmem)
      | some found =>
        have htaken := List.find?_some hfind
        have hsame : i = found.1 := Option.some.inj (of_decide_eq_true htaken)
        have hthere := (t.listing.complete found.1 found.2).mp (List.mem_of_find?_eq_some hfind)
        rw [← hsame, hrow] at hthere
        have hfound : found = (i, r) := Prod.ext hsame.symm (Option.some.inj hthere).symm
        rw [hfound, Option.bind_some, hrow]
        rfl

/-- SELECT COUNT(*). -/
def count (t : Table Row key) : Nat := t.listing.rows.length

section Count
variable [DecidableEq Key] {t t' : Table Row key}

def keys (t : Table Row key) : Finset Key :=
  (t.listing.rows.filterMap fun row => key row.2).toFinset

theorem mem_keys_iff {k : Key} : k ∈ t.keys ↔ (t.get k).isSome := by
  rw [keys, List.mem_toFinset, List.mem_filterMap, Option.isSome_iff_exists]
  constructor
  · rintro ⟨⟨i, r⟩, hmem, hk⟩
    exact ⟨r, get_eq_some_iff.mpr ⟨i, (t.listing.complete i r).mp hmem, hk⟩⟩
  · rintro ⟨r, hr⟩
    obtain ⟨i, hi, hk⟩ := get_eq_some_iff.mp hr
    exact ⟨(i, r), (t.listing.complete i r).mpr hi, hk⟩

/-- Where no row is without a key, there are as many rows as keys. -/
theorem count_eq_card (keyed : ∀ r, (key r).isSome) (t : Table Row key) :
    t.count = t.keys.card := by
  have hnodup : (t.listing.rows.filterMap fun row => key row.2).Nodup := by
    have hpairs : t.listing.rows.Pairwise fun a b => a.1 ≠ b.1 :=
      List.pairwise_map.mp t.listing.once
    refine List.pairwise_filterMap.mpr (hpairs.imp_of_mem ?_)
    rintro ⟨i, r⟩ ⟨j, s⟩ hi hj hne k hk k' hk' rfl
    exact hne (t.unique i j r s k ((t.listing.complete i r).mp hi)
      ((t.listing.complete j s).mp hj) hk hk')
  rw [keys, List.toFinset_card_of_nodup hnodup, count]
  exact (List.filterMap_length_eq_length.mpr fun row _ => keyed row.2).symm

theorem count_congr (keyed : ∀ r, (key r).isSome) (same : ∀ k, t'.get k = t.get k) :
    t'.count = t.count := by
  have hkeys : t'.keys = t.keys := by
    ext k
    rw [mem_keys_iff, mem_keys_iff, same k]
  rw [count_eq_card keyed, count_eq_card keyed, hkeys]

theorem count_insert (keyed : ∀ r, (key r).isSome) {r : Row} {i : Nat}
    (h : t.insert r = some (i, t')) : t'.count = t.count + 1 := by
  obtain ⟨new, hnew⟩ := Option.isSome_iff_exists.mp (keyed r)
  have hfree : t.find new = none :=
    (t.insert_isSome_iff r).mp (Option.isSome_of_eq_some h) new hnew
  have hkeys : t'.keys = Insert.insert new t.keys := by
    ext k
    rw [Finset.mem_insert, mem_keys_iff, mem_keys_iff, get_insert h hnew]
    by_cases hk : k = new
    · simp [hk]
    · simp [hk]
  have hnot : new ∉ t.keys := by
    rw [mem_keys_iff, get, hfree]
    simp
  rw [count_eq_card keyed, count_eq_card keyed, hkeys, Finset.card_insert_of_notMem hnot]

theorem count_delete (keyed : ∀ r, (key r).isSome) {i : Nat} {old : Key}
    (h : t.find old = some i) : (t.delete i).count + 1 = t.count := by
  obtain ⟨r, hr, hk⟩ := (t.find_eq_some_iff old i).mp h
  have hkeys : (t.delete i).keys = t.keys.erase old := by
    ext k
    rw [Finset.mem_erase, mem_keys_iff, mem_keys_iff, get_delete h]
    by_cases hk : k = old
    · simp [hk]
    · simp [hk]
  have hmem : old ∈ t.keys := by
    rw [mem_keys_iff, get_eq_some_iff.mpr ⟨i, hr, hk⟩]
    rfl
  rw [count_eq_card keyed, count_eq_card keyed, hkeys, Finset.card_erase_add_one hmem]

end Count

/-- SELECT COUNT(*) WHERE. -/
def countWhere (t : Table Row key) (p : Row → Bool) : Nat :=
  t.listing.rows.countP fun row => p row.2

section CountWhere
variable {t t' : Table Row key}

theorem count_eq_countWhere : t.count = t.countWhere fun _ => true :=
  congrFun List.countP_true.symm t.listing.rows

/-- Identities that name no row do not show. -/
theorem listing_range {n : Nat} (h : t.next ≤ n) :
    ((List.range n).filterMap fun i => (t.row i).map (Prod.mk i)) = t.listing.rows := by
  obtain ⟨more, rfl⟩ := Nat.exists_eq_add_of_le h
  rw [List.range_add, List.filterMap_append]
  have hnone : (((List.range more).map (t.next + ·)).filterMap fun i =>
      (t.row i).map (Prod.mk i)) = [] := by
    rw [List.filterMap_eq_nil_iff]
    intro i hi
    obtain ⟨j, -, rfl⟩ := List.mem_map.mp hi
    rw [t.fresh _ (Nat.le_add_right _ _)]
    rfl
  rw [hnone, List.append_nil]
  rfl

theorem listing_congr (rows : ∀ i, t'.row i = t.row i) : t'.listing.rows = t.listing.rows := by
  rw [← listing_range (Nat.le_max_left t'.next t.next),
    ← listing_range (Nat.le_max_right t'.next t.next)]
  exact List.filterMap_congr fun i _ => by rw [rows i]

theorem countWhere_range {n : Nat} (h : t.next ≤ n) (p : Row → Bool) :
    t.countWhere p = (List.range n).countP fun i => (t.row i).any p := by
  rw [countWhere, ← listing_range h, List.countP_filterMap]
  refine List.countP_congr fun i _ => ?_
  cases t.row i with
  | none => rfl
  | some r => rfl

/-- Rows that keep the property are counted again. -/
theorem countWhere_mono {p : Row → Bool}
    (rows : ∀ i r, t.row i = some r → p r = true → ∃ r', t'.row i = some r' ∧ p r' = true) :
    t.countWhere p ≤ t'.countWhere p := by
  rw [countWhere_range (Nat.le_max_left t.next t'.next),
    countWhere_range (Nat.le_max_right t.next t'.next)]
  refine List.countP_mono_left fun i _ hold => ?_
  obtain ⟨r, hrow, hr⟩ := (Option.any_eq_true p _).mp hold
  exact (Option.any_eq_true p _).mpr (rows i r hrow hr)

theorem countP_change {p q : Nat → Bool} {i : Nat} {l : List Nat} (once : l.Nodup) (hi : i ∈ l)
    (same : ∀ j, j ≠ i → q j = p j) :
    l.countP q + (p i).toNat = l.countP p + (q i).toNat := by
  induction l with
  | nil => cases hi
  | cons j rest ih =>
    obtain ⟨hj, hrest⟩ := List.nodup_cons.mp once
    rw [List.countP_cons, List.countP_cons]
    rcases List.mem_cons.mp hi with rfl | hmem
    · have hsame : rest.countP q = rest.countP p :=
        List.countP_congr fun k hk => by rw [same k fun heq => hj (heq ▸ hk)]
      rw [hsame]
      cases p i <;> cases q i <;> simp
    · have hne : j ≠ i := fun heq => hj (heq ▸ hmem)
      have hchange := ih hrest hmem
      rw [same j hne]
      omega

/-- One row is another one now. -/
theorem countWhere_update {i : Nat} {r r' : Row} (hrow : t.row i = some r)
    (rows : ∀ j, t'.row j = if j = i then some r' else t.row j) (p : Row → Bool) :
    t'.countWhere p + (p r).toNat = t.countWhere p + (p r').toNat := by
  have hmem : i ∈ List.range (max t.next t'.next) :=
    List.mem_range.mpr (Nat.lt_of_lt_of_le (lt_next hrow) (Nat.le_max_left _ _))
  have hchange := countP_change (p := fun i => (t.row i).any p) (q := fun i => (t'.row i).any p)
    List.nodup_range hmem fun j hne => by rw [rows j, if_neg hne]
  rw [countWhere_range (Nat.le_max_left t.next t'.next),
    countWhere_range (Nat.le_max_right t.next t'.next)]
  simpa [hrow, rows i] using hchange

theorem countWhere_congr (rows : ∀ i, t'.row i = t.row i) (p : Row → Bool) :
    t'.countWhere p = t.countWhere p := by
  unfold countWhere
  rw [listing_congr rows]

variable [DecidableEq Key]

theorem listing_insert {r : Row} {i : Nat} (h : t.insert r = some (i, t')) :
    t'.listing.rows = t.listing.rows ++ [(i, r)] := by
  obtain ⟨rfl, -, hnext, hrow⟩ := insert_eq_some h
  rw [← listing_range (Nat.le_of_eq hnext), List.range_succ, List.filterMap_append]
  have hold : ((List.range t.next).filterMap fun i => (t'.row i).map (Prod.mk i)) =
      t.listing.rows := by
    refine List.filterMap_congr fun i hi => ?_
    rw [hrow, if_neg (Nat.ne_of_lt (List.mem_range.mp hi))]
  rw [hold]
  simp [hrow]

theorem countWhere_insert {r : Row} {i : Nat} (h : t.insert r = some (i, t')) (p : Row → Bool) :
    t'.countWhere p = t.countWhere p + if p r then 1 else 0 := by
  unfold countWhere
  rw [listing_insert h, List.countP_append, List.countP_singleton]

end CountWhere

end Table
end IdentityTable
