import Mathlib.Data.List.Dedup

/-!
# A foreign key under concurrent transactions

Rows of one table name rows of another or none. Open transactions hold their versions until
they commit: a row that one of them has written is locked for the others, a row that is
named in an open version cannot be deleted yet, and a reference to a row that another
transaction is deleting waits. A deletion is refused while a committed row names what it
deletes, unless the transaction itself has written that row.
-/

namespace ForeignKey

universe u v w
variable {Txn : Type u} {Parent : Type v} {Child : Type w}

/-- `rows` are the committed versions, the newest first; `written` and `dropped` belong to
the open transactions. -/
structure Tables (Txn : Type u) (Parent : Type v) (Child : Type w) where
  parents : List Parent
  rows : List (Child × Option Parent)
  written : List (Txn × Child × Option Parent)
  dropped : List (Txn × Parent)

inductive Outcome (Txn : Type u) (Parent : Type v) (Child : Type w) where
  | waits
  | refused
  | done (tables : Tables Txn Parent Child)

namespace Tables
variable [DecidableEq Txn] [DecidableEq Parent] [DecidableEq Child]

/-- The committed row, if there is one: what it names. -/
def current (s : Tables Txn Parent Child) (c : Child) : Option (Option Parent) :=
  List.lookup c s.rows

/-- The committed rows that name `p`. -/
def children (s : Tables Txn Parent Child) (p : Parent) : List Child :=
  (s.rows.map Prod.fst).dedup.filter fun c => decide (s.current c = some (some p))

/-- The versions of one transaction. -/
def own (s : Tables Txn Parent Child) (t : Txn) : List (Child × Option Parent) :=
  (s.written.filter fun w => decide (w.1 = t)).map Prod.snd

def addVersion (s : Tables Txn Parent Child) (t : Txn) (c : Child) (ref : Option Parent) :
    Tables Txn Parent Child :=
  { s with written := (t, c, ref) ::
      s.written.filter fun w => decide ¬ (w.1 = t ∧ w.2.1 = c) }

/-- INSERT or UPDATE of one row. -/
def write (s : Tables Txn Parent Child) (t : Txn) (c : Child) (ref : Option Parent) :
    Outcome Txn Parent Child :=
  if s.written.any fun w => decide (w.1 ≠ t ∧ w.2.1 = c) then .waits
  else match ref with
    | none => .done (s.addVersion t c none)
    | some p =>
      if s.dropped.any fun d => decide (d.1 ≠ t ∧ d.2 = p) then .waits
      else if p ∈ s.parents ∧ (t, p) ∉ s.dropped then .done (s.addVersion t c (some p))
      else .refused

/-- DELETE of one row that others may name. -/
def drop (s : Tables Txn Parent Child) (t : Txn) (p : Parent) : Outcome Txn Parent Child :=
  if (s.written.any fun w => decide (w.1 ≠ t ∧ w.2.2 = some p)) ||
      s.dropped.any fun d => decide (d.1 ≠ t ∧ d.2 = p) then .waits
  else if ((s.children p).all fun c => (s.own t).any fun v => decide (v.1 = c)) &&
      (s.own t).all fun v => decide (v.2 ≠ some p) then
    .done { s with dropped := (t, p) :: s.dropped }
  else .refused

def forget (s : Tables Txn Parent Child) (t : Txn) : Tables Txn Parent Child :=
  { s with
    written := s.written.filter fun w => decide (w.1 ≠ t)
    dropped := s.dropped.filter fun d => decide (d.1 ≠ t) }

def commit (s : Tables Txn Parent Child) (t : Txn) : Tables Txn Parent Child :=
  { s.forget t with
    parents := s.parents.filter fun p => decide ((t, p) ∉ s.dropped)
    rows := s.own t ++ s.rows }

section Reading
variable {s : Tables Txn Parent Child} {t : Txn} {c : Child} {p : Parent} {ref : Option Parent}

omit [DecidableEq Parent] in
theorem mem_of_lookup {rows : List (Child × Option Parent)} (h : List.lookup c rows = some ref) :
    (c, ref) ∈ rows := by
  obtain ⟨before, after, rfl, -⟩ := List.lookup_eq_some_iff.mp h
  simp

omit [DecidableEq Txn] in
theorem mem_children_iff : c ∈ s.children p ↔ s.current c = some (some p) := by
  rw [children, List.mem_filter, List.mem_dedup, decide_eq_true_eq]
  refine ⟨And.right, fun h => ⟨?_, h⟩⟩
  exact List.mem_map_of_mem (mem_of_lookup h)

omit [DecidableEq Parent] [DecidableEq Child] in
theorem mem_own_iff : (c, ref) ∈ s.own t ↔ (t, c, ref) ∈ s.written := by
  rw [own, List.mem_map]
  constructor
  · rintro ⟨⟨t', v⟩, hfiltered, rfl⟩
    obtain ⟨hmem, ht⟩ := List.mem_filter.mp hfiltered
    obtain rfl : t' = t := of_decide_eq_true ht
    exact hmem
  · intro h
    exact ⟨(t, c, ref), List.mem_filter.mpr ⟨h, decide_eq_true rfl⟩, rfl⟩

theorem current_commit : (s.commit t).current c = (List.lookup c (s.own t)).or (s.current c) :=
  List.lookup_append

/-- A version of the transaction, or the row as it was. -/
theorem current_commit_cases (h : (s.commit t).current c = some ref) :
    (t, c, ref) ∈ s.written ∨ (List.lookup c (s.own t) = none ∧ s.current c = some ref) := by
  rw [current_commit] at h
  cases hown : List.lookup c (s.own t) with
  | none =>
    rw [hown] at h
    exact Or.inr ⟨rfl, h⟩
  | some other =>
    rw [hown] at h
    obtain rfl := Option.some.inj h
    exact Or.inl (mem_own_iff.mp (mem_of_lookup hown))

/-- A transaction that has written no row changes none. -/
theorem current_commit_of_readOnly (h : ∀ c ref, (t, c, ref) ∉ s.written) :
    (s.commit t).current c = s.current c := by
  rw [current_commit]
  cases hown : List.lookup c (s.own t) with
  | none => rfl
  | some ref => exact absurd (mem_own_iff.mp (mem_of_lookup hown)) (h c ref)

end Reading

/-- A row has one writer. A reference is to a row that is there and that nobody deletes. What
is being deleted is named only by rows that the same transaction has written. -/
structure Sound (s : Tables Txn Parent Child) : Prop where
  locked : ∀ t t' c ref ref', (t, c, ref) ∈ s.written → (t', c, ref') ∈ s.written → t = t'
  named : ∀ t c p, (t, c, some p) ∈ s.written → p ∈ s.parents ∧ ∀ t', (t', p) ∉ s.dropped
  released : ∀ t p c, (t, p) ∈ s.dropped → s.current c = some (some p) →
    ∃ ref, (t, c, ref) ∈ s.written
  referential : ∀ c p, s.current c = some (some p) → p ∈ s.parents

section Kept
variable {s s' : Tables Txn Parent Child} {t : Txn}

omit [DecidableEq Parent] in
theorem mem_addVersion_iff {c : Child} {ref : Option Parent} {entry : Txn × Child × Option Parent} :
    entry ∈ (s.addVersion t c ref).written ↔
      entry = (t, c, ref) ∨ (entry ∈ s.written ∧ ¬ (entry.1 = t ∧ entry.2.1 = c)) := by
  rw [addVersion, List.mem_cons, List.mem_filter, decide_eq_true_eq]

omit [DecidableEq Parent] in
theorem Sound.addVersion (h : Sound s) {c : Child} {ref : Option Parent}
    (free : ∀ t' ref', (t', c, ref') ∈ s.written → t' = t)
    (named : ∀ p, ref = some p → p ∈ s.parents ∧ ∀ t', (t', p) ∉ s.dropped) :
    Sound (s.addVersion t c ref) := by
  refine ⟨?_, ?_, ?_, h.referential⟩
  · intro t₁ t₂ c' ref₁ ref₂ h₁ h₂
    rw [mem_addVersion_iff] at h₁ h₂
    rcases h₁ with h₁ | ⟨h₁, -⟩ <;> rcases h₂ with h₂ | ⟨h₂, -⟩
    · rw [(Prod.mk.inj h₁).1, (Prod.mk.inj h₂).1]
    · cases h₁
      exact (free t₂ ref₂ h₂).symm
    · cases h₂
      exact free t₁ ref₁ h₁
    · exact h.locked t₁ t₂ c' ref₁ ref₂ h₁ h₂
  · intro t' c' p hmem
    rcases mem_addVersion_iff.mp hmem with heq | ⟨hold, -⟩
    · obtain ⟨-, hrest⟩ := Prod.mk.inj heq
      exact named p (Prod.mk.inj hrest).2.symm
    · exact h.named t' c' p hold
  · intro t' p c' hdropped hcurrent
    obtain ⟨old, hold⟩ := h.released t' p c' hdropped hcurrent
    by_cases hsame : t' = t ∧ c' = c
    · obtain ⟨rfl, rfl⟩ := hsame
      exact ⟨ref, mem_addVersion_iff.mpr (Or.inl rfl)⟩
    · exact ⟨old, mem_addVersion_iff.mpr (Or.inr ⟨hold, hsame⟩)⟩

theorem Sound.write (h : Sound s) {c : Child} {ref : Option Parent}
    (hwrite : s.write t c ref = .done s') : Sound s' ∧ s' = s.addVersion t c ref := by
  unfold Tables.write at hwrite
  split at hwrite
  · cases hwrite
  · next hfree =>
    have free : ∀ t' ref', (t', c, ref') ∈ s.written → t' = t := by
      intro t' ref' hmem
      by_contra hne
      exact hfree (List.any_eq_true.mpr ⟨_, hmem, decide_eq_true ⟨hne, rfl⟩⟩)
    cases ref with
    | none =>
      cases hwrite
      refine ⟨h.addVersion free ?_, rfl⟩
      intro p hp
      cases hp
    | some p =>
      dsimp only at hwrite
      split at hwrite
      · cases hwrite
      · next hundropped =>
        split at hwrite
        · next hparent =>
          cases hwrite
          refine ⟨h.addVersion free ?_, rfl⟩
          rintro q hq
          obtain rfl := Option.some.inj hq
          refine ⟨hparent.1, fun t' hdropped => ?_⟩
          by_cases hsame : t' = t
          · exact hparent.2 (hsame ▸ hdropped)
          · exact hundropped (List.any_eq_true.mpr ⟨_, hdropped, decide_eq_true ⟨hsame, rfl⟩⟩)
        · cases hwrite

theorem Sound.drop (h : Sound s) {p : Parent} (hdrop : s.drop t p = .done s') :
    Sound s' ∧ s' = { s with dropped := (t, p) :: s.dropped } := by
  unfold Tables.drop at hdrop
  split at hdrop
  · cases hdrop
  · next hfree =>
    split at hdrop
    · next hreleased =>
      cases hdrop
      rw [Bool.or_eq_true, not_or] at hfree
      rw [Bool.and_eq_true, List.all_eq_true, List.all_eq_true] at hreleased
      have unnamed : ∀ t' c, (t', c, some p) ∉ s.written := by
        intro t' c hmem
        by_cases hsame : t' = t
        · subst hsame
          exact of_decide_eq_true (hreleased.2 _ (mem_own_iff.mpr hmem)) rfl
        · exact hfree.1 (List.any_eq_true.mpr ⟨_, hmem, decide_eq_true ⟨hsame, rfl⟩⟩)
      refine ⟨⟨h.locked, ?_, ?_, h.referential⟩, rfl⟩
      · intro t' c q hmem
        obtain ⟨hparent, hundropped⟩ := h.named t' c q hmem
        refine ⟨hparent, fun t'' hdropped => ?_⟩
        rcases List.mem_cons.mp hdropped with heq | hold
        · obtain ⟨-, rfl⟩ := Prod.mk.inj heq
          exact unnamed t' c hmem
        · exact hundropped t'' hold
      · intro t' q c hdropped hcurrent
        rcases List.mem_cons.mp hdropped with heq | hold
        · obtain ⟨rfl, rfl⟩ := Prod.mk.inj heq
          obtain ⟨⟨c', ref⟩, hown, hc⟩ :=
            List.any_eq_true.mp (hreleased.1 c (mem_children_iff.mpr hcurrent))
          obtain rfl : c' = c := of_decide_eq_true hc
          exact ⟨ref, mem_own_iff.mp hown⟩
        · exact h.released t' q c hold hcurrent
    · cases hdrop

omit [DecidableEq Parent] [DecidableEq Child] in
theorem mem_written_forget_iff {entry : Txn × Child × Option Parent} :
    entry ∈ (s.forget t).written ↔ entry ∈ s.written ∧ entry.1 ≠ t := by
  rw [forget, List.mem_filter, decide_eq_true_eq]

omit [DecidableEq Parent] [DecidableEq Child] in
theorem mem_dropped_forget_iff {entry : Txn × Parent} :
    entry ∈ (s.forget t).dropped ↔ entry ∈ s.dropped ∧ entry.1 ≠ t := by
  rw [forget, List.mem_filter, decide_eq_true_eq]

omit [DecidableEq Parent] in
theorem Sound.forget (h : Sound s) : Sound (s.forget t) := by
  refine ⟨?_, ?_, ?_, h.referential⟩
  · intro t₁ t₂ c ref₁ ref₂ h₁ h₂
    exact h.locked t₁ t₂ c ref₁ ref₂ (mem_written_forget_iff.mp h₁).1
      (mem_written_forget_iff.mp h₂).1
  · intro t' c p hmem
    obtain ⟨hparent, hundropped⟩ := h.named t' c p (mem_written_forget_iff.mp hmem).1
    exact ⟨hparent, fun t'' hdropped => hundropped t'' (mem_dropped_forget_iff.mp hdropped).1⟩
  · intro t' p c hdropped hcurrent
    obtain ⟨hdropped, hne⟩ := mem_dropped_forget_iff.mp hdropped
    obtain ⟨ref, hmem⟩ := h.released t' p c hdropped hcurrent
    exact ⟨ref, mem_written_forget_iff.mpr ⟨hmem, hne⟩⟩

/-- Every reference that was committed is to a committed row. -/
theorem Sound.commit (h : Sound s) : Sound (s.commit t) := by
  have forgotten := Sound.forget (t := t) h
  refine ⟨forgotten.locked, ?_, ?_, ?_⟩
  · intro t' c p hmem
    obtain ⟨hwritten, -⟩ := mem_written_forget_iff.mp hmem
    obtain ⟨hparent, hundropped⟩ := h.named t' c p hwritten
    exact ⟨List.mem_filter.mpr ⟨hparent, decide_eq_true (hundropped t)⟩,
      (forgotten.named t' c p hmem).2⟩
  · intro t' p c hdropped hcurrent
    obtain ⟨hopen, hne⟩ := mem_dropped_forget_iff.mp hdropped
    rcases current_commit_cases hcurrent with hwritten | ⟨-, hold⟩
    · exact absurd hopen ((h.named t c p hwritten).2 t')
    · exact forgotten.released t' p c hdropped hold
  · intro c p hcurrent
    refine List.mem_filter.mpr ?_
    rcases current_commit_cases hcurrent with hwritten | ⟨hunwritten, hold⟩
    · obtain ⟨hparent, hundropped⟩ := h.named t c p hwritten
      exact ⟨hparent, decide_eq_true (hundropped t)⟩
    · refine ⟨h.referential c p hold, decide_eq_true fun hdropped => ?_⟩
      obtain ⟨ref, hmem⟩ := h.released t p c hdropped hold
      have hown := List.lookup_eq_none_iff.mp hunwritten (c, ref) (mem_own_iff.mpr hmem)
      simp at hown

omit [DecidableEq Child] in
/-- What is gone after a commit the transaction has deleted. -/
theorem mem_dropped_of_commit {p : Parent} (before : p ∈ s.parents)
    (after : p ∉ (s.commit t).parents) : (t, p) ∈ s.dropped := by
  by_contra hnot
  exact after (List.mem_filter.mpr ⟨before, decide_eq_true hnot⟩)

/-- A deletion by a transaction that has written no row deletes what no row names. -/
theorem Sound.unnamed_of_readOnly (h : Sound s) (readOnly : ∀ c ref, (t, c, ref) ∉ s.written)
    {p : Parent} (before : p ∈ s.parents) (after : p ∉ (s.commit t).parents) (c : Child) :
    s.current c ≠ some (some p) := by
  intro hcurrent
  obtain ⟨ref, hmem⟩ := h.released t p c (mem_dropped_of_commit before after) hcurrent
  exact readOnly c ref hmem

end Kept
end Tables
end ForeignKey
