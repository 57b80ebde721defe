import CrmPortal.Library.Schedule
import Mathlib.Logic.Function.Basic
import Mathlib.Data.Fintype.Basic
import Mathlib.Data.List.Basic
import Mathlib.Order.Basic

/-!
# A table that every transaction empties and refills

Under READ COMMITTED a DELETE without a condition takes the rows that are committed
when it starts. It waits while another transaction has deleted one of them and not
committed. The row that a transaction inserts stays with it until its commit, so two
transactions that overlap do not see each other's row.

When no DELETE starts beside an open transaction, the table holds the row of the last
commit and nothing else.
-/

namespace ReplaceAll

open Schedule

variable {Run Row : Type}

/-- `seen` are the identities of the rows that the DELETE found. -/
inductive Phase where
  | idle
  | deleting (seen : List Nat)
  | deleted
  | inserted
  | committed

/-- Between the start of the DELETE and the commit. -/
def Phase.isOpen : Phase → Bool
  | .idle => false
  | .deleting _ => true
  | .deleted => true
  | .inserted => true
  | .committed => false

/-- A committed row, and the open transaction that has deleted it. -/
structure Stored (Run Row : Type) where
  id : Nat
  row : Row
  erasedBy : Option Run

structure State (Run Row : Type) where
  stored : List (Stored Run Row)
  next : Nat
  phase : Run → Phase
  commits : List Run

/-- What a reader sees. -/
def State.rows (s : State Run Row) : List Row := s.stored.map Stored.row

/-- No transaction has begun. -/
def start (rows : List Row) : State Run Row where
  stored := rows.mapIdx fun i row => ⟨i, row, none⟩
  next := rows.length
  phase := fun _ => .idle
  commits := []

inductive Action (Run : Type) where
  | startDelete (r : Run)
  | finishDelete (r : Run)
  | insert (r : Run)
  | commit (r : Run)

/-- The statements of one transaction. -/
def transaction (r : Run) : List (Action Run) :=
  [.startDelete r, .finishDelete r, .insert r, .commit r]

variable [DecidableEq Run]

namespace State

def setPhase (s : State Run Row) (r : Run) (phase : Phase) : State Run Row :=
  { s with phase := Function.update s.phase r phase }

/-- None of the rows is deleted by another open transaction. -/
def unlocked (s : State Run Row) (r : Run) (seen : List Nat) : Bool :=
  s.stored.all fun p => decide (p.id ∉ seen ∨ p.erasedBy = none ∨ p.erasedBy = some r)

def erase (s : State Run Row) (r : Run) (seen : List Nat) : State Run Row :=
  { s with
    stored := s.stored.map fun p => if p.id ∈ seen then { p with erasedBy := some r } else p }

/-- The erased rows go, the inserted one arrives. -/
def commit (value : Run → Row) (s : State Run Row) (r : Run) : State Run Row where
  stored := s.stored.filter (fun p => decide (p.erasedBy ≠ some r)) ++ [⟨s.next, value r, none⟩]
  next := s.next + 1
  phase := Function.update s.phase r .committed
  commits := s.commits ++ [r]

theorem phase_setPhase (s : State Run Row) (r : Run) (phase : Phase) :
    (s.setPhase r phase).phase = Function.update s.phase r phase := rfl

theorem phase_commit (value : Run → Row) (s : State Run Row) (r : Run) :
    (s.commit value r).phase = Function.update s.phase r .committed := rfl

end State

/-- `value r` is the row that `r` inserts. -/
def step (value : Run → Row) (s : State Run Row) : Action Run → Option (State Run Row)
  | .startDelete r => match s.phase r with
    | .idle => some (s.setPhase r (.deleting (s.stored.map Stored.id)))
    | _ => none
  | .finishDelete r => match s.phase r with
    | .deleting seen =>
      if s.unlocked r seen then some ((s.erase r seen).setPhase r .deleted) else none
    | _ => none
  | .insert r => match s.phase r with
    | .deleted => some (s.setPhase r .inserted)
    | _ => none
  | .commit r => match s.phase r with
    | .inserted => some (s.commit value r)
    | _ => none

section Steps
variable {value : Run → Row} {s t : State Run Row} {r : Run}

theorem step_startDelete (h : step value s (.startDelete r) = some t) :
    s.phase r = .idle ∧ t = s.setPhase r (.deleting (s.stored.map Stored.id)) := by
  rw [step] at h
  split at h
  · next hphase => exact ⟨hphase, (Option.some.inj h).symm⟩
  · cases h

theorem step_finishDelete (h : step value s (.finishDelete r) = some t) :
    ∃ seen, s.phase r = .deleting seen ∧ t = (s.erase r seen).setPhase r .deleted := by
  rw [step] at h
  split at h
  · next seen hphase =>
    split at h
    · exact ⟨seen, hphase, (Option.some.inj h).symm⟩
    · cases h
  · cases h

theorem step_insert (h : step value s (.insert r) = some t) :
    s.phase r = .deleted ∧ t = s.setPhase r .inserted := by
  rw [step] at h
  split at h
  · next hphase => exact ⟨hphase, (Option.some.inj h).symm⟩
  · cases h

theorem step_commit (h : step value s (.commit r) = some t) :
    s.phase r = .inserted ∧ t = s.commit value r := by
  rw [step] at h
  split at h
  · next hphase => exact ⟨hphase, (Option.some.inj h).symm⟩
  · cases h

end Steps

/-- No transaction is open. -/
def State.Quiet (s : State Run Row) : Prop := ∀ r, (s.phase r).isOpen = false

/-- A DELETE starts beside no open transaction, and after no commit of a higher rank. -/
def InTurn {Rank : Type} [LE Rank] (rank : Run → Rank) (s : State Run Row) : Action Run → Prop
  | .startDelete r => s.Quiet ∧ ∀ other ∈ s.commits, rank other ≤ rank r
  | _ => True

instance [Fintype Run] (s : State Run Row) : Decidable s.Quiet :=
  inferInstanceAs (Decidable (∀ r, (s.phase r).isOpen = false))

instance {Rank : Type} [LE Rank] [DecidableLE Rank] [Fintype Run] (rank : Run → Rank)
    (s : State Run Row) : (a : Action Run) → Decidable (InTurn rank s a)
  | .startDelete r =>
    inferInstanceAs (Decidable (s.Quiet ∧ ∀ other ∈ s.commits, rank other ≤ rank r))
  | .finishDelete _ => isTrue trivial
  | .insert _ => isTrue trivial
  | .commit _ => isTrue trivial

/-- The open transaction, if there is one, has found every row of the table, and the
table is the row of the last commit, which has the highest rank of all. -/
structure Serial {Rank : Type} [LE Rank] (rank : Run → Rank) (value : Run → Row)
    (s : State Run Row) : Prop where
  alone : ∀ r other, (s.phase r).isOpen = true → (s.phase other).isOpen = true → r = other
  found : ∀ r seen, s.phase r = .deleting seen → ∀ p ∈ s.stored, p.id ∈ seen
  erased : ∀ r, s.phase r = .deleted ∨ s.phase r = .inserted → ∀ p ∈ s.stored, p.erasedBy = some r
  inOrder : ∀ r, (s.phase r).isOpen = true → ∀ other ∈ s.commits, rank other ≤ rank r
  last : ∀ r, s.commits.getLast? = some r →
    s.rows = [value r] ∧ ∀ other ∈ s.commits, rank other ≤ rank r

section Serial
variable {Rank : Type} [Preorder Rank] {rank : Run → Rank} {value : Run → Row}
  {s t : State Run Row} {r : Run}

omit [DecidableEq Run] in
theorem serial_start (rows : List Row) : Serial rank value (start rows : State Run Row) where
  alone := fun _ _ h => by cases h
  found := fun _ _ h => by cases h
  erased := fun _ h => by rcases h with h | h <;> cases h
  inOrder := fun _ h => by cases h
  last := fun _ h => by cases h

theorem phase_setPhase_self (phase : Phase) : (s.setPhase r phase).phase r = phase := by
  rw [State.phase_setPhase, Function.update_self]

theorem isOpen_setPhase {other : Run} {phase : Phase}
    (h : ((s.setPhase r phase).phase other).isOpen = true) :
    other = r ∨ (s.phase other).isOpen = true := by
  by_cases heq : other = r
  · exact .inl heq
  · rw [State.phase_setPhase, Function.update_of_ne heq] at h
    exact .inr h

/-- Only `r` is open, and so it stays. -/
theorem Serial.only (serial : Serial rank value s) (opened : (s.phase r).isOpen = true)
    {phase : Phase} {other : Run} (h : ((s.setPhase r phase).phase other).isOpen = true) :
    other = r := by
  rcases isOpen_setPhase h with heq | hopen
  · exact heq
  · exact serial.alone other r hopen opened

theorem Serial.startDelete (serial : Serial rank value s) (quiet : s.Quiet)
    (ranked : ∀ other ∈ s.commits, rank other ≤ rank r) :
    Serial rank value (s.setPhase r (.deleting (s.stored.map Stored.id))) := by
  have honly : ∀ other, ((s.setPhase r (.deleting (s.stored.map Stored.id))).phase other).isOpen =
      true → other = r := by
    intro other h
    rcases isOpen_setPhase h with heq | hopen
    · exact heq
    · rw [quiet other] at hopen
      cases hopen
  constructor
  · intro a b ha hb
    rw [honly a ha, honly b hb]
  · intro a seen h p hp
    obtain rfl := honly a (by rw [h]; rfl)
    rw [phase_setPhase_self] at h
    cases h
    exact List.mem_map_of_mem hp
  · intro a h
    obtain rfl := honly a (by rcases h with h | h <;> rw [h] <;> rfl)
    rw [phase_setPhase_self] at h
    rcases h with h | h <;> cases h
  · intro a ha
    obtain rfl := honly a ha
    exact ranked
  · exact serial.last

omit [DecidableEq Run] in
theorem rows_erase (seen : List Nat) : (s.erase r seen).rows = s.rows := by
  unfold State.rows State.erase
  rw [List.map_map]
  apply List.map_congr_left
  intro p _
  rw [Function.comp_apply]
  split <;> rfl

/-- Every row was found, so every row is erased now. -/
theorem Serial.finishDelete {seen : List Nat} (serial : Serial rank value s)
    (phase : s.phase r = .deleting seen) :
    Serial rank value ((s.erase r seen).setPhase r .deleted) := by
  have hopen : (s.phase r).isOpen = true := by rw [phase]; rfl
  have honly : ∀ {other}, (((s.erase r seen).setPhase r .deleted).phase other).isOpen = true →
      other = r := fun h => serial.only hopen h
  constructor
  · intro a b ha hb
    rw [honly ha, honly hb]
  · intro a ids h p hp
    obtain rfl := honly (by rw [h]; rfl)
    rw [phase_setPhase_self] at h
    cases h
  · intro a h p hp
    obtain rfl := honly (by rcases h with h | h <;> rw [h] <;> rfl)
    obtain ⟨q, hq, rfl⟩ := List.mem_map.mp hp
    rw [if_pos (serial.found a seen phase q hq)]
  · intro a ha
    obtain rfl := honly ha
    exact serial.inOrder a hopen
  · intro a ha
    obtain ⟨hrows, hmax⟩ := serial.last a ha
    exact ⟨(rows_erase seen).trans hrows, hmax⟩

theorem Serial.insert (serial : Serial rank value s) (phase : s.phase r = .deleted) :
    Serial rank value (s.setPhase r .inserted) := by
  have hopen : (s.phase r).isOpen = true := by rw [phase]; rfl
  have honly : ∀ {other}, ((s.setPhase r .inserted).phase other).isOpen = true → other = r :=
    fun h => serial.only hopen h
  constructor
  · intro a b ha hb
    rw [honly ha, honly hb]
  · intro a ids h p hp
    obtain rfl := honly (by rw [h]; rfl)
    rw [phase_setPhase_self] at h
    cases h
  · intro a h p hp
    obtain rfl := honly (by rcases h with h | h <;> rw [h] <;> rfl)
    exact serial.erased a (.inl phase) p hp
  · intro a ha
    obtain rfl := honly ha
    exact serial.inOrder a hopen
  · exact serial.last

/-- No row but the inserted one survives the commit. -/
theorem Serial.commit (serial : Serial rank value s) (phase : s.phase r = .inserted) :
    Serial rank value (s.commit value r) := by
  have hopen : (s.phase r).isOpen = true := by rw [phase]; rfl
  have hnone : ∀ other, ((s.commit value r).phase other).isOpen ≠ true := by
    intro other h
    have hother : other ≠ r := by
      rintro rfl
      rw [State.phase_commit, Function.update_self] at h
      cases h
    rw [State.phase_commit, Function.update_of_ne hother] at h
    exact hother (serial.alone other r h hopen)
  constructor
  · intro a _ ha
    exact absurd ha (hnone a)
  · intro a ids h
    exact absurd (by rw [h]; rfl) (hnone a)
  · intro a h
    exact absurd (by rcases h with h | h <;> rw [h] <;> rfl) (hnone a)
  · intro a ha
    exact absurd ha (hnone a)
  · intro a ha
    obtain rfl : r = a := by simpa [State.commit] using ha
    constructor
    · have hgone : s.stored.filter (fun p => decide (p.erasedBy ≠ some r)) = [] := by
        apply List.filter_eq_nil_iff.mpr
        intro p hp
        simp [serial.erased r (.inr phase) p hp]
      rw [State.rows, State.commit, hgone]
      rfl
    · intro other hother
      rcases List.mem_append.mp hother with hearlier | hself
      · exact serial.inOrder r hopen other hearlier
      · rw [List.mem_singleton.mp hself]

theorem Serial.step {action : Action Run} (serial : Serial rank value s)
    (inTurn : InTurn rank s action) (h : step value s action = some t) : Serial rank value t := by
  cases action with
  | startDelete r =>
    obtain ⟨-, rfl⟩ := step_startDelete h
    exact serial.startDelete inTurn.1 inTurn.2
  | finishDelete r =>
    obtain ⟨seen, hphase, rfl⟩ := step_finishDelete h
    exact serial.finishDelete hphase
  | insert r =>
    obtain ⟨hphase, rfl⟩ := step_insert h
    exact serial.insert hphase
  | commit r =>
    obtain ⟨hphase, rfl⟩ := step_commit h
    exact serial.commit hphase

/-- Where the transactions run in turn, the table is the row of the last commit, whose
rank no other commit exceeds. -/
theorem serial_exec {rows : List Row} {schedule : List (Action Run)}
    (h : exec (step value) (start rows) schedule = some t)
    (inTurn : Along (InTurn rank) (step value) (start rows) schedule) : Serial rank value t :=
  exec_invariant_along (fun _ _ _ serial hturn hstep => serial.step hturn hstep) h inTurn
    (serial_start rows)

end Serial

end ReplaceAll
