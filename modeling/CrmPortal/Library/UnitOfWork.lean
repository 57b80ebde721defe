import CrmPortal.Library.Transaction

/-!
# Units of work whose statements may fail

A block of statements works on its own copy of the state and is left in one of
three ways: at its end, by an early return, or by an exception. The first two
commit, the last one takes everything back, and so does a commit that fails.
`faults` decides for each statement, counted from the start of the block,
whether it fails; the commit counts as the statement after the last one.
-/

namespace UnitOfWork

open Transaction

universe u v
variable {State Exc Return : Type u} {Value Next : Type u}

inductive Exit (Exc Return : Type u) where
  | raised (e : Exc)
  | returned (r : Return)

structure Work (State : Type u) where
  state : State
  statements : Nat

abbrev Faults (Exc : Type u) := Nat → Option Exc

abbrev Block (State Exc Return Value : Type u) := Tx (Work State) (Exit Exc Return) Value

def Work.next (w : Work State) : Work State := { w with statements := w.statements + 1 }

/-- One statement is sent. -/
def statement (faults : Faults Exc) : Block State Exc Return PUnit :=
  fun w => match faults w.statements with
    | some e => (.error (.raised e), w.next)
    | none => (.ok ⟨⟩, w.next)

def query (faults : Faults Exc) (f : State → Value) : Block State Exc Return Value := do
  statement faults
  let w ← Tx.read
  return f w.state

/-- A statement that writes, or that the database refuses. -/
def execute (faults : Faults Exc) (f : State → Except Exc State) :
    Block State Exc Return PUnit := do
  statement faults
  let w ← Tx.read
  match f w.state with
  | .error e => Tx.raise (.raised e)
  | .ok s => Tx.write fun w => { w with state := s }

/-- Leave the block with `r` if the condition fails. -/
def ensure (r : Return) (holds : Bool) : Block State Exc Return PUnit :=
  Tx.check (.returned r) holds

/-- Leave the block by an exception if the condition fails. -/
def demand (e : Exc) (holds : Bool) : Block State Exc Return PUnit :=
  Tx.check (.raised e) holds

/-- A computation between two statements. -/
def attempt (x : Except Exc Value) : Block State Exc Return Value :=
  match x with
  | .ok a => pure a
  | .error e => Tx.raise (.raised e)

def orReturn (r : Return) (o : Option Value) : Block State Exc Return Value :=
  Tx.orRaise (.returned r) o

def orFail (e : Exc) (o : Option Value) : Block State Exc Return Value :=
  Tx.orRaise (.raised e) o

/-- `try: x except Exception as e: handler(e)`, with the state that `x` reached. -/
def exceptRaised (x : Block State Exc Return Value) (handler : Exc → Block State Exc Return Value) :
    Block State Exc Return Value :=
  fun w => match x w with
    | (.error (.raised e), t) => handler e t
    | result => result

/-- How the block ended, with the state that stays. -/
inductive Ended (State Exc Return Value : Type u) where
  | committed (result : Return ⊕ Value) (state : State)
  | rolledBack (e : Exc) (state : State)

def Ended.state : Ended State Exc Return Value → State
  | .committed _ s => s
  | .rolledBack _ s => s

/-- `restore before reached` is what a rollback leaves of the two states. -/
def commit (faults : Faults Exc) (restore : State → State → State) (before : State)
    (result : Return ⊕ Value) (w : Work State) : Ended State Exc Return Value :=
  match faults w.statements with
  | some e => .rolledBack e (restore before w.state)
  | none => .committed result w.state

def run (faults : Faults Exc) (restore : State → State → State)
    (x : Block State Exc Return Value) (s : State) : Ended State Exc Return Value :=
  match x ⟨s, 0⟩ with
  | (.ok a, w) => commit faults restore s (.inr a) w
  | (.error (.returned r), w) => commit faults restore s (.inl r) w
  | (.error (.raised e), w) => .rolledBack e (restore s w.state)

section Inversion
variable {faults : Faults Exc} {w t : Work State}

theorem statement_of_fault {e : Exc} (h : faults w.statements = some e) :
    (statement faults : Block State Exc Return PUnit) w = (.error (.raised e), w.next) := by
  unfold statement
  rw [h]

theorem statement_of_success (h : faults w.statements = none) :
    (statement faults : Block State Exc Return PUnit) w = (.ok ⟨⟩, w.next) := by
  unfold statement
  rw [h]

theorem statement_ok_iff {a : PUnit} :
    (statement faults : Block State Exc Return PUnit) w = (.ok a, t) ↔
      faults w.statements = none ∧ t = w.next := by
  unfold statement
  rcases faults w.statements with _ | e <;> simp [Prod.ext_iff, eq_comm]

theorem query_ok_iff {f : State → Value} {a : Value} :
    (query faults f : Block State Exc Return Value) w = (.ok a, t) ↔
      faults w.statements = none ∧ a = f w.state ∧ t = w.next := by
  unfold query
  simp only [Tx.bind_ok_iff, statement_ok_iff, Tx.read_ok_iff, Tx.pure_ok_iff]
  constructor
  · rintro ⟨_, m, ⟨h, rfl⟩, _, m, ⟨rfl, rfl⟩, rfl, rfl⟩
    exact ⟨h, rfl, rfl⟩
  · rintro ⟨h, rfl, rfl⟩
    exact ⟨⟨⟩, _, ⟨h, rfl⟩, _, _, ⟨rfl, rfl⟩, rfl, rfl⟩

theorem execute_ok_iff {f : State → Except Exc State} {a : PUnit} :
    (execute faults f : Block State Exc Return PUnit) w = (.ok a, t) ↔
      faults w.statements = none ∧ ∃ s, f w.state = .ok s ∧ t = ⟨s, w.statements + 1⟩ := by
  unfold execute
  simp only [Tx.bind_ok_iff, statement_ok_iff, Tx.read_ok_iff]
  constructor
  · rintro ⟨_, m, ⟨h, rfl⟩, _, m, ⟨rfl, rfl⟩, hwrite⟩
    refine ⟨h, ?_⟩
    rcases hf : f w.next.state with e | s
    · rw [hf] at hwrite
      cases hwrite
    · rw [hf] at hwrite
      exact ⟨s, hf, Tx.write_ok_iff.mp hwrite⟩
  · rintro ⟨h, s, hf, rfl⟩
    refine ⟨⟨⟩, _, ⟨h, rfl⟩, _, _, ⟨rfl, rfl⟩, ?_⟩
    have hnext : f w.next.state = .ok s := hf
    rw [hnext]
    rfl

/-- A reading statement answers from the state it finds, or fails. -/
theorem query_cases (faults : Faults Exc) (f : State → Value) (w : Work State) :
    (query faults f : Block State Exc Return Value) w = (.ok (f w.state), w.next) ∨
      ∃ e, (query faults f : Block State Exc Return Value) w = (.error (.raised e), w.next) := by
  rcases hfault : faults w.statements with _ | e
  · exact Or.inl (query_ok_iff.mpr ⟨hfault, rfl, rfl⟩)
  · refine Or.inr ⟨e, ?_⟩
    unfold query
    rw [Tx.bind_of_error _ (statement_of_fault hfault)]

/-- A writing statement writes, or fails and leaves the state alone. -/
theorem execute_cases (faults : Faults Exc) (f : State → Except Exc State) (w : Work State) :
    (∃ s t, f w.state = .ok s ∧ t.state = s ∧
      (execute faults f : Block State Exc Return PUnit) w = (.ok ⟨⟩, t)) ∨
    ∃ e t, t.state = w.state ∧ (execute faults f : Block State Exc Return PUnit) w =
      (.error (.raised e), t) := by
  unfold execute
  rcases hfault : faults w.statements with _ | e
  · rw [Tx.bind_of_ok _ (statement_of_success hfault), Tx.bind_of_ok _ (Tx.read_apply _)]
    rcases hf : f w.next.state with e | s
    · exact Or.inr ⟨e, w.next, rfl, rfl⟩
    · exact Or.inl ⟨s, ⟨s, w.statements + 1⟩, hf, rfl, rfl⟩
  · rw [Tx.bind_of_error _ (statement_of_fault hfault)]
    exact Or.inr ⟨e, w.next, rfl, rfl⟩

theorem ensure_ok_iff {r : Return} {holds : Bool} {a : PUnit} :
    (ensure r holds : Block State Exc Return PUnit) w = (.ok a, t) ↔ holds = true ∧ t = w :=
  Tx.check_ok_iff

theorem demand_ok_iff {e : Exc} {holds : Bool} {a : PUnit} :
    (demand e holds : Block State Exc Return PUnit) w = (.ok a, t) ↔ holds = true ∧ t = w :=
  Tx.check_ok_iff

theorem attempt_ok_iff {x : Except Exc Value} {a : Value} :
    (attempt x : Block State Exc Return Value) w = (.ok a, t) ↔ x = .ok a ∧ t = w := by
  rcases x with e | b
  · simp [attempt]
  · simp [attempt, Prod.ext_iff, eq_comm]

theorem orReturn_ok_iff {r : Return} {o : Option Value} {a : Value} :
    (orReturn r o : Block State Exc Return Value) w = (.ok a, t) ↔ o = some a ∧ t = w :=
  Tx.orRaise_ok_iff

theorem orFail_ok_iff {e : Exc} {o : Option Value} {a : Value} :
    (orFail e o : Block State Exc Return Value) w = (.ok a, t) ↔ o = some a ∧ t = w :=
  Tx.orRaise_ok_iff

end Inversion

/-- The block writes nothing. -/
def Reads (x : Block State Exc Return Value) : Prop := ∀ w, (x w).2.state = w.state

theorem Reads.state {x : Block State Exc Return Value} (h : Reads x) {w t : Work State} {a : Value}
    (hx : x w = (.ok a, t)) : t.state = w.state := by
  have hread := h w
  rw [hx] at hread
  exact hread

/-- An early return satisfies `P` and has written nothing. -/
def Leaves (P : Return → Prop) (x : Block State Exc Return Value) : Prop :=
  ∀ w r t, x w = (.error (.returned r), t) → P r ∧ t.state = w.state

section Rules
variable {P : Return → Prop} {faults : Faults Exc}

theorem reads_state : Reads (Tx.read : Block State Exc Return (Work State)) := fun _ => rfl

theorem reads_pure (a : Value) : Reads (pure a : Block State Exc Return Value) := fun _ => rfl

theorem reads_bind {x : Block State Exc Return Value} {f : Value → Block State Exc Return Next}
    (hx : Reads x) (hf : ∀ a, Reads (f a)) : Reads (x >>= f) :=
  Tx.moves_bind (R := fun w t : Work State => t.state = w.state)
    (fun _ _ _ h k => k.trans h) hx hf

theorem reads_query (f : State → Value) :
    Reads (query faults f : Block State Exc Return Value) := by
  intro w
  rcases query_cases faults f w with hrun | ⟨e, hrun⟩
  · rw [hrun]
    rfl
  · rw [hrun]
    rfl

theorem reads_ensure (r : Return) (holds : Bool) :
    Reads (ensure r holds : Block State Exc Return PUnit) := by
  intro w
  rcases holds with _ | _ <;> rfl

theorem reads_demand (e : Exc) (holds : Bool) :
    Reads (demand e holds : Block State Exc Return PUnit) := by
  intro w
  rcases holds with _ | _ <;> rfl

theorem reads_attempt (x : Except Exc Value) :
    Reads (attempt x : Block State Exc Return Value) := by
  intro w
  rcases x with e | a <;> rfl

theorem reads_orReturn (r : Return) (o : Option Value) :
    Reads (orReturn r o : Block State Exc Return Value) := by
  intro w
  rcases o with _ | a <;> rfl

theorem reads_orFail (e : Exc) (o : Option Value) :
    Reads (orFail e o : Block State Exc Return Value) := by
  intro w
  rcases o with _ | a <;> rfl

theorem leaves_state : Leaves P (Tx.read : Block State Exc Return (Work State)) := by
  intro w r t h
  cases h

theorem leaves_pure (a : Value) : Leaves P (pure a : Block State Exc Return Value) := by
  intro w r t h
  cases h

/-- What is read first cannot be undone by a return that comes after it. -/
theorem leaves_bind {x : Block State Exc Return Value} {f : Value → Block State Exc Return Next}
    (reads : Reads x) (hx : Leaves P x) (hf : ∀ a, Leaves P (f a)) : Leaves P (x >>= f) := by
  intro w r t h
  rcases Tx.bind_error_iff.mp h with h | ⟨a, m, hm, h⟩
  · exact hx w r t h
  · obtain ⟨hr, ht⟩ := hf a m r t h
    have hread := reads w
    rw [hm] at hread
    exact ⟨hr, ht.trans hread⟩

theorem leaves_query (f : State → Value) :
    Leaves P (query faults f : Block State Exc Return Value) := by
  intro w r t h
  rcases query_cases faults f w with hrun | ⟨e, hrun⟩
  · rw [hrun] at h
    cases h
  · rw [hrun] at h
    cases h

theorem leaves_ensure {r : Return} (hr : P r) (holds : Bool) :
    Leaves P (ensure r holds : Block State Exc Return PUnit) := by
  intro w r' t h
  rcases holds with _ | _
  · cases h
    exact ⟨hr, rfl⟩
  · cases h

theorem leaves_orReturn {r : Return} (hr : P r) (o : Option Value) :
    Leaves P (orReturn r o : Block State Exc Return Value) := by
  intro w r' t h
  rcases o with _ | a
  · cases h
    exact ⟨hr, rfl⟩
  · cases h

theorem leaves_demand (e : Exc) (holds : Bool) :
    Leaves P (demand e holds : Block State Exc Return PUnit) := by
  intro w r t h
  rcases holds with _ | _ <;> cases h

theorem leaves_orFail (e : Exc) (o : Option Value) :
    Leaves P (orFail e o : Block State Exc Return Value) := by
  intro w r t h
  rcases o with _ | a <;> cases h

theorem leaves_attempt (x : Except Exc Value) :
    Leaves P (attempt x : Block State Exc Return Value) := by
  intro w r t h
  rcases x with e | a <;> cases h

/-- A block that writes nothing keeps every reflexive relation to the state. -/
theorem Reads.moves {R : State → State → Prop} (refl : ∀ s, R s s)
    {x : Block State Exc Return Value} (h : Reads x) :
    Tx.Moves (fun w t : Work State => R w.state t.state) x := by
  intro w
  have hread : (x w).2.state = w.state := h w
  exact hread.symm ▸ refl w.state

theorem moves_execute {R : State → State → Prop} (refl : ∀ s, R s s)
    {f : State → Except Exc State} (h : ∀ s s', f s = .ok s' → R s s') :
    Tx.Moves (fun w t : Work State => R w.state t.state)
      (execute faults f : Block State Exc Return PUnit) := by
  intro w
  rcases execute_cases faults f w with ⟨s, t, hs, rfl, hrun⟩ | ⟨e, t, hsame, hrun⟩
  · rw [hrun]
    exact h w.state t.state hs
  · rw [hrun]
    exact hsame ▸ refl w.state

/-- What comes after reads starts from the same state. -/
theorem Reads.moves_bind {R : State → State → Prop} (refl : ∀ s, R s s)
    {x : Block State Exc Return Value} {f : Value → Block State Exc Return Next} (hx : Reads x)
    (hf : ∀ a, Tx.Moves (fun w t : Work State => R w.state t.state) (f a)) :
    Tx.Moves (fun w t : Work State => R w.state t.state) (x >>= f) := by
  intro w
  have hread : (x w).2.state = w.state := hx w
  refine Tx.bind_reaches (P := fun t : Work State => R w.state t.state)
    (hread.symm ▸ refl w.state) ?_
  intro a m hm
  have hmove := hf a m
  rw [hm] at hread
  rw [hread] at hmove
  exact hmove

theorem moves_exceptRaised {R : State → State → Prop} (trans : ∀ a b c, R a b → R b c → R a c)
    {x : Block State Exc Return Value} {handler : Exc → Block State Exc Return Value}
    (hx : Tx.Moves (fun w t : Work State => R w.state t.state) x)
    (hh : ∀ e, Tx.Moves (fun w t : Work State => R w.state t.state) (handler e)) :
    Tx.Moves (fun w t : Work State => R w.state t.state) (exceptRaised x handler) := by
  intro w
  have hmove := hx w
  unfold exceptRaised
  rcases hrun : x w with ⟨(⟨e⟩ | ⟨r⟩) | a, t⟩
  · rw [hrun] at hmove
    exact trans _ _ _ hmove (hh e t)
  · rw [hrun] at hmove
    exact hmove
  · rw [hrun] at hmove
    exact hmove

/-- What follows `orFail` is about the value that it hands on. -/
theorem moves_orFail_bind {R : Work State → Work State → Prop} (refl : ∀ w, R w w) {e : Exc}
    {o : Option Value} {f : Value → Block State Exc Return Next}
    (h : ∀ a, o = some a → Tx.Moves R (f a)) :
    Tx.Moves R (orFail e o >>= f : Block State Exc Return Next) := by
  intro w
  rcases o with _ | a
  · exact refl w
  · exact h a rfl w

/-- After the first write a block only ends or raises. -/
def Proceeds (x : Block State Exc Return Value) : Prop :=
  ∀ w r t, x w ≠ (.error (.returned r), t)

theorem Proceeds.leaves {x : Block State Exc Return Value} (h : Proceeds x) : Leaves P x :=
  fun w r t hx => absurd hx (h w r t)

theorem proceeds_pure (a : Value) : Proceeds (pure a : Block State Exc Return Value) := by
  intro w r t h
  cases h

theorem proceeds_bind {x : Block State Exc Return Value} {f : Value → Block State Exc Return Next}
    (hx : Proceeds x) (hf : ∀ a, Proceeds (f a)) : Proceeds (x >>= f) := by
  intro w r t h
  rcases Tx.bind_error_iff.mp h with h | ⟨a, m, _, h⟩
  · exact hx w r t h
  · exact hf a m r t h

theorem proceeds_query (f : State → Value) :
    Proceeds (query faults f : Block State Exc Return Value) := by
  intro w r t h
  exact False.elim (leaves_query (P := fun _ => False) f w r t h).1

theorem proceeds_execute (f : State → Except Exc State) :
    Proceeds (execute faults f : Block State Exc Return PUnit) := by
  intro w r t h
  rcases execute_cases faults f w with ⟨s, t', hs, rfl, hrun⟩ | ⟨e, t', hsame, hrun⟩
  · rw [hrun] at h
    cases h
  · rw [hrun] at h
    cases h

end Rules

/-- A block that returns early only before it writes either commits its whole
effect, or leaves the state it started from, possibly with an early return. -/
theorem run_atomic {P : Return → Prop} (faults : Faults Exc) (restore : State → State → State)
    {x : Block State Exc Return Value} (hx : Leaves P x) (s : State) :
    (∃ a w, x ⟨s, 0⟩ = (.ok a, w) ∧ run faults restore x s = .committed (.inr a) w.state) ∨
    (∃ r, P r ∧ run faults restore x s = .committed (.inl r) s) ∨
    (∃ e t, run faults restore x s = .rolledBack e (restore s t)) := by
  unfold run commit
  rcases hrun : x ⟨s, 0⟩ with ⟨(⟨e⟩ | ⟨r⟩) | a, w⟩
  · exact Or.inr (Or.inr ⟨e, w.state, rfl⟩)
  · obtain ⟨hr, hstate⟩ := hx _ _ _ hrun
    dsimp only
    rcases faults w.statements with _ | e
    · exact Or.inr (Or.inl ⟨r, hr, congrArg _ hstate⟩)
    · exact Or.inr (Or.inr ⟨e, w.state, rfl⟩)
  · dsimp only
    rcases faults w.statements with _ | e
    · exact Or.inl ⟨a, w, rfl, rfl⟩
    · exact Or.inr (Or.inr ⟨e, w.state, rfl⟩)

/-- A run ends where its block does, or in what a rollback leaves. -/
theorem run_state (faults : Faults Exc) (restore : State → State → State)
    (x : Block State Exc Return Value) (s : State) :
    (run faults restore x s).state = (x ⟨s, 0⟩).2.state ∨
      (run faults restore x s).state = restore s (x ⟨s, 0⟩).2.state := by
  unfold run commit
  rcases x ⟨s, 0⟩ with ⟨(⟨e⟩ | ⟨r⟩) | a, w⟩
  · exact Or.inr rfl
  · dsimp only
    rcases faults w.statements with _ | e
    · exact Or.inl rfl
    · exact Or.inr rfl
  · dsimp only
    rcases faults w.statements with _ | e
    · exact Or.inl rfl
    · exact Or.inr rfl

theorem run_moves {R : State → State → Prop} {faults : Faults Exc} {restore : State → State → State}
    (restores : ∀ s t, R s (restore s t)) {x : Block State Exc Return Value}
    (h : Tx.Moves (fun w t : Work State => R w.state t.state) x) (s : State) :
    R s (run faults restore x s).state := by
  rcases run_state faults restore x s with hstate | hstate
  · rw [hstate]
    exact h ⟨s, 0⟩
  · rw [hstate]
    exact restores s _

/-- A run that commits a value has run its block to the end. -/
theorem run_committed {faults : Faults Exc} {restore : State → State → State}
    {x : Block State Exc Return Value} {s t : State} {a : Value}
    (h : run faults restore x s = .committed (.inr a) t) :
    ∃ w, x ⟨s, 0⟩ = (.ok a, w) ∧ w.state = t := by
  unfold run commit at h
  rcases hx : x ⟨s, 0⟩ with ⟨(⟨e⟩ | ⟨r⟩) | b, w⟩
  · rw [hx] at h
    cases h
  · rw [hx] at h
    dsimp only at h
    split at h <;> cases h
  · rw [hx] at h
    dsimp only at h
    split at h
    · cases h
    · cases h
      exact ⟨w, rfl, rfl⟩

/-- An exception leaves what the rollback leaves. -/
theorem run_rolledBack {faults : Faults Exc} {restore : State → State → State}
    {x : Block State Exc Return Value} {s t : State} {e : Exc}
    (h : run faults restore x s = .rolledBack e t) : ∃ reached, t = restore s reached := by
  unfold run commit at h
  rcases hx : x ⟨s, 0⟩ with ⟨(⟨e⟩ | ⟨r⟩) | b, w⟩
  · rw [hx] at h
    cases h
    exact ⟨w.state, rfl⟩
  · rw [hx] at h
    dsimp only at h
    split at h
    · cases h
      exact ⟨w.state, rfl⟩
    · cases h
  · rw [hx] at h
    dsimp only at h
    split at h
    · cases h
      exact ⟨w.state, rfl⟩
    · cases h

/-- A block of one writing statement commits what it writes, or raises. -/
theorem run_execute (faults : Faults Exc) (restore : State → State → State)
    (f : State → Except Exc State) (s : State) :
    (∃ t, faults 0 = none ∧ faults 1 = none ∧ f s = .ok t ∧
      run faults restore (execute faults f : Block State Exc Return PUnit) s =
        .committed (.inr ⟨⟩) t) ∨
    ((faults 0 ≠ none ∨ faults 1 ≠ none ∨ ∃ e, f s = .error e) ∧
      ∃ e reached, (reached = s ∨ f s = .ok reached) ∧
        run faults restore (execute faults f : Block State Exc Return PUnit) s =
          .rolledBack e (restore s reached)) := by
  unfold run commit execute
  rcases h0 : faults 0 with _ | e
  · have hsent : (statement faults : Block State Exc Return PUnit) ⟨s, 0⟩ = (.ok ⟨⟩, ⟨s, 1⟩) :=
      statement_of_success h0
    rw [Tx.bind_of_ok _ hsent, Tx.bind_of_ok _ (Tx.read_apply _)]
    rcases hf : f s with e | t
    · exact .inr ⟨.inr (.inr ⟨e, rfl⟩), e, s, .inl rfl, rfl⟩
    · rcases h1 : faults 1 with _ | e
      · refine .inl ⟨t, rfl, rfl, rfl, ?_⟩
        simp only [Tx.write]
        rw [h1]
      · refine .inr ⟨.inr (.inl (Option.some_ne_none e)), e, t, .inr rfl, ?_⟩
        simp only [Tx.write]
        rw [h1]
  · have hsent : (statement faults : Block State Exc Return PUnit) ⟨s, 0⟩ =
        (.error (.raised e), ⟨s, 1⟩) := statement_of_fault h0
    rw [Tx.bind_of_error _ hsent]
    exact .inr ⟨.inl (Option.some_ne_none e), e, s, .inl rfl, rfl⟩

end UnitOfWork
