/-!
# Programs over a state that survives exceptions

A program ends with a value or an exception, and in both cases with the state
it reached. Nothing is undone by raising: undoing is what `savepoint` does, with
a `restore` that says which parts of the later state come back and which stay.
-/

namespace Transaction

universe u v w
variable {State : Type u} {Exc : Type v} {Value Next : Type w}

def Tx (State : Type u) (Exc : Type v) (Value : Type w) : Type (max u v w) :=
  State → Except Exc Value × State

namespace Tx

/-- Sequencing: an exception of the first program is the exception of both. -/
def andThen (x : Tx State Exc Value) (f : Value → Tx State Exc Next) : Tx State Exc Next :=
  fun s => match x s with
    | (.ok a, t) => f a t
    | (.error e, t) => (.error e, t)

instance : Monad (Tx State Exc) where
  pure a := fun s => (.ok a, s)
  bind := andThen

def raise (e : Exc) : Tx State Exc Value := fun s => (.error e, s)

def read : Tx State Exc State := fun s => (.ok s, s)

def write (f : State → State) : Tx State Exc PUnit := fun s => (.ok ⟨⟩, f s)

def orRaise (e : Exc) : Option Value → Tx State Exc Value
  | some a => pure a
  | none => raise e

def ofExcept : Except Exc Value → Tx State Exc Value
  | .ok a => pure a
  | .error e => raise e

def check (e : Exc) (holds : Bool) : Tx State Exc PUnit :=
  if holds then pure ⟨⟩ else raise e

/-- On an exception, `restore` puts the state back; its first argument is the
state at the start, its second the state that was reached. -/
def savepoint (restore : State → State → State) (x : Tx State Exc Value) :
    Tx State Exc Value :=
  fun s => match x s with
    | (.ok a, t) => (.ok a, t)
    | (.error e, t) => (.error e, restore s t)

/-- `try ... except`, with the exceptions that `handler` names. -/
def tryExcept (x : Tx State Exc Value) (handler : Exc → Option (Tx State Exc Value)) :
    Tx State Exc Value :=
  fun s => match x s with
    | (.ok a, t) => (.ok a, t)
    | (.error e, t) => match handler e with
      | some h => h t
      | none => (.error e, t)

/-- `try ... finally`, with a last part that only writes. -/
def tryFinally (x : Tx State Exc Value) (last : State → State) : Tx State Exc Value :=
  fun s => ((x s).1, last (x s).2)

/-- Run `step` on every element in turn. -/
def forEach {Item : Type w} (step : Item → Tx State Exc PUnit) : List Item → Tx State Exc PUnit
  | [] => pure ⟨⟩
  | a :: rest => do step a; forEach step rest

/-- A program over one part of a larger state. -/
def focus {Part : Type u} (get : State → Part) (set : State → Part → State)
    (x : Tx Part Exc Value) : Tx State Exc Value :=
  fun s => ((x (get s)).1, set s (x (get s)).2)

section Inversion
variable {s t : State}

@[simp] theorem pure_apply (a : Value) (s : State) :
    (pure a : Tx State Exc Value) s = (.ok a, s) := rfl

@[simp] theorem raise_apply (e : Exc) (s : State) :
    (raise e : Tx State Exc Value) s = (.error e, s) := rfl

@[simp] theorem read_apply (s : State) : (read : Tx State Exc State) s = (.ok s, s) := rfl

@[simp] theorem write_apply (f : State → State) (s : State) :
    (write f : Tx State Exc PUnit) s = (.ok ⟨⟩, f s) := rfl

theorem bind_apply (x : Tx State Exc Value) (f : Value → Tx State Exc Next) (s : State) :
    (x >>= f) s = match x s with
      | (.ok a, t) => f a t
      | (.error e, t) => (.error e, t) := rfl

theorem bind_of_ok {x : Tx State Exc Value} {a : Value} (f : Value → Tx State Exc Next)
    (h : x s = (.ok a, t)) : (x >>= f) s = f a t := by
  rw [bind_apply, h]

theorem bind_of_error {x : Tx State Exc Value} {e : Exc} (f : Value → Tx State Exc Next)
    (h : x s = (.error e, t)) : (x >>= f) s = (.error e, t) := by
  rw [bind_apply, h]

/-- A sequence succeeds when both of its parts do. -/
theorem bind_ok_iff {x : Tx State Exc Value} {f : Value → Tx State Exc Next} {b : Next} :
    (x >>= f) s = (.ok b, t) ↔ ∃ a m, x s = (.ok a, m) ∧ f a m = (.ok b, t) := by
  constructor
  · intro h
    rw [bind_apply] at h
    rcases hx : x s with ⟨_ | a, m⟩
    · rw [hx] at h; cases h
    · exact ⟨a, m, rfl, by simpa only [hx] using h⟩
  · rintro ⟨a, m, hx, hf⟩
    rw [bind_of_ok f hx, hf]

/-- A sequence raises where its first part does, or in its second part. -/
theorem bind_error_iff {x : Tx State Exc Value} {f : Value → Tx State Exc Next} {e : Exc} :
    (x >>= f) s = (.error e, t) ↔
      x s = (.error e, t) ∨ ∃ a m, x s = (.ok a, m) ∧ f a m = (.error e, t) := by
  constructor
  · intro h
    rw [bind_apply] at h
    rcases hx : x s with ⟨e' | a, m⟩
    · rw [hx] at h
      cases h
      exact Or.inl rfl
    · exact Or.inr ⟨a, m, rfl, by simpa only [hx] using h⟩
  · rintro (hx | ⟨a, m, hx, hf⟩)
    · exact bind_of_error f hx
    · rw [bind_of_ok f hx, hf]

/-- The state that a sequence ends in: that of its first part, or of its second
part where the first one ends well. -/
theorem bind_reaches {P : State → Prop} {x : Tx State Exc Value} {f : Value → Tx State Exc Next}
    (first : P (x s).2) (second : ∀ a m, x s = (.ok a, m) → P (f a m).2) :
    P ((x >>= f) s).2 := by
  rcases hx : x s with ⟨e | a, m⟩
  · rw [bind_of_error f hx]
    rw [hx] at first
    exact first
  · rw [bind_of_ok f hx]
    exact second a m hx

/-- A last step that only gives a value ends in the same state. -/
theorem bind_pure_state (x : Tx State Exc Value) (b : Value → Next) (s : State) :
    ((x >>= fun a => pure (b a)) s).2 = (x s).2 := by
  rw [bind_apply]
  rcases x s with ⟨e | a, t⟩ <;> rfl

@[simp] theorem orRaise_state (e : Exc) (o : Option Value) (s : State) :
    (orRaise e o s).2 = s := by
  cases o <;> rfl

@[simp] theorem ofExcept_state (r : Except Exc Value) (s : State) : (ofExcept r s).2 = s := by
  cases r <;> rfl

@[simp] theorem check_state (e : Exc) (b : Bool) (s : State) :
    (check e b s : Except Exc PUnit × State).2 = s := by
  cases b <;> rfl

theorem pure_ok_iff {a b : Value} :
    (pure a : Tx State Exc Value) s = (.ok b, t) ↔ a = b ∧ t = s := by
  simp [Prod.ext_iff, eq_comm]

theorem read_ok_iff {r : State} : (read : Tx State Exc State) s = (.ok r, t) ↔ r = s ∧ t = s := by
  simp [Prod.ext_iff, eq_comm]

theorem write_ok_iff {f : State → State} {a : PUnit} :
    (write f : Tx State Exc PUnit) s = (.ok a, t) ↔ t = f s := by
  simp [Prod.ext_iff, eq_comm]

theorem orRaise_ok_iff {e : Exc} {o : Option Value} {a : Value} :
    orRaise e o s = (.ok a, t) ↔ o = some a ∧ t = s := by
  rcases o with _ | b
  · simp [orRaise]
  · simp [orRaise, Prod.ext_iff, eq_comm]

theorem ofExcept_ok_iff {r : Except Exc Value} {a : Value} :
    ofExcept r s = (.ok a, t) ↔ r = .ok a ∧ t = s := by
  rcases r with e | b
  · simp [ofExcept]
  · simp [ofExcept, Prod.ext_iff, eq_comm]

theorem check_ok_iff {e : Exc} {b : Bool} {a : PUnit} :
    (check e b : Tx State Exc PUnit) s = (.ok a, t) ↔ b = true ∧ t = s := by
  rcases b with _ | _
  · simp [check]
  · simp [check, Prod.ext_iff, eq_comm]

theorem focus_apply {Part : Type u} {get : State → Part} {set : State → Part → State}
    {x : Tx Part Exc Value} {r : Except Exc Value} {p : Part} (h : x (get s) = (r, p)) :
    focus get set x s = (r, set s p) := by
  unfold focus
  rw [h]

theorem focus_ok_iff {Part : Type u} {get : State → Part} {set : State → Part → State}
    {x : Tx Part Exc Value} {a : Value} :
    focus get set x s = (.ok a, t) ↔ ∃ p, x (get s) = (.ok a, p) ∧ t = set s p := by
  unfold focus
  constructor
  · intro h
    have hvalue : (x (get s)).1 = .ok a := congrArg Prod.fst h
    have hstate : set s (x (get s)).2 = t := congrArg Prod.snd h
    exact ⟨(x (get s)).2, Prod.ext hvalue rfl, hstate.symm⟩
  · rintro ⟨p, hp, rfl⟩
    rw [hp]

end Inversion

/-- However the program ends, the state it ends in is related to the first one. -/
def Moves (R : State → State → Prop) (x : Tx State Exc Value) : Prop :=
  ∀ s, R s (x s).2

section Moves
variable {R : State → State → Prop}

theorem moves_pure (refl : ∀ s, R s s) (a : Value) : Moves R (pure a : Tx State Exc Value) :=
  fun s => refl s

theorem moves_raise (refl : ∀ s, R s s) (e : Exc) : Moves R (raise e : Tx State Exc Value) :=
  fun s => refl s

theorem moves_read (refl : ∀ s, R s s) : Moves R (read : Tx State Exc State) :=
  fun s => refl s

theorem moves_write {f : State → State} (h : ∀ s, R s (f s)) :
    Moves R (write f : Tx State Exc PUnit) := h

theorem moves_check (refl : ∀ s, R s s) (e : Exc) (b : Bool) :
    Moves R (check e b : Tx State Exc PUnit) := by
  cases b with
  | false => exact moves_raise refl e
  | true => exact moves_pure refl PUnit.unit

theorem moves_bind (trans : ∀ a b c, R a b → R b c → R a c) {x : Tx State Exc Value}
    {f : Value → Tx State Exc Next} (hx : Moves R x) (hf : ∀ a, Moves R (f a)) :
    Moves R (x >>= f) := by
  intro s
  have first := hx s
  rw [bind_apply]
  cases h : x s with
  | mk r m =>
    rw [h] at first
    cases r with
    | ok a => exact trans s m _ first (hf a m)
    | error e => exact first

theorem moves_focus {Part : Type u} {get : State → Part} {set : State → Part → State}
    {P : Part → Part → Prop} {x : Tx Part Exc Value} (hx : Moves P x)
    (lift : ∀ s p, P (get s) p → R s (set s p)) : Moves R (focus get set x) :=
  fun s => lift s _ (hx (get s))

theorem moves_forEach (refl : ∀ s, R s s) (trans : ∀ a b c, R a b → R b c → R a c)
    {Item : Type w} {step : Item → Tx State Exc PUnit} (h : ∀ a, Moves R (step a)) :
    ∀ items, Moves R (forEach step items)
  | [] => moves_pure refl _
  | a :: rest => moves_bind trans (h a) (fun _ => moves_forEach refl trans h rest)

end Moves

section Paired
variable {Other OtherNext : Type w} {Left Right : Type u}

/-- Two ends that agree: both with values that `V` relates, or both with one
exception, and either way in states that `R` relates. -/
inductive Paired (V : Value → Other → Prop) (R : Left → Right → Prop) :
    Except Exc Value × Left → Except Exc Other × Right → Prop
  | ok {a : Value} {b : Other} {s : Left} {t : Right} (values : V a b) (states : R s t) :
      Paired V R (.ok a, s) (.ok b, t)
  | error {e : Exc} {s : Left} {t : Right} (states : R s t) :
      Paired V R (.error e, s) (.error e, t)

variable {V : Value → Other → Prop} {W : Next → OtherNext → Prop} {R : Left → Right → Prop}
  {s : Left} {t : Right}

theorem Paired.states {x : Except Exc Value × Left} {y : Except Exc Other × Right}
    (h : Paired V R x y) : R x.2 y.2 := by
  cases h with
  | ok _ states => exact states
  | error states => exact states

/-- The second parts only have to agree after first parts that ended well. -/
theorem paired_bind {x : Tx Left Exc Value} {y : Tx Right Exc Other}
    {f : Value → Tx Left Exc Next} {g : Other → Tx Right Exc OtherNext}
    (first : Paired V R (x s) (y t))
    (second : ∀ a b s' t', x s = (.ok a, s') → y t = (.ok b, t') → V a b → R s' t' →
      Paired W R (f a s') (g b t')) :
    Paired W R ((x >>= f) s) ((y >>= g) t) := by
  rcases hx : x s with ⟨e | a, s'⟩ <;> rcases hy : y t with ⟨e' | b, t'⟩ <;> rw [hx, hy] at first
  · cases first with
    | error states =>
      rw [bind_of_error f hx, bind_of_error g hy]
      exact .error states
  · cases first
  · cases first
  · cases first with
    | ok values states =>
      rw [bind_of_ok f hx, bind_of_ok g hy]
      exact second a b s' t' hx hy values states

theorem paired_orRaise (e : Exc) {o : Option Value} {o' : Option Other}
    (h : (o = none ∧ o' = none) ∨ ∃ a b, o = some a ∧ o' = some b ∧ V a b) (states : R s t) :
    Paired V R (orRaise e o s) (orRaise e o' t) := by
  rcases h with ⟨rfl, rfl⟩ | ⟨a, b, rfl, rfl, hv⟩
  · exact .error states
  · exact .ok hv states

theorem paired_orRaise_same (e : Exc) (o : Option Value) (states : R s t) :
    Paired (fun a b => a = b) R (orRaise e o s) (orRaise e o t) := by
  cases o with
  | none => exact .error states
  | some a => exact .ok rfl states

theorem paired_check (e : Exc) (b : Bool) (states : R s t) :
    Paired (fun _ _ => True) R (check e b s) (check e b t) := by
  cases b with
  | false => exact .error states
  | true => exact .ok trivial states

theorem paired_ofExcept (r : Except Exc Value) (states : R s t) :
    Paired (fun a b => a = b) R (ofExcept r s) (ofExcept r t) := by
  cases r with
  | error e => exact .error states
  | ok a => exact .ok rfl states

theorem paired_focus {Part Part' : Type u} {get : Left → Part} {set : Left → Part → Left}
    {get' : Right → Part'} {set' : Right → Part' → Right} {P : Part → Part' → Prop}
    {x : Tx Part Exc Value} {y : Tx Part' Exc Other} (h : Paired V P (x (get s)) (y (get' t)))
    (lift : ∀ p p', P p p' → R (set s p) (set' t p')) :
    Paired V R (focus get set x s) (focus get' set' y t) := by
  unfold focus
  rcases hx : x (get s) with ⟨a, p⟩
  rcases hy : y (get' t) with ⟨b, p'⟩
  rw [hx, hy] at h
  cases h with
  | ok values states => exact .ok values (lift _ _ states)
  | error states => exact .error (lift _ _ states)

end Paired
end Tx
end Transaction
