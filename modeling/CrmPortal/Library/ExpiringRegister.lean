import Mathlib.Data.List.Induction
import Mathlib.Order.Lattice

/-!
# A register whose value expires

A value is set with a deadline and is there until the deadline is reached, it is
overwritten or cleared. What the register holds is decided by the last write
alone. A store refines the register when a relation between the two is kept by
every operation of the store, the reading ones included.
-/

namespace ExpiringRegister

universe u v w z
variable {Value : Type u} {Time : Type v} {Store : Type w} {Op : Type z}

inductive Write (Value : Type u) (Time : Type v) where
  | set (value : Value) (deadline : Time)
  | clear

/-- The value with its deadline. -/
abbrev Register (Value : Type u) (Time : Type v) := Option (Value × Time)

def Register.write (_ : Register Value Time) : Write Value Time → Register Value Time
  | .set value deadline => some (value, deadline)
  | .clear => none

def Register.apply (r : Register Value Time) : Option (Write Value Time) → Register Value Time
  | none => r
  | some w => r.write w

/-- The register after these writes; at first it is empty. -/
def after (writes : List (Write Value Time)) : Register Value Time :=
  writes.foldl Register.write none

theorem after_concat (writes : List (Write Value Time)) (w : Write Value Time) :
    after (writes ++ [w]) = (after writes).write w := by
  simp [after, List.foldl_append]

/-- The last write decides. -/
theorem after_eq_some_iff {writes : List (Write Value Time)} {value : Value} {deadline : Time} :
    after writes = some (value, deadline) ↔ writes.getLast? = some (.set value deadline) := by
  induction writes using List.reverseRecOn with
  | nil => simp [after]
  | append_singleton writes w _ =>
    rw [after_concat, List.getLast?_concat]
    cases w with
    | set v d => simp [Register.write]
    | clear => simp [Register.write]

section Reading

variable [LinearOrder Time]

/-- The value, until its deadline. -/
def Register.read (r : Register Value Time) (now : Time) : Option Value :=
  match r with
  | some (value, deadline) => if now < deadline then some value else none
  | none => none

theorem read_some_iff {r : Register Value Time} {now : Time} {value : Value} :
    r.read now = some value ↔ ∃ deadline, r = some (value, deadline) ∧ now < deadline := by
  rcases r with _ | ⟨v, d⟩
  · simp [Register.read]
  · by_cases h : now < d
    · simp [Register.read, h]
    · simp only [Register.read, if_neg h]
      constructor
      · intro hnone
        cases hnone
      · rintro ⟨deadline, heq, hnow⟩
        obtain ⟨-, rfl⟩ := Prod.mk.inj (Option.some.inj heq)
        exact absurd hnow h

/-- Values that stand for other values expire with them. -/
theorem read_map {Other : Type u} (f : Value → Other) (r : Register Value Time) (now : Time) :
    Register.read (r.map fun entry => (f entry.1, entry.2)) now = (r.read now).map f := by
  rcases r with _ | ⟨value, deadline⟩
  · rfl
  · by_cases h : now < deadline <;> simp [Register.read, h]

/-- What is read is the value of the last write, before its deadline. -/
theorem read_after_iff {writes : List (Write Value Time)} {now : Time} {value : Value} :
    (after writes).read now = some value ↔
      ∃ deadline, writes.getLast? = some (.set value deadline) ∧ now < deadline := by
  rw [read_some_iff]
  simp only [after_eq_some_iff]

end Reading

/-- A relation that every operation keeps holds after every run. -/
theorem refines {step : Store → Op → Store} {write : Op → Option (Write Value Time)}
    {R : Store → Register Value Time → Prop} {start : Store} (init : R start none)
    (kept : ∀ {store : Store} {r : Register Value Time} (op : Op), R store r →
      R (step store op) (r.apply (write op)))
    (ops : List Op) : R (ops.foldl step start) (after (ops.filterMap write)) := by
  induction ops using List.reverseRecOn with
  | nil => exact init
  | append_singleton ops op ih =>
    have hnext := kept op ih
    rw [List.foldl_append, List.foldl_cons, List.foldl_nil, List.filterMap_append]
    cases hwrite : write op with
    | none => simpa [hwrite, Register.apply] using hnext
    | some w => simpa [hwrite, Register.apply, after_concat] using hnext

end ExpiringRegister
