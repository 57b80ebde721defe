import CrmPortal.Library.Schedule
import Mathlib.Data.List.Nodup
import Mathlib.Logic.Function.Basic

/-!
# Completing a store from several processes

A process looks which keys are missing and adds them command by command. A command
adds its keys all at once; it is refused where one of them is there, where one that it
needs is not, or by what the store does not show. Nothing is undone when a process
stops, several processes do this at once, and each may start again at any time. Where
all of them add towards one target, the store grows towards it, and a process that gets
to its end has reached it, but for the keys that nobody owes.
-/

namespace Completion

open Schedule

universe u v w
variable {Key : Type u} {Value : Type v} {Proc : Type w}

abbrev Store (Key : Type u) (Value : Type v) := Key → Option Value

def Below (s t : Store Key Value) : Prop := ∀ k v, s k = some v → t k = some v

theorem Below.refl (s : Store Key Value) : Below s s := fun _ _ h => h

theorem Below.trans {s t r : Store Key Value} (h : Below s t) (g : Below t r) : Below s r :=
  fun k v hk => g k v (h k v hk)

theorem Below.isSome {s t : Store Key Value} (h : Below s t) {k : Key} (hk : (s k).isSome) :
    (t k).isSome := by
  obtain ⟨v, hv⟩ := Option.isSome_iff_exists.mp hk
  rw [h k v hv]
  rfl

abbrev Statement (Key : Type u) (Value : Type v) := List (Key × Value)

/-- The statement finds all of its keys free. -/
def Free (statement : Statement Key Value) (s : Store Key Value) : Prop :=
  ∀ entry ∈ statement, s entry.1 = none

instance (statement : Statement Key Value) (s : Store Key Value) : Decidable (Free statement s) :=
  decidable_of_iff (statement.all fun entry => (s entry.1).isNone) (by simp [Free])

section Run
variable [DecidableEq Key]

def find (k : Key) : Statement Key Value → Option Value
  | [] => none
  | (k', v) :: rest => if k = k' then some v else find k rest

theorem find_some {k : Key} {v : Value} {statement : Statement Key Value}
    (h : find k statement = some v) : (k, v) ∈ statement := by
  induction statement with
  | nil => cases h
  | cons entry rest ih =>
    obtain ⟨k', v'⟩ := entry
    rw [find] at h
    split at h
    · next hk =>
      obtain rfl := Option.some.inj h
      exact hk ▸ List.mem_cons_self
    · exact List.mem_cons_of_mem _ (ih h)

theorem find_isSome {k : Key} {statement : Statement Key Value}
    (h : ∃ v, (k, v) ∈ statement) : (find k statement).isSome := by
  induction statement with
  | nil =>
    obtain ⟨v, hv⟩ := h
    cases hv
  | cons entry rest ih =>
    obtain ⟨k', v'⟩ := entry
    obtain ⟨v, hv⟩ := h
    rw [find]
    split
    · rfl
    · next hk =>
      rcases List.mem_cons.mp hv with heq | hrest
      · exact absurd (congrArg Prod.fst heq) hk
      · exact ih ⟨v, hrest⟩

theorem find_append (k : Key) (a b : Statement Key Value) :
    find k (a ++ b) = (find k a).or (find k b) := by
  induction a with
  | nil => rfl
  | cons entry rest ih =>
    obtain ⟨k', v⟩ := entry
    by_cases hk : k = k'
    · simp [find, hk]
    · simpa [find, hk] using ih

theorem find_eq_none {k : Key} {statement : Statement Key Value}
    (h : ∀ entry ∈ statement, entry.1 ≠ k) : find k statement = none := by
  cases hfind : find k statement with
  | none => rfl
  | some v => exact absurd rfl (h _ (find_some hfind))

theorem find_of_nodup {k : Key} {v : Value} {statement : Statement Key Value}
    (nodup : (statement.map Prod.fst).Nodup) (h : (k, v) ∈ statement) :
    find k statement = some v := by
  obtain ⟨v', hfind⟩ := Option.isSome_iff_exists.mp (find_isSome ⟨v, h⟩)
  have hpair := List.inj_on_of_nodup_map nodup (find_some hfind) h rfl
  exact hfind.trans (congrArg some (Prod.mk.inj hpair).2)

def add (statement : Statement Key Value) (s : Store Key Value) : Store Key Value :=
  fun k => (s k).or (find k statement)

theorem below_add (statement : Statement Key Value) (s : Store Key Value) :
    Below s (add statement s) := by
  intro k v h
  simp [add, h]

theorem add_some {statement : Statement Key Value} {s : Store Key Value} {k : Key} {v : Value}
    (h : add statement s k = some v) : s k = some v ∨ find k statement = some v := by
  rcases Option.or_eq_some_iff.mp h with hold | ⟨-, hnew⟩
  · exact Or.inl hold
  · exact Or.inr hnew

theorem add_isSome {statement : Statement Key Value} {s : Store Key Value} {k : Key}
    (h : ∃ v, (k, v) ∈ statement) : (add statement s k).isSome := by
  rw [add, Option.isSome_or, find_isSome h, Bool.or_true]

/-- What is added at once, and what has to be there for it. -/
structure Command (Key : Type u) (Value : Type v) where
  needs : List Key
  adds : Statement Key Value

omit [DecidableEq Key] in
def Command.Ready (command : Command Key Value) (s : Store Key Value) : Prop :=
  (∀ k ∈ command.needs, (s k).isSome) ∧ Free command.adds s

instance (command : Command Key Value) (s : Store Key Value) : Decidable (command.Ready s) :=
  inferInstanceAs (Decidable (_ ∧ _))

/-- The commands can be executed one after the other. -/
def Executable : Store Key Value → List (Command Key Value) → Prop
  | _, [] => True
  | s, command :: rest => command.Ready s ∧ Executable (add command.adds s) rest

theorem executable_append {s : Store Key Value} {a b : List (Command Key Value)} :
    Executable s (a ++ b) ↔
      Executable s a ∧ Executable (a.foldl (fun t command => add command.adds t) s) b := by
  induction a generalizing s with
  | nil => simp [Executable]
  | cons command rest ih => simp only [List.cons_append, Executable, ih, List.foldl_cons, and_assoc]

/-- What can be executed later finds its keys free already now. -/
theorem Executable.free {s : Store Key Value} {commands : List (Command Key Value)}
    (h : Executable s commands) {command : Command Key Value} (hmem : command ∈ commands) :
    Free command.adds s := by
  induction commands generalizing s with
  | nil => cases hmem
  | cons head rest ih =>
    obtain ⟨hready, hrest⟩ := h
    rcases List.mem_cons.mp hmem with rfl | hmem
    · exact hready.2
    · exact fun entry hentry => (Option.or_eq_none_iff.mp (ih hrest hmem entry hentry)).1

end Run

/-- One inspection of the store gives the commands to execute. -/
abbrev Phase (Key : Type u) (Value : Type v) := Store Key Value → List (Command Key Value)

inductive Progress (Key : Type u) (Value : Type v) where
  | stopped
  | running (pending : List (Command Key Value)) (rest : List (Phase Key Value))

def Progress.finished : Progress Key Value := .running [] []

structure State (Key : Type u) (Value : Type v) (Proc : Type w) where
  store : Store Key Value
  progress : Proc → Progress Key Value

def started (s : Store Key Value) : State Key Value Proc := ⟨s, fun _ => .stopped⟩

inductive Action (Proc : Type w) where
  | start (p : Proc)
  | stop (p : Proc)
  | inspect (p : Proc)
  | execute (p : Proc)

section SetProgress
variable [DecidableEq Proc]

def State.setProgress (s : State Key Value Proc) (p : Proc) (progress : Progress Key Value) :
    State Key Value Proc :=
  { s with progress := Function.update s.progress p progress }

@[simp] theorem State.setProgress_store (s : State Key Value Proc) (p : Proc)
    (progress : Progress Key Value) : (s.setProgress p progress).store = s.store := rfl

@[simp] theorem State.setProgress_self (s : State Key Value Proc) (p : Proc)
    (progress : Progress Key Value) : (s.setProgress p progress).progress p = progress :=
  Function.update_self ..

theorem State.setProgress_of_ne (s : State Key Value Proc) {p q : Proc}
    (progress : Progress Key Value) (h : q ≠ p) :
    (s.setProgress p progress).progress q = s.progress q :=
  Function.update_of_ne h _ _

end SetProgress

section Step
variable [DecidableEq Key] [DecidableEq Proc]

/-- A refused command stops its process. -/
def step (accepts : Command Key Value → Bool) (program : List (Phase Key Value))
    (s : State Key Value Proc) : Action Proc → Option (State Key Value Proc)
  | .start p => some (s.setProgress p (.running [] program))
  | .stop p => some (s.setProgress p .stopped)
  | .inspect p =>
    match s.progress p with
    | .running [] (phase :: rest) => some (s.setProgress p (.running (phase s.store) rest))
    | _ => none
  | .execute p =>
    match s.progress p with
    | .running (command :: pending) rest =>
      if accepts command ∧ command.Ready s.store then
        some ({ s with store := add command.adds s.store }.setProgress p (.running pending rest))
      else some (s.setProgress p .stopped)
    | _ => none

variable {accepts : Command Key Value → Bool}

/-- Everything that a step can do. -/
theorem step_cases {program : List (Phase Key Value)} {s t : State Key Value Proc}
    {a : Action Proc} (h : step accepts program s a = some t) :
    (∃ p, a = .start p ∧ t = s.setProgress p (.running [] program)) ∨
    (∃ p, t = s.setProgress p .stopped) ∨
    (∃ p phase rest, a = .inspect p ∧ s.progress p = .running [] (phase :: rest) ∧
      t = s.setProgress p (.running (phase s.store) rest)) ∨
    ∃ p command pending rest, a = .execute p ∧
      s.progress p = .running (command :: pending) rest ∧ accepts command ∧
      command.Ready s.store ∧
      t = { s with store := add command.adds s.store }.setProgress p (.running pending rest) := by
  cases a with
  | start p => exact Or.inl ⟨p, rfl, (Option.some.inj h).symm⟩
  | stop p => exact Or.inr (Or.inl ⟨p, (Option.some.inj h).symm⟩)
  | inspect p =>
    rw [step] at h
    split at h
    · next phase rest hp =>
      exact Or.inr (Or.inr (Or.inl ⟨p, phase, rest, rfl, hp, (Option.some.inj h).symm⟩))
    · cases h
  | execute p =>
    rw [step] at h
    split at h
    · next command pending rest hp =>
      split at h
      · next hready =>
        exact Or.inr (Or.inr (Or.inr ⟨p, command, pending, rest, rfl, hp, hready.1, hready.2,
          (Option.some.inj h).symm⟩))
      · exact Or.inr (Or.inl ⟨p, (Option.some.inj h).symm⟩)
    · cases h

/-- A phase with the keys that it sees to: once it is over, they are there. -/
abbrev Assignment (Key : Type u) (Value : Type v) := Phase Key Value × (Key → Prop)

/-- Each phase plans what is missing of its own keys, once those of the earlier phases
are there. -/
def Sees (Sound : Store Key Value → Prop) : (Key → Prop) → List (Assignment Key Value) → Prop
  | _, [] => True
  | earlier, (phase, own) :: rest =>
    (∀ s, Sound s → (∀ k, earlier k → (s k).isSome) → ∀ k, own k →
      (s k).isSome ∨ ∃ command ∈ phase s, ∃ v, (k, v) ∈ command.adds) ∧
    Sees Sound (fun k => earlier k ∨ own k) rest

/-- What makes the phases complete every store from `first` on to `target`, in the keys
that are owed. `Sound` is an invariant of the store, `Good` says of a command that it adds
towards the target. -/
structure Completes (phases : List (Assignment Key Value)) (first target : Store Key Value)
    (Sound : Store Key Value → Prop) (Good : Command Key Value → Prop) (Owed : Key → Prop) :
    Prop where
  start : Sound first
  below : ∀ s, Sound s → Below s target
  keeps : ∀ s command, Sound s → Good command → command.Ready s → Sound (add command.adds s)
  good : ∀ phase ∈ phases, ∀ s, Sound s → ∀ command ∈ phase.1 s, Good command
  executable : ∀ phase ∈ phases, ∀ s, Sound s → Executable s (phase.1 s)
  sees : Sees Sound (fun _ => False) phases
  covers : ∀ k, Owed k → (target k).isSome → (first k).isSome ∨ ∃ phase ∈ phases, phase.2 k

/-- What a process has left to do is good and leads to the target. -/
def ProgressInv (phases : List (Assignment Key Value)) (first target : Store Key Value)
    (Sound : Store Key Value → Prop) (Good : Command Key Value → Prop) (Owed : Key → Prop)
    (s : Store Key Value) : Progress Key Value → Prop
  | .stopped => True
  | .running pending rest => (∀ command ∈ pending, Good command) ∧
      ∃ earlier later, rest = later.map Prod.fst ∧ later ⊆ phases ∧ Sees Sound earlier later ∧
        (∀ k, earlier k → (s k).isSome ∨ ∃ command ∈ pending, ∃ v, (k, v) ∈ command.adds) ∧
        ∀ k, Owed k → (target k).isSome →
          (first k).isSome ∨ earlier k ∨ ∃ phase ∈ later, phase.2 k

structure Inv (phases : List (Assignment Key Value)) (first target : Store Key Value)
    (Sound : Store Key Value → Prop) (Good : Command Key Value → Prop) (Owed : Key → Prop)
    (s : State Key Value Proc) : Prop where
  sound : Sound s.store
  grown : Below first s.store
  progress : ∀ p, ProgressInv phases first target Sound Good Owed s.store (s.progress p)

variable {phases : List (Assignment Key Value)} {first target : Store Key Value}
  {Sound : Store Key Value → Prop} {Good : Command Key Value → Prop} {Owed : Key → Prop}

omit [DecidableEq Key] in
theorem ProgressInv.mono {s t : Store Key Value} (h : Below s t) {progress : Progress Key Value}
    (inv : ProgressInv phases first target Sound Good Owed s progress) :
    ProgressInv phases first target Sound Good Owed t progress := by
  cases progress with
  | stopped => trivial
  | running pending rest =>
    obtain ⟨hgood, earlier, later, hrest, hsub, hsees, hearlier, hcovers⟩ := inv
    refine ⟨hgood, earlier, later, hrest, hsub, hsees, fun k hk => ?_, hcovers⟩
    rcases hearlier k hk with hsome | hpending
    · exact Or.inl (h.isSome hsome)
    · exact Or.inr hpending

omit [DecidableEq Proc] in
theorem Completes.begin (completes : Completes phases first target Sound Good Owed)
    (s : Store Key Value) :
    ProgressInv phases first target Sound Good Owed s (.running [] (phases.map Prod.fst)) := by
  refine ⟨by simp, fun _ => False, phases, rfl, List.Subset.refl _, completes.sees, by simp, ?_⟩
  intro k howed hk
  rcases completes.covers k howed hk with hfirst | hphase
  · exact Or.inl hfirst
  · exact Or.inr (Or.inr hphase)

omit [DecidableEq Key] in
/-- One process gets a progress that is in order, over a store that has grown. -/
theorem Inv.setProgress {s : State Key Value Proc} (inv : Inv phases first target Sound Good Owed s)
    {store : Store Key Value} (sound : Sound store) (h : Below s.store store) {p : Proc}
    {progress : Progress Key Value}
    (hp : ProgressInv phases first target Sound Good Owed store progress) :
    Inv phases first target Sound Good Owed ({ s with store := store }.setProgress p progress) := by
  refine ⟨sound, inv.grown.trans h, fun q => ?_⟩
  by_cases hq : q = p
  · subst hq
    rw [State.setProgress_self]
    exact hp
  · rw [State.setProgress_of_ne _ _ hq]
    exact (inv.progress q).mono h

omit [DecidableEq Proc] in
theorem inspect_progress (completes : Completes phases first target Sound Good Owed)
    {s : Store Key Value} (sound : Sound s) {phase : Phase Key Value}
    {rest : List (Phase Key Value)}
    (h : ProgressInv phases first target Sound Good Owed s (.running [] (phase :: rest))) :
    ProgressInv phases first target Sound Good Owed s (.running (phase s) rest) := by
  obtain ⟨-, earlier, later, hrest, hsub, hsees, hearlier, hcovers⟩ := h
  have there : ∀ k, earlier k → (s k).isSome := by
    intro k hk
    rcases hearlier k hk with hsome | ⟨command, hnone, -⟩
    · exact hsome
    · cases hnone
  cases later with
  | nil => cases hrest
  | cons own later =>
    obtain ⟨phase', duty⟩ := own
    obtain ⟨rfl, rfl⟩ := List.cons.inj hrest
    have hmem : (phase, duty) ∈ phases := hsub List.mem_cons_self
    refine ⟨completes.good _ hmem s sound, fun k => earlier k ∨ duty k, later, rfl,
      fun x hx => hsub (List.mem_cons_of_mem _ hx), hsees.2, ?_, ?_⟩
    · rintro k (hk | hk)
      · exact Or.inl (there k hk)
      · exact hsees.1 s sound there k hk
    · intro k howed hk
      rcases hcovers k howed hk with hfirst | hbefore | ⟨x, hx, hown⟩
      · exact Or.inl hfirst
      · exact Or.inr (Or.inl (Or.inl hbefore))
      · rcases List.mem_cons.mp hx with rfl | hlater
        · exact Or.inr (Or.inl (Or.inr hown))
        · exact Or.inr (Or.inr ⟨x, hlater, hown⟩)

omit [DecidableEq Proc] in
theorem execute_progress {s : Store Key Value} {command : Command Key Value}
    {pending : List (Command Key Value)} {rest : List (Phase Key Value)}
    (h : ProgressInv phases first target Sound Good Owed s (.running (command :: pending) rest)) :
    ProgressInv phases first target Sound Good Owed (add command.adds s)
      (.running pending rest) := by
  obtain ⟨hgood, earlier, later, hrest, hsub, hsees, hearlier, hcovers⟩ := h
  refine ⟨fun other hother => hgood other (List.mem_cons_of_mem _ hother), earlier, later, hrest,
    hsub, hsees, fun k hk => ?_, hcovers⟩
  rcases hearlier k hk with hsome | ⟨other, hother, hkey⟩
  · exact Or.inl ((below_add command.adds s).isSome hsome)
  · rcases List.mem_cons.mp hother with rfl | hpending
    · exact Or.inl (add_isSome hkey)
    · exact Or.inr ⟨other, hpending, hkey⟩

theorem inv_step (completes : Completes phases first target Sound Good Owed)
    {s t : State Key Value Proc} {a : Action Proc}
    (inv : Inv phases first target Sound Good Owed s)
    (h : step accepts (phases.map Prod.fst) s a = some t) :
    Inv phases first target Sound Good Owed t := by
  rcases step_cases h with ⟨p, -, rfl⟩ | ⟨p, rfl⟩ | ⟨p, phase, rest, -, hp, rfl⟩ |
    ⟨p, command, pending, rest, -, hp, -, hready, rfl⟩
  · exact inv.setProgress inv.sound (Below.refl _) (completes.begin _)
  · exact inv.setProgress inv.sound (Below.refl _) trivial
  · refine inv.setProgress inv.sound (Below.refl _) (inspect_progress completes inv.sound ?_)
    exact hp ▸ inv.progress p
  · have hprogress := hp ▸ inv.progress p
    refine inv.setProgress ?_ (below_add command.adds s.store) (execute_progress hprogress)
    exact completes.keeps s.store command inv.sound (hprogress.1 command List.mem_cons_self) hready

/-- No pending command adds the key, and no phase that is left plans it any more. -/
def Dropped (program : List (Phase Key Value)) (k : Key) : Progress Key Value → Prop
  | .stopped => True
  | .running pending rest => (∀ command ∈ pending, ∀ v, (k, v) ∉ command.adds) ∧ rest ⊆ program

structure Missed (program : List (Phase Key Value)) (k : Key) (Past : Store Key Value → Prop)
    (s : State Key Value Proc) : Prop where
  past : Past s.store
  missing : s.store k = none
  dropped : ∀ p, Dropped program k (s.progress p)

omit [DecidableEq Key] in
theorem Missed.setProgress {program : List (Phase Key Value)} {k : Key}
    {Past : Store Key Value → Prop} {s : State Key Value Proc} (missed : Missed program k Past s)
    {store : Store Key Value} (past : Past store) (missing : store k = none) {p : Proc}
    {progress : Progress Key Value} (hp : Dropped program k progress) :
    Missed program k Past ({ s with store := store }.setProgress p progress) := by
  refine ⟨past, missing, fun q => ?_⟩
  by_cases hq : q = p
  · subst hq
    rw [State.setProgress_self]
    exact hp
  · rw [State.setProgress_of_ne _ _ hq]
    exact missed.dropped q

/-- Good commands that are accepted keep a property of the store. -/
def Kept (accepts : Command Key Value → Bool) (Sound : Store Key Value → Prop)
    (Good : Command Key Value → Prop) (Open : Store Key Value → Prop) : Prop :=
  ∀ s command, Sound s → Open s → Good command → accepts command → command.Ready s →
    Open (add command.adds s)

variable {Open : Store Key Value → Prop}

end Step
end Completion
