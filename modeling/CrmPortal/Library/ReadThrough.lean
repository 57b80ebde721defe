import CrmPortal.Library.Schedule
import Mathlib.Logic.Function.Basic
import Mathlib.Data.List.Basic

/-!
# A read-through cache whose entries are invalidated

A reader asks the cache under the key of a name, then reads the value of the name and
stores it. A writer changes the value of a name and deletes the key some time later.
Several names may share a key. An entry may vanish at any time.

The memory of a state is for the theorems only: the values that a name has had since
its changes were last all invalidated, and the values that a reader may return.
-/

namespace ReadThrough

open Schedule

variable {Reader Name Key Value Result : Type}

/-- A reader that starts while no invalidation of its name is pending is promised a value
that the name has had since. -/
inductive Session (Name Value Result : Type) where
  | idle
  | started (name : Name) (promise : Option (List Value))
  | asked (name : Name) (promise : Option (List Value))
  | holding (name : Name) (promise : Option (List Value)) (v : Value)
  | done (name : Name) (promise : Option (List Value)) (result : Result)

/-- An entry remembers the name under which it was filled. -/
structure State (Reader Name Key Value Result : Type) where
  current : Name → Value
  cache : Key → Option (Name × Value)
  pending : List Name
  recent : Name → List Value
  session : Reader → Session Name Value Result

def start (current : Name → Value) : State Reader Name Key Value Result where
  current := current
  cache := fun _ => none
  pending := []
  recent := fun name => [current name]
  session := fun _ => .idle

/-- `miss` is a get without an answer, `skip` a read whose value is not stored. -/
inductive Action (Reader Name Key Value : Type) where
  | start (r : Reader) (name : Name)
  | hit (r : Reader)
  | miss (r : Reader)
  | read (r : Reader)
  | store (r : Reader)
  | skip (r : Reader)
  | write (name : Name) (v : Value)
  | invalidate (name : Name)
  | drop (k : Key)

variable [DecidableEq Reader] [DecidableEq Name] [DecidableEq Key]

/-- A reader in flight may return the value that its name is given. -/
def Session.note (name : Name) (v : Value) : Session Name Value Result → Session Name Value Result
  | .started n promise => .started n (if n = name then promise.map (· ++ [v]) else promise)
  | .asked n promise => .asked n (if n = name then promise.map (· ++ [v]) else promise)
  | .holding n promise w => .holding n (if n = name then promise.map (· ++ [v]) else promise) w
  | session => session

namespace State

def setSession (s : State Reader Name Key Value Result) (r : Reader)
    (session : Session Name Value Result) : State Reader Name Key Value Result :=
  { s with session := Function.update s.session r session }

def setEntry (s : State Reader Name Key Value Result) (k : Key) (entry : Option (Name × Value)) :
    State Reader Name Key Value Result :=
  { s with cache := Function.update s.cache k entry }

def write (s : State Reader Name Key Value Result) (name : Name) (v : Value) :
    State Reader Name Key Value Result where
  current := Function.update s.current name v
  cache := s.cache
  pending := name :: s.pending
  recent := Function.update s.recent name (s.recent name ++ [v])
  session := fun r => (s.session r).note name v

/-- The entry under the key goes, and one invalidation less is pending. -/
def invalidate (key : Name → Key) (s : State Reader Name Key Value Result) (name : Name) :
    State Reader Name Key Value Result where
  current := s.current
  cache := Function.update s.cache (key name) none
  pending := s.pending.erase name
  recent := if name ∈ s.pending.erase name then s.recent
    else Function.update s.recent name [s.current name]
  session := s.session

end State

section Step
variable (key : Name → Key) (decode : Value → Option Result) (present : Value → Result)

/-- `decode` is what an entry is read as, if it can be; `present` what is returned of a
value that was just read. -/
def step (s : State Reader Name Key Value Result) :
    Action Reader Name Key Value → Option (State Reader Name Key Value Result)
  | .start r name => match s.session r with
    | .idle => some (s.setSession r (.started name
        (if name ∈ s.pending then none else some [s.current name])))
    | _ => none
  | .hit r => match s.session r with
    | .started name promise => match s.cache (key name) with
      | some (_, v) => (decode v).map fun result => s.setSession r (.done name promise result)
      | none => none
    | _ => none
  | .miss r => match s.session r with
    | .started name promise => some (s.setSession r (.asked name promise))
    | _ => none
  | .read r => match s.session r with
    | .asked name promise => some (s.setSession r (.holding name promise (s.current name)))
    | _ => none
  | .store r => match s.session r with
    | .holding name promise v =>
      some ((s.setEntry (key name) (some (name, v))).setSession r
        (.done name promise (present v)))
    | _ => none
  | .skip r => match s.session r with
    | .holding name promise v => some (s.setSession r (.done name promise (present v)))
    | _ => none
  | .write name v => some (s.write name v)
  | .invalidate name => if name ∈ s.pending then some (s.invalidate key name) else none
  | .drop k => some (s.setEntry k none)

/-- Every reader that has returned has kept its promise. -/
def Fresh (s : State Reader Name Key Value Result) : Prop :=
  ∀ r name values result, s.session r = .done name (some values) result →
    ∃ v ∈ values, result = present v

/-- A hit is on an entry of the same name that is read back as it would be returned; what
is stored is a value that the name has had since its invalidations were last complete. -/
def Careful (s : State Reader Name Key Value Result) : Action Reader Name Key Value → Prop
  | .hit r => ∀ name promise, s.session r = .started name promise →
    ∀ filler v, s.cache (key name) = some (filler, v) →
      filler = name ∧ decode v = some (present v)
  | .store r => ∀ name promise v, s.session r = .holding name promise v → v ∈ s.recent name
  | _ => True

end Step

/-- What a session may still return is among what it is promised. -/
def Session.Sound (recent : Name → List Value) (present : Value → Result) :
    Session Name Value Result → Prop
  | .idle => True
  | .started name promise => ∀ values ∈ promise, ∀ v ∈ recent name, v ∈ values
  | .asked name promise => ∀ values ∈ promise, ∀ v ∈ recent name, v ∈ values
  | .holding name promise v =>
    ∀ values ∈ promise, (∀ w ∈ recent name, w ∈ values) ∧ v ∈ values
  | .done _ promise result => ∀ values ∈ promise, ∃ v ∈ values, result = present v

/-- Every entry is of its key and of a recent value; the current value is recent, and
the only one where no invalidation is pending. -/
structure Inv (key : Name → Key) (present : Value → Result)
    (s : State Reader Name Key Value Result) : Prop where
  entry : ∀ k name v, s.cache k = some (name, v) → k = key name ∧ v ∈ s.recent name
  current : ∀ name, s.current name ∈ s.recent name
  settled : ∀ name, name ∉ s.pending → s.recent name = [s.current name]
  sound : ∀ r, (s.session r).Sound s.recent present

section Preservation
variable {key : Name → Key} {decode : Value → Option Result} {present : Value → Result}
  {s t : State Reader Name Key Value Result}

omit [DecidableEq Reader] [DecidableEq Name] [DecidableEq Key] in
theorem inv_start (current : Name → Value) :
    Inv key present (start current : State Reader Name Key Value Result) where
  entry := fun _ _ _ h => by cases h
  current := fun _ => List.mem_singleton.mpr rfl
  settled := fun _ _ => rfl
  sound := fun _ => trivial

omit [DecidableEq Reader] [DecidableEq Name] [DecidableEq Key] in
theorem Inv.sound_of {r : Reader} {session : Session Name Value Result}
    (h : Inv key present s) (hsession : s.session r = session) :
    session.Sound s.recent present :=
  hsession ▸ h.sound r

omit [DecidableEq Name] [DecidableEq Key] in
/-- One session changes, to a sound one. -/
theorem Inv.setSession {r : Reader} {session : Session Name Value Result}
    (h : Inv key present s) (sound : session.Sound s.recent present) :
    Inv key present (s.setSession r session) where
  entry := h.entry
  current := h.current
  settled := h.settled
  sound := by
    intro other
    by_cases hother : other = r
    · subst hother
      simpa only [State.setSession, Function.update_self] using sound
    · simpa only [State.setSession, Function.update_of_ne hother] using h.sound other

omit [DecidableEq Reader] [DecidableEq Name] in
theorem Inv.setEntry {k : Key} {entry : Option (Name × Value)} (h : Inv key present s)
    (recent : ∀ name v, entry = some (name, v) → k = key name ∧ v ∈ s.recent name) :
    Inv key present (s.setEntry k entry) where
  entry := by
    intro other name v hentry
    by_cases hother : other = k
    · subst hother
      simp only [State.setEntry, Function.update_self] at hentry
      exact recent name v hentry
    · simp only [State.setEntry, Function.update_of_ne hother] at hentry
      exact h.entry other name v hentry
  current := h.current
  settled := h.settled
  sound := h.sound

omit [DecidableEq Reader] [DecidableEq Key] in
/-- What a name is given is recent, and promised to the readers in flight. -/
theorem Session.Sound.note {session : Session Name Value Result} {recent : Name → List Value}
    (h : session.Sound recent present) (name : Name) (v : Value) :
    (session.note name v).Sound (Function.update recent name (recent name ++ [v])) present := by
  have hgrow : ∀ n (promise : Option (List Value)),
      (∀ values ∈ promise, ∀ w ∈ recent n, w ∈ values) →
      ∀ values ∈ (if n = name then promise.map (· ++ [v]) else promise),
        ∀ w ∈ Function.update recent name (recent name ++ [v]) n, w ∈ values := by
    intro n promise hold values hvalues w hw
    by_cases hn : n = name
    · subst hn
      rw [if_pos rfl] at hvalues
      obtain ⟨old, hpromise, rfl⟩ := Option.map_eq_some_iff.mp hvalues
      rw [Function.update_self] at hw
      rcases List.mem_append.mp hw with hw | hw
      · exact List.mem_append_left _ (hold old hpromise w hw)
      · exact List.mem_append_right _ hw
    · rw [if_neg hn] at hvalues
      rw [Function.update_of_ne hn] at hw
      exact hold values hvalues w hw
  cases session with
  | idle => trivial
  | started n promise => exact hgrow n promise h
  | asked n promise => exact hgrow n promise h
  | holding n promise held =>
    intro values hvalues
    refine ⟨hgrow n promise (fun values hvalues => (h values hvalues).1) values hvalues, ?_⟩
    by_cases hn : n = name
    · rw [if_pos hn] at hvalues
      obtain ⟨old, hpromise, rfl⟩ := Option.map_eq_some_iff.mp hvalues
      exact List.mem_append_left _ (h old hpromise).2
    · rw [if_neg hn] at hvalues
      exact (h values hvalues).2
  | done n promise result => exact h

omit [DecidableEq Reader] [DecidableEq Name] [DecidableEq Key] in
/-- Fewer recent values are covered by the same promises. -/
theorem Session.Sound.mono {session : Session Name Value Result} {recent fewer : Name → List Value}
    (h : session.Sound recent present) (sub : ∀ name, ∀ v ∈ fewer name, v ∈ recent name) :
    session.Sound fewer present := by
  cases session with
  | idle => trivial
  | started n promise => exact fun values hvalues v hv => h values hvalues v (sub n v hv)
  | asked n promise => exact fun values hvalues v hv => h values hvalues v (sub n v hv)
  | holding n promise held =>
    exact fun values hvalues =>
      ⟨fun v hv => (h values hvalues).1 v (sub n v hv), (h values hvalues).2⟩
  | done n promise result => exact h

omit [DecidableEq Reader] [DecidableEq Key] in
theorem Inv.write (h : Inv key present s) (name : Name) (v : Value) :
    Inv key present (s.write name v) where
  entry := by
    intro k n w hentry
    obtain ⟨hk, hw⟩ := h.entry k n w hentry
    refine ⟨hk, ?_⟩
    by_cases hn : n = name
    · subst hn
      simpa only [State.write, Function.update_self] using List.mem_append_left _ hw
    · simpa only [State.write, Function.update_of_ne hn] using hw
  current := by
    intro n
    by_cases hn : n = name
    · subst hn
      simp [State.write]
    · simpa only [State.write, Function.update_of_ne hn] using h.current n
  settled := by
    intro n hn
    obtain ⟨hne, hpending⟩ := not_or.mp (mt List.mem_cons.mpr hn)
    simpa only [State.write, Function.update_of_ne hne] using h.settled n hpending
  sound := fun r => (h.sound r).note name v

omit [DecidableEq Reader] in
theorem Inv.invalidate (h : Inv key present s) (name : Name) :
    Inv key present (s.invalidate key name) := by
  have hfewer : ∀ n, ∀ v ∈ (s.invalidate key name).recent n, v ∈ s.recent n := by
    intro n v hv
    simp only [State.invalidate] at hv
    split at hv
    · exact hv
    · by_cases hn : n = name
      · subst hn
        rw [Function.update_self, List.mem_singleton] at hv
        exact hv ▸ h.current n
      · rwa [Function.update_of_ne hn] at hv
  -- a name that is left alone has another key, or its entry is gone
  have hother : ∀ n, n ≠ name → (s.invalidate key name).recent n = s.recent n := by
    intro n hn
    simp only [State.invalidate]
    split
    · rfl
    · exact Function.update_of_ne hn _ _
  constructor
  · intro k n v hentry
    by_cases hk : k = key name
    · subst hk
      simp [State.invalidate] at hentry
    · simp only [State.invalidate, Function.update_of_ne hk] at hentry
      obtain ⟨hkey, hv⟩ := h.entry k n v hentry
      have hne : n ≠ name := by
        rintro rfl
        exact hk hkey
      exact ⟨hkey, (hother n hne).symm ▸ hv⟩
  · intro n
    by_cases hn : n = name
    · subst hn
      simp only [State.invalidate]
      split
      · exact h.current n
      · rw [Function.update_self]
        exact List.mem_singleton.mpr rfl
    · rw [hother n hn]
      exact h.current n
  · intro n hn
    by_cases hname : n = name
    · subst hname
      have hgone : n ∉ s.pending.erase n := hn
      simp only [State.invalidate, if_neg hgone, Function.update_self]
    · have hpending : n ∉ s.pending := fun hmem => hn ((List.mem_erase_of_ne hname).mpr hmem)
      rw [hother n hname]
      exact h.settled n hpending
  · exact fun r => (h.sound r).mono hfewer

/-- Without a pending invalidation all recent values are promised. -/
theorem Inv.start {r : Reader} {name : Name} (h : Inv key present s)
    (hstep : step key decode present s (.start r name) = some t) : Inv key present t := by
  simp only [step] at hstep
  split at hstep
  · cases hstep
    refine h.setSession ?_
    intro values hvalues v hv
    split at hvalues
    · cases hvalues
    · next hpending =>
      cases hvalues
      rw [← h.settled name hpending]
      exact hv
  · cases hstep

/-- What a careful hit returns was stored under the name, and is recent. -/
theorem Inv.hit {r : Reader} (h : Inv key present s)
    (careful : Careful key decode present s (.hit r))
    (hstep : step key decode present s (.hit r) = some t) : Inv key present t := by
  simp only [step] at hstep
  split at hstep
  · next name promise hsession =>
    split at hstep
    · next filler v hentry =>
      obtain ⟨rfl, hdecode⟩ := careful name promise hsession filler v hentry
      rw [hdecode] at hstep
      cases hstep
      have hsound := h.sound_of hsession
      refine h.setSession fun values hvalues => ⟨v, ?_, rfl⟩
      exact hsound values hvalues v (h.entry _ _ v hentry).2
    · cases hstep
  · cases hstep

theorem Inv.store {r : Reader} (h : Inv key present s)
    (careful : Careful key decode present s (.store r))
    (hstep : step key decode present s (.store r) = some t) : Inv key present t := by
  simp only [step] at hstep
  split at hstep
  · next name promise v hsession =>
    cases hstep
    have hsound := h.sound_of hsession
    have hrecent := careful name promise v hsession
    refine Inv.setSession (h.setEntry ?_) fun values hvalues =>
      ⟨v, (hsound values hvalues).2, rfl⟩
    intro filler w hentry
    cases hentry
    exact ⟨rfl, hrecent⟩
  · cases hstep

theorem Inv.step {a : Action Reader Name Key Value} (h : Inv key present s)
    (careful : Careful key decode present s a) (hstep : step key decode present s a = some t) :
    Inv key present t := by
  cases a with
  | start r name => exact h.start hstep
  | hit r => exact h.hit careful hstep
  | miss r =>
    simp only [ReadThrough.step] at hstep
    split at hstep
    · next name promise hsession =>
      cases hstep
      have hsound := h.sound_of hsession
      exact h.setSession hsound
    · cases hstep
  | read r =>
    simp only [ReadThrough.step] at hstep
    split at hstep
    · next name promise hsession =>
      cases hstep
      have hsound := h.sound_of hsession
      exact h.setSession fun values hvalues =>
        ⟨hsound values hvalues, hsound values hvalues _ (h.current name)⟩
    · cases hstep
  | store r => exact h.store careful hstep
  | skip r =>
    simp only [ReadThrough.step] at hstep
    split at hstep
    · next name promise v hsession =>
      cases hstep
      have hsound := h.sound_of hsession
      exact h.setSession fun values hvalues => ⟨v, (hsound values hvalues).2, rfl⟩
    · cases hstep
  | write name v =>
    cases hstep
    exact h.write name v
  | invalidate name =>
    simp only [ReadThrough.step] at hstep
    split at hstep
    · cases hstep
      exact h.invalidate name
    · cases hstep
  | drop k =>
    cases hstep
    exact h.setEntry fun _ _ hentry => by cases hentry

/-- In a careful run every reader that has returned has kept its promise. -/
theorem fresh_exec {current : Name → Value} {schedule : List (Action Reader Name Key Value)}
    (h : exec (step key decode present) (start current) schedule = some s)
    (careful : Along (Careful key decode present) (step key decode present) (start current)
      schedule) : Fresh present s := by
  have hinv : Inv key present s :=
    exec_invariant_along (fun _ _ _ hin hcareful hstep => Inv.step hin hcareful hstep) h careful
      (inv_start current)
  intro r name values result hsession
  exact hinv.sound_of hsession values rfl

end Preservation

end ReadThrough
