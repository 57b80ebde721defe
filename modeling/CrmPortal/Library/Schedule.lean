import Mathlib.Data.List.Induction
import Mathlib.Order.Basic

/-!
# Runs under a schedule

A step that is not enabled has no result. A schedule names the steps in the
order in which they are taken; a theorem about every schedule that can be
executed is a theorem about every interleaving. Where every step has a result, what no
step lowers is as high at the end of a run as at its start only if no step has raised it.
-/

namespace Schedule

universe u v
variable {State : Type u} {Action : Type v} {step : State → Action → Option State}

def exec (step : State → Action → Option State) : State → List Action → Option State
  | s, [] => some s
  | s, a :: rest => (step s a).bind fun t => exec step t rest

theorem exec_cons_iff {s u : State} {a : Action} {rest : List Action} :
    exec step s (a :: rest) = some u ↔ ∃ t, step s a = some t ∧ exec step t rest = some u :=
  Option.bind_eq_some_iff

theorem exec_append_iff {s u : State} {first second : List Action} :
    exec step s (first ++ second) = some u ↔
      ∃ t, exec step s first = some t ∧ exec step t second = some u := by
  induction first generalizing s with
  | nil => simp [exec]
  | cons a rest ih =>
    rw [List.cons_append, exec_cons_iff]
    constructor
    · rintro ⟨m, hm, hrest⟩
      obtain ⟨t, ht, hsecond⟩ := ih.mp hrest
      exact ⟨t, exec_cons_iff.mpr ⟨m, hm, ht⟩, hsecond⟩
    · rintro ⟨t, ht, hsecond⟩
      obtain ⟨m, hm, hrest⟩ := exec_cons_iff.mp ht
      exact ⟨m, hm, ih.mpr ⟨t, hrest, hsecond⟩⟩

/-- What holds at the start and is preserved by every step holds at the end. -/
theorem exec_invariant {P : State → Prop} (preserved : ∀ s a t, P s → step s a = some t → P t)
    {s u : State} {schedule : List Action} (h : exec step s schedule = some u) (start : P s) :
    P u := by
  induction schedule generalizing s with
  | nil =>
    obtain rfl := Option.some.inj h
    exact start
  | cons a rest ih =>
    obtain ⟨t, ht, hrest⟩ := exec_cons_iff.mp h
    exact ih hrest (preserved s a t start ht)

/-- What holds of a run of no steps and is kept by one step more holds of every run. -/
theorem exec_history {P : List Action → State → Prop} {s : State} (start : P [] s)
    (preserved : ∀ done t a u, exec step s done = some t → P done t → step t a = some u →
      P (done ++ [a]) u)
    {schedule : List Action} {u : State} (h : exec step s schedule = some u) : P schedule u := by
  induction schedule using List.reverseRecOn generalizing u with
  | nil =>
    obtain rfl := Option.some.inj h
    exact start
  | append_singleton done a ih =>
    obtain ⟨t, ht, hlast⟩ := exec_append_iff.mp h
    obtain ⟨v, hv, hend⟩ := exec_cons_iff.mp hlast
    obtain rfl := Option.some.inj hend
    exact preserved done t a v ht (ih ht) hv

/-- Every step that the schedule takes from `s` meets the condition where it is taken. -/
def Along (C : State → Action → Prop) (step : State → Action → Option State) :
    State → List Action → Prop
  | _, [] => True
  | s, a :: rest => C s a ∧ ∀ t, step s a = some t → Along C step t rest

theorem along_cons {C : State → Action → Prop} {s : State} {a : Action} {rest : List Action} :
    Along C step s (a :: rest) ↔ C s a ∧ ∀ t, step s a = some t → Along C step t rest := Iff.rfl

/-- The condition is met wherever the schedule takes a step. -/
theorem along_iff_prefix {C : State → Action → Prop} {s : State} {schedule : List Action} :
    Along C step s schedule ↔ ∀ done a, done ++ [a] <+: schedule →
      ∀ t, exec step s done = some t → C t a := by
  induction schedule generalizing s with
  | nil =>
    refine ⟨fun _ done a hlisted => ?_, fun _ => trivial⟩
    exact absurd (List.prefix_nil.mp hlisted) (by simp)
  | cons b rest ih =>
    rw [along_cons]
    constructor
    · rintro ⟨hcond, hlater⟩ done a hlisted t ht
      cases done with
      | nil =>
        obtain ⟨rfl, -⟩ := List.cons_prefix_cons.mp hlisted
        obtain rfl := Option.some.inj ht
        exact hcond
      | cons c done =>
        obtain ⟨rfl, hrest⟩ := List.cons_prefix_cons.mp hlisted
        obtain ⟨m, hm, hdone⟩ := exec_cons_iff.mp ht
        exact ih.mp (hlater m hm) done a hrest t hdone
    · intro h
      refine ⟨h [] b ⟨rest, rfl⟩ s rfl, fun t ht => ih.mpr fun done a hlisted u hu => ?_⟩
      exact h (b :: done) a (List.cons_prefix_cons.mpr ⟨rfl, hlisted⟩) u
        (exec_cons_iff.mpr ⟨t, ht, hu⟩)

theorem along_mono {C D : State → Action → Prop} (weaker : ∀ s a, C s a → D s a) {s : State}
    {schedule : List Action} (h : Along C step s schedule) : Along D step s schedule := by
  induction schedule generalizing s with
  | nil => trivial
  | cons a rest ih =>
    obtain ⟨hcond, hlater⟩ := along_cons.mp h
    exact ⟨weaker s a hcond, fun t ht => ih (hlater t ht)⟩

/-- The condition may also speak of the steps as members of the schedule. -/
theorem along_and_mem {C : State → Action → Prop} {D : Action → Prop} {s : State}
    {schedule : List Action} (h : Along C step s schedule) (listed : ∀ a ∈ schedule, D a) :
    Along (fun s a => C s a ∧ D a) step s schedule := by
  induction schedule generalizing s with
  | nil => trivial
  | cons a rest ih =>
    obtain ⟨hcond, hlater⟩ := along_cons.mp h
    exact ⟨⟨hcond, listed a List.mem_cons_self⟩,
      fun t ht => ih (hlater t ht) fun b hb => listed b (List.mem_cons_of_mem a hb)⟩

instance decidableAlong {C : State → Action → Prop} [∀ s a, Decidable (C s a)] :
    (s : State) → (schedule : List Action) → Decidable (Along C step s schedule)
  | _, [] => isTrue trivial
  | s, a :: rest =>
    match hstep : step s a with
    | none => decidable_of_iff (C s a) ⟨fun h => ⟨h, fun t ht => by rw [hstep] at ht; cases ht⟩,
        fun h => h.1⟩
    | some t =>
      have later : Decidable (Along C step t rest) := decidableAlong t rest
      decidable_of_iff (C s a ∧ Along C step t rest)
        ⟨fun h => ⟨h.1, fun u hu => Option.some.inj (hstep.symm.trans hu) ▸ h.2⟩,
          fun h => ⟨h.1, h.2 t hstep⟩⟩

/-- What the steps that meet the condition preserve holds at the end of a run of them. -/
theorem exec_invariant_along {P : State → Prop} {C : State → Action → Prop}
    (preserved : ∀ s a t, P s → C s a → step s a = some t → P t)
    {s u : State} {schedule : List Action} (h : exec step s schedule = some u)
    (along : Along C step s schedule) (start : P s) : P u := by
  induction schedule generalizing s with
  | nil =>
    obtain rfl := Option.some.inj h
    exact start
  | cons a rest ih =>
    obtain ⟨t, ht, hrest⟩ := exec_cons_iff.mp h
    obtain ⟨hcond, hlater⟩ := along_cons.mp along
    exact ih hrest (hlater t ht) (preserved s a t start hcond ht)

/-- A quantity that a step leaves as it is exactly when it meets the condition is the same
at every moment of a run exactly when all its steps meet it. -/
theorem along_iff_constant {Quantity : Type v} {q : State → Quantity}
    {C : State → Action → Prop} (kept : ∀ s a t, step s a = some t → (q t = q s ↔ C s a))
    {s u : State} {schedule : List Action} (h : exec step s schedule = some u) :
    (∀ done, done <+: schedule → ∀ t, exec step s done = some t → q t = q s) ↔
      Along C step s schedule := by
  induction schedule generalizing s with
  | nil =>
    refine ⟨fun _ => trivial, fun _ done hdone t ht => ?_⟩
    obtain rfl := List.prefix_nil.mp hdone
    rw [Option.some.inj ht]
  | cons a rest ih =>
    obtain ⟨m, hm, hrest⟩ := exec_cons_iff.mp h
    rw [along_cons]
    constructor
    · intro hconstant
      have hfirst : q m = q s :=
        hconstant [a] ⟨rest, rfl⟩ m (exec_cons_iff.mpr ⟨m, hm, rfl⟩)
      refine ⟨(kept s a m hm).mp hfirst, fun v hv => ?_⟩
      obtain rfl := Option.some.inj (hm.symm.trans hv)
      refine (ih hrest).mp fun done hdone t ht => ?_
      rw [hfirst]
      exact hconstant (a :: done) (List.cons_prefix_cons.mpr ⟨rfl, hdone⟩) t
        (exec_cons_iff.mpr ⟨m, hm, ht⟩)
    · rintro ⟨hcond, hlater⟩ done hdone t ht
      rcases done with _ | ⟨b, done⟩
      · rw [Option.some.inj ht]
      · obtain ⟨rfl, hrestdone⟩ := List.cons_prefix_cons.mp hdone
        obtain ⟨v, hv, ht⟩ := exec_cons_iff.mp ht
        obtain rfl := Option.some.inj (hm.symm.trans hv)
        rw [(ih hrest).mpr (hlater m hm) done hrestdone t ht]
        exact (kept s b m hm).mpr hcond

end Schedule

namespace Potential

universe u v w
variable {State : Type u} {Request : Type v} {α : Type w} [PartialOrder α]
  {serve : State → Request → State} {potential : State → α}

/-- Each step of the run meets the condition where it is taken. -/
def Each (C : State → Request → Prop) (serve : State → Request → State) :
    State → List Request → Prop
  | _, [] => True
  | s, r :: rest => C s r ∧ Each C serve (serve s r) rest

theorem each_iff {C : State → Request → Prop} {s : State} {requests : List Request} :
    Each C serve s requests ↔ ∀ before r after, requests = before ++ r :: after →
      C (before.foldl serve s) r := by
  induction requests generalizing s with
  | nil =>
    constructor
    · intro _ before r after h
      simp at h
    · exact fun _ => trivial
  | cons first rest ih =>
    constructor
    · rintro ⟨hfirst, hrest⟩ before r after h
      cases before with
      | nil =>
        obtain ⟨rfl, -⟩ := List.cons.inj h
        exact hfirst
      | cons b more =>
        obtain ⟨rfl, htail⟩ := List.cons.inj h
        exact ih.mp hrest more r after htail
    · intro h
      refine ⟨h [] first rest rfl, ih.mpr fun before r after heq => ?_⟩
      exact h (first :: before) r after (congrArg (List.cons first) heq)

theorem start_le (rises : ∀ s r, potential s ≤ potential (serve s r)) (requests : List Request)
    (s : State) : potential s ≤ potential (requests.foldl serve s) := by
  induction requests generalizing s with
  | nil => exact le_rfl
  | cons r rest ih => exact (rises s r).trans (ih (serve s r))

/-- A step that raised it would not be made up for. -/
theorem start_eq_iff (rises : ∀ s r, potential s ≤ potential (serve s r))
    (requests : List Request) (s : State) :
    potential s = potential (requests.foldl serve s) ↔
      Each (fun s r => potential s = potential (serve s r)) serve s requests := by
  induction requests generalizing s with
  | nil => exact ⟨fun _ => trivial, fun _ => rfl⟩
  | cons r rest ih =>
    have hlow := rises s r
    have hhigh := start_le rises rest (serve s r)
    constructor
    · intro h
      have hsame : potential s = potential (serve s r) :=
        le_antisymm hlow (hhigh.trans (le_of_eq h.symm))
      exact ⟨hsame, (ih (serve s r)).mp (hsame.symm.trans h)⟩
    · rintro ⟨hsame, hrest⟩
      exact hsame.trans ((ih (serve s r)).mpr hrest)

end Potential
