import CrmPortal.ChaosStore
import CrmPortal.MiddlewareStack

/-!
# Injected database faults

`_inject` runs before every statement of an engine, also before the query with which it
asks for the active scenario itself: that query needs a further connection of the pool,
and its own `_inject` a further one still. The innermost call gets none, and takes this
for an inactive scenario.
-/

namespace FaultInjection

open PyValue ChaosStore MiddlewareStack

/-- The workflow that a fault with the start `workflow:` names. -/
def workflowFilter (fault : String) : Option String :=
  (JsonText.stripPrefix "workflow:".toList fault.toList).map String.ofList

/-- The first loop. -/
def namesWorkflow (wfId : Option String) : List Json → Except PyExc Bool
  | [] => .ok false
  | fault :: rest => do
    match workflowFilter (← fault.asStr) with
    | some named => if some named = wfId then return true else namesWorkflow wfId rest
    | none => namesWorkflow wfId rest

/-- `any(f.startswith("workflow:") for f in state.faults)`. -/
def anyFilter : List Json → Except PyExc Bool
  | [] => .ok false
  | fault :: rest => do
    match workflowFilter (← fault.asStr) with
    | some _ => return true
    | none => anyFilter rest

def scenarioApplies (wf : Option WorkflowContext) (state : ChaosScenarioState) :
    Except PyExc Bool := do
  if ← namesWorkflow (wf.map WorkflowContext.workflowId) state.faults then return true
  return !(← anyFilter state.faults)

inductive Effect where
  | delay (seconds : ℚ)
  | raise
  deriving DecidableEq

/-- An effect, and the state and time for which it was made. -/
structure Injection where
  effect : Effect
  state : ChaosScenarioState
  checkedAt : ℚ

/-- What one call of the hook draws and when it looks; its query may fail after its own
hook has run. -/
structure Level where
  clock : ReadClock
  queryFails : Bool
  slowSeconds : ℚ
  deadlockDraw : ℚ
  holdDraw : ℚ

/-- What was injected, and whether the statement was stopped. -/
structure Injected where
  events : List Injection
  raised : Bool

def hasFault (state : ChaosScenarioState) (name : String) : Bool :=
  state.faults.any fun fault => match fault with
    | .str text => decide (text = name)
    | _ => false

/-- `set(state.faults)` takes no list and no dictionary. -/
def hashable : Json → Bool
  | .arr _ => false
  | .obj _ => false
  | _ => true

/-- The effects of an applicable scenario, up to the first that raises. -/
def effects (level : Level) (state : ChaosScenarioState) : List Effect :=
  if !state.faults.all hashable then [.raise]
  else
    let slow := if hasFault state "db.slow" then [Effect.delay level.slowSeconds] else []
    if hasFault state "db.deadlock" ∧ level.deadlockDraw < 1 / 2 then slow ++ [.raise]
    else if hasFault state "db.pool_hold" ∧ level.holdDraw < 1 / 10 then slow ++ [.delay 30]
    else slow

/-- The hook once it knows the active state. -/
def injectActive (wf : Option WorkflowContext) (level : Level) (state : ChaosScenarioState) :
    List Effect :=
  match scenarioApplies wf state with
  | .error _ => [.raise]
  | .ok false => []
  | .ok true => effects level state

/-- The calls of the hook for one statement, the outermost first. The last one gets no
connection for its query. -/
def inject (env : ChaosEnv) (wf : Option WorkflowContext) (store : Store) : List Level → Injected
  | [] => ⟨[], false⟩
  | level :: nested =>
    if env.enabled ∧ env.backendName = "db" then
      let query := inject env wf store nested
      let active := if nested.isEmpty ∨ query.raised ∨ level.queryFails then none
        else getActiveState env level.clock store
      match active with
      | none => ⟨query.events, false⟩
      | some state =>
        let own := injectActive wf level state
        ⟨query.events ++ own.map fun effect => ⟨effect, state, level.clock.checkedAt⟩,
          decide (Effect.raise ∈ own)⟩
    else ⟨[], false⟩

/-- There is no filter, or one that names the workflow. -/
def FilterAdmits (wf : Option WorkflowContext) (faults : List Json) : Prop :=
  (∀ text, .str text ∈ faults → workflowFilter text = none) ∨
    ∃ text named, .str text ∈ faults ∧ workflowFilter text = some named ∧
      wf.map WorkflowContext.workflowId = some named

def InScope (wf : Option WorkflowContext) (injection : Injection) : Prop :=
  injection.state.isExpired injection.checkedAt = false ∧
    injection.state.target ∈ ["crm", "both"] ∧ FilterAdmits wf injection.state.faults

/-- No statement is delayed or stopped out of scope. -/
def Scoped (env : ChaosEnv) (past : List Op) (wf : Option WorkflowContext) : Prop :=
  ∀ levels, ∀ injection ∈ (inject env wf (storeAfter env past) levels).events, InScope wf injection

def dbFaults : List String := ["db.slow", "db.deadlock", "db.pool_hold"]

/-- The scenario is for the shop alone, and its fault and filter would do here too. -/
def Misdirected (env : ChaosEnv) (past : List Op) (wf : Option WorkflowContext) : Prop :=
  env.enabled = true ∧ env.backendName = "db" ∧ ∃ state deadline,
    lastWrite env past = some (.set state deadline) ∧ state.target = "shop" ∧
      (∃ name ∈ dbFaults, .str name ∈ state.faults) ∧ FilterAdmits wf state.faults

section Applied
variable {env : ChaosEnv} {past : List Op} {wf : Option WorkflowContext}
  {state : ChaosScenarioState} {texts : List String}

/-- The faults of a state that was applied are the texts of its preset. -/
theorem applied_state {deadline : ℚ} (h : lastWrite env past = some (.set state deadline)) :
    state.target ∈ ["shop", "crm", "both"] ∧ ∃ texts : List String,
      state.faults = texts.map .str := by
  obtain ⟨op, -, hop⟩ := List.mem_filterMap.mp (List.mem_of_getLast? h)
  cases op with
  | apply request body now rowId =>
    simp only [writeOf] at hop
    split at hop
    · cases hop
    · next payload preset _ =>
      cases hop
      exact ⟨payload.target_mem, preset.faults, rfl⟩
  | clear request =>
    simp only [writeOf] at hop
    split at hop <;> cases hop
  | read clock => cases hop

theorem namesWorkflow_cons (wfId : Option String) (text : String) (rest : List Json) :
    namesWorkflow wfId (.str text :: rest) = match workflowFilter text with
      | some named => if some named = wfId then .ok true else namesWorkflow wfId rest
      | none => namesWorkflow wfId rest := rfl

theorem namesWorkflow_texts (wfId : Option String) (texts : List String) :
    ∃ b, namesWorkflow wfId (texts.map .str) = .ok b ∧ (b = true ↔
      ∃ text ∈ texts, ∃ named, workflowFilter text = some named ∧ wfId = some named) := by
  induction texts with
  | nil => exact ⟨false, rfl, by simp⟩
  | cons text texts ih =>
    obtain ⟨b, hb, hiff⟩ := ih
    rw [List.map_cons, namesWorkflow_cons]
    cases hfilter : workflowFilter text with
    | none => exact ⟨b, hb, by simp [hfilter, hiff]⟩
    | some named =>
      by_cases hnamed : some named = wfId
      · refine ⟨true, if_pos hnamed, fun _ => ?_, fun _ => rfl⟩
        exact ⟨text, List.mem_cons_self, named, hfilter, hnamed.symm⟩
      · have hother : ¬ wfId = some named := fun heq => hnamed heq.symm
        exact ⟨b, (if_neg hnamed).trans hb, by simp [hfilter, hiff, hother]⟩

theorem anyFilter_cons (text : String) (rest : List Json) :
    anyFilter (.str text :: rest) = match workflowFilter text with
      | some _ => .ok true
      | none => anyFilter rest := rfl

theorem anyFilter_texts (texts : List String) :
    ∃ b, anyFilter (texts.map .str) = .ok b ∧
      (b = true ↔ ∃ text ∈ texts, workflowFilter text ≠ none) := by
  induction texts with
  | nil => exact ⟨false, rfl, by simp⟩
  | cons text texts ih =>
    obtain ⟨b, hb, hiff⟩ := ih
    rw [List.map_cons, anyFilter_cons]
    cases hfilter : workflowFilter text with
    | none => exact ⟨b, hb, by simp [hfilter, hiff]⟩
    | some named => exact ⟨true, rfl, by simp [hfilter]⟩

theorem scenarioApplies_texts (wf : Option WorkflowContext)
    (faults : state.faults = texts.map .str) :
    ∃ b, scenarioApplies wf state = .ok b ∧ (b = true ↔ FilterAdmits wf state.faults) := by
  obtain ⟨names, hnames, hnamesIff⟩ :=
    namesWorkflow_texts (wf.map WorkflowContext.workflowId) texts
  obtain ⟨any, hany, hanyIff⟩ := anyFilter_texts texts
  have hmem : ∀ text, Json.str text ∈ texts.map Json.str ↔ text ∈ texts := by simp
  unfold scenarioApplies FilterAdmits
  rw [faults, hnames]
  cases names with
  | true =>
    obtain ⟨text, htext, named, hfilter, hwf⟩ := hnamesIff.mp rfl
    refine ⟨true, rfl, fun _ => .inr ⟨text, named, (hmem text).mpr htext, hfilter, hwf⟩,
      fun _ => rfl⟩
  | false =>
    rw [hany]
    refine ⟨!any, rfl, ?_⟩
    constructor
    · intro hnot
      refine .inl fun text htext => ?_
      by_contra hfilter
      rw [hanyIff.mpr ⟨text, (hmem text).mp htext, hfilter⟩] at hnot
      cases hnot
    · rintro (hnone | ⟨text, named, htext, hfilter, hwf⟩)
      · cases hb : any with
        | false => rfl
        | true =>
          obtain ⟨text, htext, hfilter⟩ := hanyIff.mp hb
          exact absurd (hnone text ((hmem text).mpr htext)) hfilter
      · have hnames := hnamesIff.mpr ⟨text, (hmem text).mp htext, named, hfilter, hwf⟩
        cases hnames

theorem hasFault_iff {name : String} : hasFault state name = true ↔ .str name ∈ state.faults := by
  rw [hasFault, List.any_eq_true]
  constructor
  · rintro ⟨fault, hmem, hfault⟩
    cases fault with
    | str text => exact of_decide_eq_true hfault ▸ hmem
    | _ => cases hfault
  · intro hmem
    exact ⟨_, hmem, by simp⟩

theorem hashable_texts (faults : state.faults = texts.map .str) :
    state.faults.all hashable = true := by
  rw [faults, List.all_map, List.all_eq_true]
  intro _ _
  rfl

/-- Only the three database faults have an effect. -/
theorem effects_only {level : Level} (faults : state.faults = texts.map .str)
    (h : effects level state ≠ []) : ∃ name ∈ dbFaults, .str name ∈ state.faults := by
  rw [effects, hashable_texts faults] at h
  by_contra hnone
  have hmissing : ∀ name ∈ dbFaults, hasFault state name = false := by
    intro name hname
    rw [Bool.eq_false_iff]
    exact fun hfault => hnone ⟨name, hname, hasFault_iff.mp hfault⟩
  have hslow := hmissing "db.slow" (by decide)
  have hdeadlock := hmissing "db.deadlock" (by decide)
  have hhold := hmissing "db.pool_hold" (by decide)
  simp [hslow, hdeadlock, hhold] at h

/-- Where the draws are the least, each of them has. -/
theorem effects_some {level : Level} (deadlock : level.deadlockDraw = 0) (hold : level.holdDraw = 0)
    (faults : state.faults = texts.map .str)
    (h : ∃ name ∈ dbFaults, .str name ∈ state.faults) : effects level state ≠ [] := by
  obtain ⟨name, hname, hfault⟩ := h
  rw [effects, hashable_texts faults, deadlock, hold]
  simp only [dbFaults, List.mem_cons, List.not_mem_nil, or_false] at hname
  rcases hname with rfl | rfl | rfl
  · have hslow := hasFault_iff.mpr hfault
    simp only [hslow]
    split
    · simp
    · split
      · simp
      · split <;> simp
  · have hdeadlock := hasFault_iff.mpr hfault
    simp [hdeadlock]
  · have hhold := hasFault_iff.mpr hfault
    by_cases hdeadlock : hasFault state "db.deadlock" = true
    · simp [hdeadlock]
    · simp [hdeadlock, hhold]

end Applied

section Injection
variable {env : ChaosEnv} {past : List Op} {wf : Option WorkflowContext} {store : Store}

/-- Each effect was made by a call that found its state active. -/
theorem injected_of_active {levels : List Level} {injection : Injection}
    (h : injection ∈ (inject env wf store levels).events) :
    ∃ level, getActiveState env level.clock store = some injection.state ∧
      injection.checkedAt = level.clock.checkedAt ∧
      injection.effect ∈ injectActive wf level injection.state := by
  induction levels with
  | nil => cases h
  | cons level nested ih =>
    rw [inject] at h
    split at h
    · dsimp only at h
      split at h
      · exact ih h
      · next state hactive =>
        rcases List.mem_append.mp h with hquery | hown
        · exact ih hquery
        · obtain ⟨effect, heffect, rfl⟩ := List.mem_map.mp hown
          split at hactive
          · cases hactive
          · exact ⟨level, hactive, rfl, heffect⟩
    · cases h

/-- An active state is the one that was applied last, before its deadline. -/
theorem active_applied {clock : ReadClock} {state : ChaosScenarioState}
    (h : getActiveState env clock (storeAfter env past) = some state) :
    env.enabled = true ∧ env.backendName = "db" ∧
      ∃ deadline, lastWrite env past = some (.set state deadline) := by
  obtain ⟨henabled, hbackend⟩ := getActiveState_enabled h
  rw [(storeAfter_holds env past).getActiveState henabled hbackend] at h
  obtain ⟨deadline, hlast, -⟩ := ExpiringRegister.read_after_iff.mp h
  exact ⟨henabled, hbackend, deadline, hlast⟩

theorem active_not_expired {clock : ReadClock} {state : ChaosScenarioState}
    (h : getActiveState env clock store = some state) :
    state.isExpired clock.checkedAt = false := by
  unfold getActiveState at h
  split at h
  · cases h
  · have hkept := (Option.filter_eq_some_iff.mp h).2
    simpa using hkept

/-- An effect of the hook is that of a database fault whose filter admits the workflow. -/
theorem injectActive_only {level : Level} {state : ChaosScenarioState} {texts : List String}
    {effect : Effect} (faults : state.faults = texts.map .str)
    (h : effect ∈ injectActive wf level state) :
    FilterAdmits wf state.faults ∧ ∃ name ∈ dbFaults, .str name ∈ state.faults := by
  obtain ⟨b, happlies, hiff⟩ := scenarioApplies_texts wf faults
  rw [injectActive, happlies] at h
  cases b with
  | false => cases h
  | true => exact ⟨hiff.mp rfl, effects_only faults (List.ne_nil_of_mem h)⟩

/-- A call before the deadline with the least draws, and the call of its query, which
gets no connection. -/
def worstLevels (deadline : ℚ) : List Level :=
  let clock : ReadClock := ⟨deadline - 1, deadline - 1, deadline - 1, le_rfl⟩
  [⟨clock, false, 2, 0, 0⟩, ⟨clock, false, 2, 0, 0⟩]

theorem misdirected_injects (h : Misdirected env past wf) : ∃ levels,
    ∃ injection ∈ (inject env wf (storeAfter env past) levels).events,
      injection.state.target = "shop" := by
  obtain ⟨henabled, hbackend, state, deadline, hlast, htarget, hfault, hfilter⟩ := h
  obtain ⟨-, texts, hfaults⟩ := applied_state hlast
  obtain ⟨b, happlies, hiff⟩ := scenarioApplies_texts wf hfaults
  obtain rfl : b = true := hiff.mpr hfilter
  have hactive : getActiveState env ⟨deadline - 1, deadline - 1, deadline - 1, le_rfl⟩
      (storeAfter env past) = some state := by
    rw [(storeAfter_holds env past).getActiveState henabled hbackend]
    exact ExpiringRegister.read_after_iff.mpr ⟨deadline, hlast, sub_one_lt deadline⟩
  have hinactive : ∀ level, inject env wf (storeAfter env past) [level] = ⟨[], false⟩ := by
    intro level
    simp [inject]
  have hsome : ∀ level : Level, level.deadlockDraw = 0 → level.holdDraw = 0 →
      effects level state ≠ [] := fun _ hdeadlock hhold =>
    effects_some hdeadlock hhold hfaults hfault
  obtain ⟨effect, heffect⟩ := List.exists_mem_of_ne_nil _
    (hsome ⟨⟨deadline - 1, deadline - 1, deadline - 1, le_rfl⟩, false, 2, 0, 0⟩ rfl rfl)
  refine ⟨worstLevels deadline, ⟨effect, state, deadline - 1⟩, ?_, htarget⟩
  rw [worstLevels, inject, if_pos ⟨henabled, hbackend⟩]
  simp only [hinactive, List.isEmpty_cons, Bool.false_eq_true, or_self, if_false, hactive,
    injectActive, happlies, List.nil_append]
  exact List.mem_map_of_mem heffect

/-- The hook never asks for the target. -/
theorem faults_scoped_iff (env : ChaosEnv) (past : List Op) (wf : Option WorkflowContext) :
    Scoped env past wf ↔ ¬ Misdirected env past wf := by
  constructor
  · intro hscoped hmisdirected
    obtain ⟨levels, injection, hmem, htarget⟩ := misdirected_injects hmisdirected
    obtain ⟨-, htargets, -⟩ := hscoped levels injection hmem
    rw [htarget] at htargets
    exact absurd htargets (by decide)
  · intro hdirected levels injection hmem
    obtain ⟨level, hactive, htime, heffect⟩ := injected_of_active hmem
    obtain ⟨henabled, hbackend, deadline, hlast⟩ := active_applied hactive
    obtain ⟨htargets, texts, hfaults⟩ := applied_state hlast
    obtain ⟨hfilter, hfault⟩ := injectActive_only hfaults heffect
    refine ⟨htime ▸ active_not_expired hactive, ?_, hfilter⟩
    rcases List.mem_cons.mp htargets with hshop | hhere
    · exact absurd ⟨henabled, hbackend, _, deadline, hlast, hshop, hfault, hfilter⟩ hdirected
    · exact hhere

end Injection

def shopDrill : ApplyBody := ⟨"db-slow-checkout", some "shop", some 60, none⟩

def checkout : Option WorkflowContext := some (resolveWorkflow "/api/orders")

theorem shop_drill_delays_crm :
    ¬ Scoped sampleEnv [.apply operator shopDrill 1000 "row"] checkout := by
  have hmisdirected : Misdirected sampleEnv [.apply operator shopDrill 1000 "row"] checkout :=
    ⟨by decide +kernel, by decide +kernel, _, _, rfl, rfl, ⟨"db.slow", by decide, .head _⟩,
      .inr ⟨"workflow:checkout", "checkout", .tail _ (.head _), by decide +kernel,
        by decide +kernel⟩⟩
  obtain ⟨levels, injection, hmem, htarget⟩ := misdirected_injects hmisdirected
  intro hscoped
  obtain ⟨-, htargets, -⟩ := hscoped levels injection hmem
  rw [htarget] at htargets
  exact absurd htargets (by decide)

end FaultInjection
