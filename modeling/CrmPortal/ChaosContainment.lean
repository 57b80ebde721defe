import CrmPortal.FaultInjection

/-!
# What the chaos hook lets through

The reader catches every exception between the query and the finished state. The faults of
the state are as they were stored, though, and `_inject` calls methods of `str` on them and
puts them in a set outside of any handler. Here the column of the payload holds bytes or any
value, and `dict` takes the keys it takes.
-/

namespace ChaosContainment

open PyValue JsonText ChaosStore MiddlewareStack FaultInjection

/-- What the driver returns for the column; a value that is no JSON is as good as null. -/
inductive Payload where
  | bytes (raw : List UInt8)
  | value (raw : Json)

structure StoredRow where
  appliedAt : PyFloat
  expiresAt : PyFloat
  payload : Payload

/-- A key and a value from a sequence of two; the key has to be hashable. -/
def keyedPair (item : Json) : Option (Json × Json) :=
  match item.iterate with
  | .ok [key, v] => if hashable key then some (key, v) else none
  | _ => none

/-- Of a dictionary only the entries with a string as key are ever looked up. -/
def stringEntry : Json × Json → Option (String × Json)
  | (.str key, v) => some (key, v)
  | _ => none

/-- `dict(v)`. -/
def dict : Json → Option Obj
  | .obj fields => some fields
  | .arr items => (items.mapM keyedPair).map fun pairs => dictOf (pairs.filterMap stringEntry)
  | .str text => if text = "" then some [] else none
  | _ => none

/-- `ChaosScenarioState.from_json`. -/
def fromDict (py : Builtins) (now : ℚ) (payload : Obj) : Option ChaosScenarioState := do
  let scenarioId ← List.lookup "scenario_id" payload
  let appliedAt ← ((payload.getD "applied_at" (.float (.fin now))).toFloat py).toOption
  let expiresAt ← List.lookup "expires_at" payload
  let expiresAt ← (expiresAt.toFloat py).toOption
  let faults ← ((payload.get "faults").or (.arr [])).iterate.toOption
  let extra ← dict ((payload.get "extra").or (.obj []))
  return {
    scenarioId := scenarioId.toStr py
    target := (payload.getD "target" (.str "both")).toStr py
    appliedBy := (payload.getD "applied_by" (.str "unknown")).toStr py
    appliedAt := appliedAt
    expiresAt := expiresAt
    faults := faults
    traceId := payload.get "trace_id"
    extra := extra }

def readText (env : ChaosEnv) (now : ℚ) (text : String) : Option ChaosScenarioState := do
  let payload ← loads env.floats text
  fromDict env.py now (← payload.asDict.toOption)

/-- `decode` is `raw.decode("utf-8", errors="replace")`. -/
def readPayload (env : ChaosEnv) (decode : List UInt8 → String) (now : ℚ) :
    Payload → Option ChaosScenarioState
  | .bytes raw => readText env now (decode raw)
  | .value (.str text) => readText env now text
  | .value raw => (dict raw).bind (fromDict env.py now)

def latestRow (now : ℚ) (rows : List StoredRow) : Option StoredRow :=
  ((rows.filter fun row => PyFloat.lt (.fin now) row.expiresAt).mergeSort
    fun a b => PyFloat.le b.appliedAt a.appliedAt).head?

/-- What is stored for this moment, if the query is answered. -/
def storedState (env : ChaosEnv) (decode : List UInt8 → String) (clock : ReadClock)
    (table : Option (List StoredRow)) : Option ChaosScenarioState := do
  let row ← latestRow clock.queriedAt (← table)
  readPayload env decode clock.parsedAt row.payload

def activeState (env : ChaosEnv) (decode : List UInt8 → String) (clock : ReadClock)
    (answered : Bool) (table : Option (List StoredRow)) : Option ChaosScenarioState :=
  if !env.enabled then none
  else
    let state := if env.backendName = "db" ∧ answered = true then
      storedState env decode clock table else none
    state.filter fun state => !state.isExpired clock.checkedAt

/-- What leaves the hook: ORA-00060 for a state, or another exception. -/
inductive Raised where
  | deadlock (state : ChaosScenarioState)
  | escaped (exc : PyExc)

def raisedBy (wf : Option WorkflowContext) (level : Level) (state : ChaosScenarioState) :
    Option Raised :=
  match scenarioApplies wf state with
  | .error exc => some (.escaped exc)
  | .ok false => none
  | .ok true =>
    if !state.faults.all hashable then some (.escaped .typeError)
    else if hasFault state "db.deadlock" ∧ level.deadlockDraw < 1 / 2 then some (.deadlock state)
    else none

/-- The calls of the hook for one statement, the outermost first: the query of the reader is
a statement with a hook of its own. -/
def hook (env : ChaosEnv) (decode : List UInt8 → String) (wf : Option WorkflowContext)
    (table : Option (List StoredRow)) : List Level → Option Raised
  | [] => none
  | level :: nested =>
    let answered := !nested.isEmpty && (hook env decode wf table nested).isNone &&
      !level.queryFails
    match activeState env decode level.clock answered table with
    | none => none
    | some state => raisedBy wf level state

def IsText (fault : Json) : Prop := ∃ text, fault = .str text

/-- The fault is a filter for the workflow. -/
def Selects (wf : Option WorkflowContext) (fault : Json) : Prop :=
  ∃ text named, fault = .str text ∧ workflowFilter text = some named ∧
    wf.map WorkflowContext.workflowId = some named

/-- Either all faults are texts, or they are up to a filter for the workflow and hashable
after it. -/
def Readable (wf : Option WorkflowContext) (faults : List Json) : Prop :=
  (∀ fault ∈ faults, IsText fault) ∨
    ∃ before fault after, faults = before ++ fault :: after ∧
      (∀ other ∈ before, IsText other) ∧ Selects wf fault ∧
      ∀ other ∈ after, hashable other = true

/-- At no moment an active scenario with unreadable faults is stored. -/
def Harmless (env : ChaosEnv) (decode : List UInt8 → String) (wf : Option WorkflowContext)
    (table : Option (List StoredRow)) : Prop :=
  env.enabled = true → env.backendName = "db" → ∀ clock state,
    storedState env decode clock table = some state →
      state.isExpired clock.checkedAt = false → Readable wf state.faults

/-- Nothing leaves the hook but the deadlock of a scenario that lists it. -/
def Contained (env : ChaosEnv) (decode : List UInt8 → String) (wf : Option WorkflowContext)
    (table : Option (List StoredRow)) : Prop :=
  ∀ levels raised, hook env decode wf table levels = some raised →
    ∃ state, raised = .deadlock state ∧ .str "db.deadlock" ∈ state.faults

section Faults
variable {wf : Option WorkflowContext} {faults : List Json} {state : ChaosScenarioState}

theorem exists_texts (h : ∀ fault ∈ faults, IsText fault) :
    ∃ texts : List String, faults = texts.map .str := by
  induction faults with
  | nil => exact ⟨[], rfl⟩
  | cons fault faults ih =>
    obtain ⟨⟨text, rfl⟩, hrest⟩ := List.forall_mem_cons.mp h
    obtain ⟨texts, rfl⟩ := ih hrest
    exact ⟨text :: texts, rfl⟩

theorem IsText.hashable {fault : Json} (h : IsText fault) :
    FaultInjection.hashable fault = true := by
  obtain ⟨text, rfl⟩ := h
  rfl

theorem namesWorkflow_selects {text : String} (selects : Selects wf (.str text)) :
    namesWorkflow (wf.map WorkflowContext.workflowId) (.str text :: faults) = .ok true := by
  obtain ⟨_, named, heq, hfilter, hwf⟩ := selects
  obtain rfl := Json.str.inj heq
  rw [namesWorkflow_cons, hfilter]
  exact if_pos hwf.symm

theorem namesWorkflow_passes {text : String} (passes : ¬ Selects wf (.str text)) :
    namesWorkflow (wf.map WorkflowContext.workflowId) (.str text :: faults) =
      namesWorkflow (wf.map WorkflowContext.workflowId) faults := by
  rw [namesWorkflow_cons]
  cases hfilter : workflowFilter text with
  | none => rfl
  | some named => exact if_neg fun hwf => passes ⟨text, named, rfl, hfilter, hwf.symm⟩

/-- Where the first loop finds a filter. -/
theorem namesWorkflow_true
    (h : namesWorkflow (wf.map WorkflowContext.workflowId) faults = .ok true) :
    ∃ before fault after, faults = before ++ fault :: after ∧
      (∀ other ∈ before, IsText other) ∧ Selects wf fault := by
  induction faults with
  | nil => cases h
  | cons fault faults ih =>
    cases fault with
    | str text =>
      by_cases hselects : Selects wf (.str text)
      · exact ⟨[], .str text, faults, rfl, by simp, hselects⟩
      · rw [namesWorkflow_passes hselects] at h
        obtain ⟨before, fault, after, rfl, hbefore, hfault⟩ := ih h
        refine ⟨.str text :: before, fault, after, rfl, ?_, hfault⟩
        exact List.forall_mem_cons.mpr ⟨⟨text, rfl⟩, hbefore⟩
    | _ => cases h

theorem namesWorkflow_of_selects {before after : List Json} {fault : Json}
    (texts : ∀ other ∈ before, IsText other) (selects : Selects wf fault) :
    namesWorkflow (wf.map WorkflowContext.workflowId) (before ++ fault :: after) = .ok true := by
  induction before with
  | nil =>
    obtain ⟨text, _, rfl, _⟩ := id selects
    exact namesWorkflow_selects selects
  | cons other before ih =>
    obtain ⟨⟨text, rfl⟩, hrest⟩ := List.forall_mem_cons.mp texts
    by_cases hother : Selects wf (.str text)
    · exact namesWorkflow_selects hother
    · exact (namesWorkflow_passes hother).trans (ih hrest)

/-- The first loop ends without a filter only on texts. -/
theorem isText_of_namesWorkflow_false
    (h : namesWorkflow (wf.map WorkflowContext.workflowId) faults = .ok false) :
    ∀ fault ∈ faults, IsText fault := by
  induction faults with
  | nil => simp
  | cons fault faults ih =>
    cases fault with
    | str text =>
      by_cases hselects : Selects wf (.str text)
      · rw [namesWorkflow_selects hselects] at h
        cases h
      · rw [namesWorkflow_passes hselects] at h
        exact List.forall_mem_cons.mpr ⟨⟨text, rfl⟩, ih h⟩
    | _ => cases h

theorem Readable.hashable (readable : Readable wf faults) :
    faults.all FaultInjection.hashable = true := by
  rw [List.all_eq_true]
  rcases readable with hall | ⟨before, fault, after, rfl, hbefore, ⟨text, _, rfl, _⟩, hafter⟩
  · exact fun fault hfault => (hall fault hfault).hashable
  · intro other hother
    rcases List.mem_append.mp hother with hother | hother
    · exact (hbefore other hother).hashable
    · rcases List.mem_cons.mp hother with rfl | hother
      · rfl
      · exact hafter other hother

theorem Readable.scenarioApplies (readable : Readable wf state.faults) :
    ∃ b, FaultInjection.scenarioApplies wf state = .ok b := by
  rcases readable with hall | ⟨before, fault, after, hsplit, hbefore, hselects, -⟩
  · obtain ⟨texts, htexts⟩ := exists_texts hall
    obtain ⟨b, hb, -⟩ := scenarioApplies_texts wf htexts
    exact ⟨b, hb⟩
  · refine ⟨true, ?_⟩
    unfold FaultInjection.scenarioApplies
    rw [hsplit, namesWorkflow_of_selects hbefore hselects]
    rfl

/-- From readable faults comes the deadlock or nothing. -/
theorem raisedBy_readable {level : Level} {raised : Raised} (readable : Readable wf state.faults)
    (h : raisedBy wf level state = some raised) :
    raised = .deadlock state ∧ .str "db.deadlock" ∈ state.faults := by
  obtain ⟨b, happlies⟩ := readable.scenarioApplies
  rw [raisedBy, happlies] at h
  cases b with
  | false => cases h
  | true =>
    simp only [readable.hashable, Bool.not_true, Bool.false_eq_true, if_false] at h
    split at h
    · next hdeadlock => exact ⟨(Option.some.inj h).symm, hasFault_iff.mp hdeadlock.1⟩
    · cases h

/-- Something leaves the hook exactly where its effects stop the statement. -/
theorem raisedBy_isSome_iff {level : Level} :
    (raisedBy wf level state).isSome = true ↔ Effect.raise ∈ injectActive wf level state := by
  unfold raisedBy injectActive
  cases FaultInjection.scenarioApplies wf state with
  | error exc => simp
  | ok b =>
    cases b with
    | false => simp
    | true =>
      unfold effects
      by_cases hall : state.faults.all FaultInjection.hashable = true
      · by_cases hdeadlock : hasFault state "db.deadlock" = true ∧ level.deadlockDraw < 1 / 2
        · simp only [hall, hdeadlock, and_self, Bool.not_true, Bool.false_eq_true, if_false,
            if_true, Option.isSome_some, true_iff]
          exact List.mem_append_right _ List.mem_cons_self
        · simp only [hall, hdeadlock, Bool.not_true, Bool.false_eq_true, if_false]
          split <;> split <;> simp
      · simp [hall]

/-- Unreadable faults let an exception out, whatever is drawn. -/
theorem raisedBy_unreadable {level : Level} (unreadable : ¬ Readable wf state.faults) :
    ∃ exc, raisedBy wf level state = some (.escaped exc) := by
  unfold raisedBy FaultInjection.scenarioApplies
  cases hnames : namesWorkflow (wf.map WorkflowContext.workflowId) state.faults with
  | error exc => exact ⟨exc, rfl⟩
  | ok b =>
    cases b with
    | false => exact absurd (Or.inl (isText_of_namesWorkflow_false hnames)) unreadable
    | true =>
      have hunhashable : ¬ state.faults.all FaultInjection.hashable = true := by
        intro hall
        obtain ⟨before, fault, after, hsplit, hbefore, hselects⟩ := namesWorkflow_true hnames
        refine unreadable (Or.inr ⟨before, fault, after, hsplit, hbefore, hselects, ?_⟩)
        intro other hother
        rw [hsplit] at hall
        exact List.all_eq_true.mp hall other (by simp [hother])
      exact ⟨.typeError, if_pos (by simpa using hunhashable)⟩

end Faults

section Calls
variable {env : ChaosEnv} {decode : List UInt8 → String} {wf : Option WorkflowContext}
  {table : Option (List StoredRow)}

theorem activeState_stored {clock : ReadClock} {answered : Bool} {state : ChaosScenarioState}
    (h : activeState env decode clock answered table = some state) :
    env.enabled = true ∧ env.backendName = "db" ∧
      storedState env decode clock table = some state ∧
      state.isExpired clock.checkedAt = false := by
  unfold activeState at h
  split at h
  · cases h
  · next henabled =>
    obtain ⟨hstored, hfresh⟩ := Option.filter_eq_some_iff.mp h
    by_cases hquery : env.backendName = "db" ∧ answered = true
    · rw [if_pos hquery] at hstored
      exact ⟨by simpa using henabled, hquery.1, hstored, by simpa using hfresh⟩
    · rw [if_neg hquery] at hstored
      cases hstored

theorem activeState_answered {clock : ReadClock} {state : ChaosScenarioState}
    (enabled : env.enabled = true) (backend : env.backendName = "db")
    (stored : storedState env decode clock table = some state)
    (fresh : state.isExpired clock.checkedAt = false) :
    activeState env decode clock true table = some state := by
  simp [activeState, enabled, backend, stored, Option.filter_eq_some_iff, fresh]

/-- A call of the hook and the call of its query, which gets no connection. -/
def twoLevels (clock : ReadClock) : List Level := [⟨clock, false, 2, 1, 1⟩, ⟨clock, false, 2, 1, 1⟩]

theorem hook_single (level : Level) : hook env decode wf table [level] = none := by
  have hinactive : activeState env decode level.clock false table = none := by
    simp [activeState]
  simp [hook, hinactive]

theorem harmless_of_contained (contained : Contained env decode wf table) :
    Harmless env decode wf table := by
  intro enabled backend clock state stored fresh
  by_contra unreadable
  obtain ⟨exc, hexc⟩ : ∃ exc, raisedBy wf ⟨clock, false, 2, 1, 1⟩ state = some (.escaped exc) :=
    raisedBy_unreadable unreadable
  have hhook : hook env decode wf table (twoLevels clock) = some (.escaped exc) := by
    rw [twoLevels, hook, hook_single]
    simpa [activeState_answered enabled backend stored fresh] using hexc
  obtain ⟨_, hdeadlock, -⟩ := contained (twoLevels clock) _ hhook
  cases hdeadlock

theorem contained_of_harmless (harmless : Harmless env decode wf table) :
    Contained env decode wf table := by
  intro levels raised hraised
  cases levels with
  | nil => cases hraised
  | cons level nested =>
    rw [hook] at hraised
    split at hraised
    · cases hraised
    · next state hactive =>
      obtain ⟨henabled, hbackend, hstored, hfresh⟩ := activeState_stored hactive
      have readable := harmless henabled hbackend level.clock state hstored hfresh
      exact ⟨state, raisedBy_readable readable hraised⟩

/-- Traffic is safe from the table exactly if the faults of every active scenario in it are
readable. -/
theorem contained_iff_harmless (env : ChaosEnv) (decode : List UInt8 → String)
    (wf : Option WorkflowContext) (table : Option (List StoredRow)) :
    Contained env decode wf table ↔ Harmless env decode wf table :=
  ⟨harmless_of_contained, contained_of_harmless⟩

end Calls

theorem keyedPair_of_pairOf {item : Json} {field : String × Json} (h : pairOf item = some field) :
    keyedPair item = some (.str field.1, field.2) := by
  unfold pairOf at h
  split at h
  · next key v hitems =>
    obtain rfl := Option.some.inj h
    unfold keyedPair
    rw [hitems]
    rfl
  · cases h

theorem keyedPairs_of_pairs {items : List Json} {fields : List (String × Json)}
    (h : items.mapM pairOf = some fields) :
    items.mapM keyedPair = some (fields.map fun field => (.str field.1, field.2)) := by
  induction items generalizing fields with
  | nil =>
    obtain rfl : [] = fields := Option.some.inj h
    rfl
  | cons item items ih =>
    rw [List.mapM_cons] at h ⊢
    obtain ⟨field, hfield, h⟩ := Option.bind_eq_some_iff.mp h
    obtain ⟨rest, hrest, h⟩ := Option.bind_eq_some_iff.mp h
    obtain rfl := Option.some.inj h
    rw [keyedPair_of_pairOf hfield, ih hrest]
    rfl

theorem dict_of_toDict {v : Json} {fields : Obj} (h : toDict v = some fields) :
    dict v = some fields := by
  cases v with
  | obj entries => exact h
  | arr items =>
    obtain ⟨pairs, hpairs, rfl⟩ := Option.map_eq_some_iff.mp h
    rw [dict, keyedPairs_of_pairs hpairs, Option.map_some, List.filterMap_map]
    exact congrArg (some ∘ dictOf) List.filterMap_some
  | _ => cases h

/-- With keys that are strings the wider reader reads the same. -/
theorem fromDict_of_fromJson {py : Builtins} {now : ℚ} {fields : Obj} {state : ChaosScenarioState}
    (h : fromJson py now (.obj fields) = some state) : fromDict py now fields = some state := by
  unfold fromJson at h
  obtain ⟨_, hfields, h⟩ := Option.bind_eq_some_iff.mp h
  obtain rfl := Option.some.inj hfields
  obtain ⟨scenarioId, hscenario, h⟩ := Option.bind_eq_some_iff.mp h
  obtain ⟨appliedAt, happlied, h⟩ := Option.bind_eq_some_iff.mp h
  obtain ⟨expires, hexpires, h⟩ := Option.bind_eq_some_iff.mp h
  obtain ⟨expiresAt, hexpiresAt, h⟩ := Option.bind_eq_some_iff.mp h
  obtain ⟨faults, hfaults, h⟩ := Option.bind_eq_some_iff.mp h
  obtain ⟨extra, hextra, h⟩ := Option.bind_eq_some_iff.mp h
  simp only [fromDict, Option.bind_eq_bind, hscenario, happlied, hexpires, hexpiresAt, hfaults,
    dict_of_toDict hextra, Option.bind_some]
  exact h

def stored (row : ChaosRow) : StoredRow :=
  ⟨row.appliedAt, row.expiresAt, .value (.str row.payload)⟩

section Applied
variable {env : ChaosEnv} {decode : List UInt8 → String}

theorem readText_toJson {now : ℚ} {text : String} {state : ChaosScenarioState}
    (h : loads env.floats text = some state.toJson) : readText env now text = some state := by
  rw [readText, h]
  exact fromDict_of_fromJson (fromJson_toJson env.py now state)

/-- An active state in the table of the endpoints is the one of their register. -/
theorem storedState_active {past : List Op} {clock : ReadClock} {state : ChaosScenarioState}
    (enabled : env.enabled = true) (backend : env.backendName = "db")
    (h : storedState env decode clock ((storeAfter env past).map (List.map stored)) = some state)
    (fresh : state.isExpired clock.checkedAt = false) :
    getActiveState env clock (storeAfter env past) = some state := by
  have holds := storeAfter_holds env past
  rw [holds.getActiveState enabled backend]
  obtain ⟨rows, hrows, hbody⟩ := Option.bind_eq_some_iff.mp h
  obtain ⟨row, hlatest, hparsed⟩ := Option.bind_eq_some_iff.mp hbody
  obtain ⟨rows, hstore, rfl⟩ := Option.map_eq_some_iff.mp hrows
  generalize storeAfter env past = store at holds hstore
  generalize ExpiringRegister.after (past.filterMap (writeOf env)) = register at holds
  have hlisted : ∃ original ∈ rows, stored original = row := by
    have hmem := List.mem_of_mem_head? (Option.mem_def.mpr hlatest)
    rw [List.mem_mergeSort] at hmem
    exact List.mem_map.mp (List.mem_filter.mp hmem).1
  obtain ⟨original, horiginal, rfl⟩ := hlisted
  cases holds with
  | empty hnone =>
    have hempty : rows = [] := by
      rw [hstore] at hnone
      exact hnone
    rw [hempty] at horiginal
    cases horiginal
  | @row row applied deadline hpayload hunique hcolumn hfield =>
    obtain rfl := Option.some.inj hstore
    obtain rfl := List.mem_singleton.mp horiginal
    have hload : loads env.floats original.payload = some applied.toJson := by
      rw [hpayload]
      exact loads_dumps env.floats _ hunique
    have hread : readPayload env decode clock.parsedAt (stored original).payload = some applied :=
      readText_toJson hload
    obtain rfl := Option.some.inj (hread.symm.trans hparsed)
    have hdeadline : clock.checkedAt < deadline := by
      rw [ChaosScenarioState.isExpired, hfield] at fresh
      simpa [PyFloat.le] using fresh
    simp [ExpiringRegister.Register.read, hdeadline]

/-- From a table that only the endpoints have written nothing else leaves the hook. -/
theorem applied_contained (env : ChaosEnv) (decode : List UInt8 → String) (past : List Op)
    (wf : Option WorkflowContext) :
    Contained env decode wf ((storeAfter env past).map (List.map stored)) := by
  refine contained_of_harmless fun enabled backend clock state hstored fresh => ?_
  obtain ⟨-, -, deadline, hlast⟩ :=
    active_applied (storedState_active enabled backend hstored fresh)
  obtain ⟨-, texts, htexts⟩ := applied_state hlast
  refine Or.inl fun fault hfault => ?_
  rw [htexts] at hfault
  obtain ⟨text, -, rfl⟩ := List.mem_map.mp hfault
  exact ⟨text, rfl⟩

end Applied

def numberedFault : StoredRow where
  appliedAt := .fin 1000
  expiresAt := .fin 2000
  payload := .value (.str "\x7b\"scenario_id\": \"x\", \"expires_at\": 2000, \"faults\": [1]\x7d")

def halfway : ReadClock := ⟨1500, 1500, 1500, le_rfl⟩

def isNumber : Json → Bool
  | .int _ => true
  | _ => false

theorem unreadable_numbers {wf : Option WorkflowContext} {faults : List Json}
    (numbers : ∀ fault ∈ faults, isNumber fault = true) (some_fault : faults ≠ []) :
    ¬ Readable wf faults := by
  rintro (hall | ⟨before, fault, after, rfl, -, ⟨text, _, rfl, -⟩, -⟩)
  · obtain ⟨fault, hfault⟩ := List.exists_mem_of_ne_nil faults some_fault
    obtain ⟨text, rfl⟩ := hall fault hfault
    cases numbers _ hfault
  · cases numbers (.str text) (by simp)

theorem numberedFault_stored :
    (storedState sampleEnv (fun _ => "") halfway (some [numberedFault])).any (fun state =>
      state.faults.all isNumber && !state.faults.isEmpty && !state.isExpired 1500) = true := by
  decide +kernel

/-- `1` has no `startswith`, and every statement of the application fails while the scenario
lasts. -/
theorem numbered_fault_escapes :
    ¬ Contained sampleEnv (fun _ => "") none (some [numberedFault]) := by
  intro contained
  obtain ⟨state, hstored, hfacts⟩ := (Option.any_eq_true _ _).mp numberedFault_stored
  simp only [Bool.and_eq_true, Bool.not_eq_true'] at hfacts
  obtain ⟨⟨hnumbers, hsome⟩, hfresh⟩ := hfacts
  have readable := harmless_of_contained contained (by decide +kernel) (by decide +kernel)
    halfway state hstored hfresh
  refine unreadable_numbers (List.all_eq_true.mp hnumbers) ?_ readable
  rintro hnil
  rw [hnil] at hsome
  cases hsome

end ChaosContainment
