import CrmPortal.Library.LoggerTree
import CrmPortal.MiddlewareStack

/-!
# Correlated log records

The request id and the workflow of a request stand in context variables while the
middlewares handle it, and a filter on the root logger writes them into the records.
-/

namespace LogCorrelation

open PyValue MiddlewareStack LoggerTree

/-- `_ctx` of `workflow_context.py` and `_request_id_ctx` of `request_id.py`. -/
structure Context where
  workflow : Option WorkflowContext
  requestId : Option String

def Context.empty : Context := ⟨none, none⟩

/-- `_request_id_ctx.set(request_id)`, until the reset after the response. -/
def Context.setRequestId (py : Builtins) (incoming : Incoming) (ctx : Context) : Context :=
  { ctx with requestId := some (MiddlewareStack.requestId py incoming) }

/-- `_ctx.set(wf)`, until the reset after the response. -/
def Context.setWorkflow (incoming : Incoming) (ctx : Context) : Context :=
  { ctx with workflow := some (resolveWorkflow incoming.gate.path) }

/-- Where a record of a request is emitted: in the handler of unhandled exceptions, which
runs outside the middlewares; between the two middlewares; inside both, where tasks and
`to_thread` copy the context; or in a thread of `run_in_executor`, which does not. -/
inductive Place where
  | exceptionHandler
  | aroundWorkflow
  | application
  | executorThread
  deriving DecidableEq

def contextAt (py : Builtins) (incoming : Incoming) : Place → Context
  | .exceptionHandler => Context.empty
  | .aroundWorkflow => Context.empty.setRequestId py incoming
  | .application => (Context.empty.setRequestId py incoming).setWorkflow incoming
  | .executorThread => Context.empty

structure LogRecord where
  levelno : Nat
  fields : Obj

namespace LogRecord

/-- `hasattr(record, field)`. -/
def has (record : LogRecord) (field : String) : Bool := (List.lookup field record.fields).isSome

def setMissing (record : LogRecord) (field : String) (v : Json) : LogRecord :=
  if record.has field then record else { record with fields := (field, v) :: record.fields }

end LogRecord

/-- `WorkflowLogEnricher.filter`, which never refuses. -/
def enrich (ctx : Context) (record : LogRecord) : LogRecord :=
  let named := match ctx.workflow with
    | some wf => (record.setMissing "workflow_id" (.str wf.workflowId)).setMissing "workflow_step"
        (.str wf.step)
    | none => record
  match ctx.requestId with
  | some rid => if rid ≠ "" then named.setMissing "request_id" (.str rid) else named
  | none => named

/-- The enricher, or a filter that only decides. -/
inductive Filter where
  | enricher
  | other (decides : LogRecord → Bool)

def Filter.run (ctx : Context) : Filter → LogRecord → Option LogRecord
  | .enricher, record => some (enrich ctx record)
  | .other decides, record => if decides record then some record else none

def Filter.isEnricher : Filter → Bool
  | .enricher => true
  | .other _ => false

structure Handler where
  level : Nat
  filters : List (LogRecord → Bool)

def Handler.accepts (handler : Handler) (record : LogRecord) : Bool :=
  decide (handler.level ≤ record.levelno) && handler.filters.all fun decides => decides record

abbrev Loggers := Hierarchy Filter Handler

def installEnricher (target : Logger Filter Handler) : Logger Filter Handler :=
  if target.filters.any Filter.isEnricher then target
  else { target with filters := target.filters ++ [.enricher] }

/-- `install_enricher()`, as `main.py` calls it. -/
def installed (loggers : Loggers) : Loggers :=
  { loggers with root := installEnricher loggers.root }

/-- The records that the handlers of the root logger get. -/
def rootRecords (py : Builtins) (incoming : Incoming) (place : Place) (loggers : Loggers)
    (name : List String) (record : LogRecord) : List LogRecord :=
  reachRoot (Filter.run (contextAt py incoming place)) Handler.accepts (installed loggers) name
    record

def correlationFields : List String := ["workflow_id", "workflow_step", "request_id"]

/-- The delivered record has the three fields, and its earlier ones as they were. -/
def Correlated (record delivered : LogRecord) : Prop :=
  (∀ field ∈ correlationFields, delivered.has field = true) ∧
    ∀ field v, List.lookup field record.fields = some v →
      List.lookup field delivered.fields = some v

/-- The logger has the enricher among its own filters once it is installed. -/
def Enriches (loggers : Loggers) (name : List String) : Prop :=
  name = [] ∨ ∃ logger, loggers.get name = some logger ∧ .enricher ∈ logger.filters

/-- A header of white space only, which is stripped to nothing. -/
def BlankRequestId (py : Builtins) (incoming : Incoming) : Prop :=
  ∃ header, incoming.requestIdHeader = some header ∧ header ≠ "" ∧ py.strip header = ""

/-- The context variables at this place have a value for the field. -/
def Provided (py : Builtins) (incoming : Incoming) (place : Place) (field : String) : Prop :=
  if field = "request_id" then
    (place = .application ∨ place = .aroundWorkflow) ∧ ¬ BlankRequestId py incoming
  else place = .application

section Enricher
variable {ctx : Context} {record : LogRecord} {field : String}

theorem has_setMissing (name : String) (v : Json) :
    (record.setMissing name v).has field = (record.has field || decide (field = name)) := by
  unfold LogRecord.setMissing
  split
  · next h =>
    by_cases hname : field = name
    · rw [hname, h]
      rfl
    · simp [hname]
  · by_cases hname : field = name
    · simp [hname, LogRecord.has]
    · simp [hname, LogRecord.has, List.lookup_cons, beq_false_of_ne hname]

theorem lookup_setMissing {name : String} {v old : Json}
    (h : List.lookup field record.fields = some old) :
    List.lookup field (record.setMissing name v).fields = some old := by
  unfold LogRecord.setMissing
  split
  · exact h
  · next hmissing =>
    have hname : field ≠ name := by
      rintro rfl
      exact hmissing (by rw [LogRecord.has, h]; rfl)
    rw [List.lookup_cons, beq_false_of_ne hname]
    exact h

/-- The context has a value for the field. -/
def Context.gives (ctx : Context) (field : String) : Bool :=
  (decide (field = "workflow_id" ∨ field = "workflow_step") && ctx.workflow.isSome) ||
    (decide (field = "request_id") && ctx.requestId.any fun rid => decide (rid ≠ ""))

theorem has_enrich : (enrich ctx record).has field = (record.has field || ctx.gives field) := by
  obtain ⟨workflow, requestId⟩ := ctx
  unfold enrich Context.gives
  rcases workflow with _ | wf
  · rcases requestId with _ | rid
    · simp
    · by_cases hrid : rid = ""
      · simp [hrid]
      · simp [hrid, has_setMissing]
  · rcases requestId with _ | rid
    · simp [has_setMissing, Bool.or_assoc]
    · by_cases hrid : rid = ""
      · simp [hrid, has_setMissing, Bool.or_assoc]
      · simp [hrid, has_setMissing, Bool.or_assoc]

theorem lookup_enrich {old : Json} (h : List.lookup field record.fields = some old) :
    List.lookup field (enrich ctx record).fields = some old := by
  have hnamed : List.lookup field (match ctx.workflow with
      | some wf => (record.setMissing "workflow_id" (.str wf.workflowId)).setMissing
          "workflow_step" (.str wf.step)
      | none => record).fields = some old := by
    cases ctx.workflow with
    | none => exact h
    | some wf => exact lookup_setMissing (lookup_setMissing h)
  unfold enrich
  cases ctx.requestId with
  | none => exact hnamed
  | some rid =>
    dsimp only
    split
    · exact lookup_setMissing hnamed
    · exact hnamed

/-- Filters add the fields of the context if the enricher is among them, and no others. -/
theorem has_passFilters {filters : List Filter} {delivered : LogRecord}
    (h : passFilters (Filter.run ctx) filters record = some delivered) :
    delivered.has field =
      (record.has field || (filters.any Filter.isEnricher && ctx.gives field)) := by
  induction filters generalizing record with
  | nil =>
    cases h
    simp
  | cons f filters ih =>
    obtain ⟨next, hf, hrest⟩ := Option.bind_eq_some_iff.mp h
    rw [ih hrest]
    cases f with
    | enricher =>
      cases hf
      rw [has_enrich]
      cases record.has field <;> cases ctx.gives field <;> simp [Filter.isEnricher]
    | other decides =>
      obtain ⟨-, hsame⟩ := Option.ite_none_right_eq_some.mp hf
      cases hsame
      simp [Filter.isEnricher]

theorem lookup_passFilters {filters : List Filter} {delivered : LogRecord} {old : Json}
    (h : passFilters (Filter.run ctx) filters record = some delivered)
    (had : List.lookup field record.fields = some old) :
    List.lookup field delivered.fields = some old := by
  refine passFilters_rule (P := fun r => List.lookup field r.fields = some old) had ?_ h
  intro f _ a b ha hf
  cases f with
  | enricher =>
    cases hf
    exact lookup_enrich ha
  | other decides =>
    obtain ⟨-, hsame⟩ := Option.ite_none_right_eq_some.mp hf
    cases hsame
    exact ha

end Enricher

theorem installEnricher_enriches (target : Logger Filter Handler) :
    (installEnricher target).filters.any Filter.isEnricher = true := by
  unfold installEnricher
  split
  · assumption
  · simp [Filter.isEnricher]

/-- Installing it again changes nothing. -/
theorem installEnricher_idem (target : Logger Filter Handler) :
    installEnricher (installEnricher target) = installEnricher target := by
  rw [installEnricher, if_pos (installEnricher_enriches target)]

theorem any_isEnricher_iff {filters : List Filter} :
    filters.any Filter.isEnricher = true ↔ .enricher ∈ filters := by
  rw [List.any_eq_true]
  constructor
  · rintro ⟨f, hmem, hf⟩
    cases f with
    | enricher => exact hmem
    | other decides => cases hf
  · intro h
    exact ⟨.enricher, h, rfl⟩

theorem enriches_iff {loggers : Loggers} {name : List String} {logger : Logger Filter Handler}
    (h : (installed loggers).get name = some logger) :
    logger.filters.any Filter.isEnricher = true ↔ Enriches loggers name := by
  by_cases hname : name = []
  · subst hname
    cases h
    exact iff_of_true (installEnricher_enriches loggers.root) (Or.inl rfl)
  · rw [installed, Hierarchy.get_setRoot_of_ne _ _ hname] at h
    rw [any_isEnricher_iff]
    constructor
    · intro hmem
      exact Or.inr ⟨logger, h, hmem⟩
    · rintro (hroot | ⟨other, hget, hmem⟩)
      · exact absurd hroot hname
      · cases h.symm.trans hget
        exact hmem

theorem requestId_eq_empty_iff {py : Builtins} {incoming : Incoming}
    (drawn : incoming.freshRequestId ≠ "") :
    requestId py incoming = "" ↔ BlankRequestId py incoming := by
  unfold requestId BlankRequestId
  rcases incoming.requestIdHeader with _ | header
  · simp [drawn]
  · by_cases hheader : header = ""
    · simp [hheader, drawn]
    · by_cases hlong : 128 < (py.strip header).length
      · have hstrip : py.strip header ≠ "" := by
          intro hempty
          rw [hempty] at hlong
          cases hlong
        simp [hheader, hlong, drawn, hstrip]
      · simp [hheader, hlong]

theorem gives_iff {py : Builtins} {incoming : Incoming} {place : Place} {field : String}
    (drawn : incoming.freshRequestId ≠ "") (hfield : field ∈ correlationFields) :
    (contextAt py incoming place).gives field = true ↔ Provided py incoming place field := by
  have hrid : requestId py incoming = "" ↔ BlankRequestId py incoming :=
    requestId_eq_empty_iff drawn
  simp only [correlationFields, List.mem_cons, List.not_mem_nil, or_false] at hfield
  rcases hfield with rfl | rfl | rfl <;> cases place <;>
    simp [Context.gives, contextAt, Context.empty, Context.setRequestId, Context.setWorkflow,
      Provided, ← hrid]

/-- A record that reaches the root is correlated exactly if each field that it lacks is
written by an enricher of its own logger, at a place where the context has it. -/
theorem correlated_iff (py : Builtins) (incoming : Incoming) (place : Place) (loggers : Loggers)
    (name : List String) (record delivered : LogRecord) (drawn : incoming.freshRequestId ≠ "")
    (reaches : delivered ∈ rootRecords py incoming place loggers name record) :
    Correlated record delivered ↔ ∀ field ∈ correlationFields, record.has field = true ∨
      Enriches loggers name ∧ Provided py incoming place field := by
  obtain ⟨logger, hget, hpass⟩ := mem_reachRoot reaches
  have hkept : ∀ field v, List.lookup field record.fields = some v →
      List.lookup field delivered.fields = some v := fun _ _ had => lookup_passFilters hpass had
  have hfields : ∀ field ∈ correlationFields, delivered.has field = true ↔
      record.has field = true ∨ Enriches loggers name ∧ Provided py incoming place field := by
    intro field hfield
    rw [has_passFilters hpass, Bool.or_eq_true, Bool.and_eq_true, enriches_iff hget,
      gives_iff drawn hfield]
  constructor
  · rintro ⟨hall, -⟩ field hfield
    exact (hfields field hfield).mp (hall field hfield)
  · intro h
    exact ⟨fun field hfield => (hfields field hfield).mpr (h field hfield), hkept⟩

def plainIncoming : Incoming :=
  ⟨⟨"/api/orders", "*/*", none, none⟩, none, "", "", "r1", "c1", "n1", false, false⟩

def warning : LogRecord := ⟨30, []⟩

/-- The handler of the root takes INFO and above; a module logs under its own name. -/
def portalLoggers : Loggers where
  root := ⟨[], [⟨20, []⟩], true, false⟩
  below := fun name =>
    if name = ["server", "modules", "auth"] then some ⟨[], [], true, false⟩ else none

theorem module_record_bare : warning ∈ rootRecords (asciiBuiltins fun _ => "") plainIncoming
    .application portalLoggers ["server", "modules", "auth"] warning :=
  List.mem_singleton_self warning

/-- A warning of a module's own logger reaches the root without the fields. -/
theorem module_record_uncorrelated :
    ¬ ∀ (py : Builtins) (incoming : Incoming) (place : Place) (loggers : Loggers)
      (name : List String) (record delivered : LogRecord), incoming.freshRequestId ≠ "" →
        delivered ∈ rootRecords py incoming place loggers name record →
          Correlated record delivered := by
  intro h
  obtain ⟨hall, -⟩ := h (asciiBuiltins fun _ => "") plainIncoming .application portalLoggers
    ["server", "modules", "auth"] warning warning (by decide) module_record_bare
  exact absurd (hall "request_id" (by decide)) (by decide)

/-- The same warning of the root logger has them. -/
theorem root_record_correlated :
    Correlated warning
      (enrich (contextAt (asciiBuiltins fun _ => "") plainIncoming .application) warning) :=
  (correlated_iff (asciiBuiltins fun _ => "") plainIncoming .application portalLoggers [] warning _
    (by decide) (List.mem_singleton_self _)).mpr (by
      have hplain : ¬ BlankRequestId (asciiBuiltins fun _ => "") plainIncoming := by
        rintro ⟨header, h, -⟩
        cases h
      intro field _
      refine Or.inr ⟨Or.inl rfl, ?_⟩
      unfold Provided
      split
      · exact ⟨Or.inl rfl, hplain⟩
      · rfl)

end LogCorrelation
