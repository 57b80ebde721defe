import CrmPortal.JsonText
import CrmPortal.Library.Schedule

/-!
# The worker that sends the log away

`push_log` puts an entry into a queue without a bound; one thread takes the entries out
and hands each to OCI Logging and then to Splunk. What the two services and the clock do
while an entry is handed over is a round. The copy on stdout is written by the caller
and is no business of the worker.

The handler of a failing OCI call wants to warn once a minute, through a name that the
file does not define.
-/

namespace LogWorker

open PyValue JsonText Schedule

structure LogConfig where
  otelServiceName : String
  serviceNamespace : String
  appVersion : String
  serviceInstanceId : String
  appEnv : String
  appName : String
  brandName : String
  appRuntime : String
  demoStackName : String
  usePostgres : Bool
  atpOcid : String
  oracleDsn : String
  ociLogId : String
  splunkHecUrl : String
  splunkHecToken : String

def LogConfig.databaseTargetLabel (cfg : LogConfig) : String :=
  if cfg.usePostgres then "postgresql" else "oracle-atp"

def LogConfig.atpConnectionName (cfg : LogConfig) : String := cfg.oracleDsn

structure TraceContext where
  traceId : String
  spanId : String
  traceparent : String

structure LogEntry where
  level : String
  message : String
  extra : Obj

/-- `d.update(other)`, or `{**d, **other}`. -/
def update (d other : Obj) : Obj :=
  other.foldl (fun d field => dictSet d field.1 field.2) d

def serviceMetadata (cfg : LogConfig) : Obj :=
  [("service.name", .str cfg.otelServiceName),
    ("service.namespace", .str cfg.serviceNamespace),
    ("service.version", .str cfg.appVersion),
    ("service.instance.id", .str cfg.serviceInstanceId),
    ("deployment.environment", .str cfg.appEnv),
    ("app.name", .str cfg.appName),
    ("app.brand", .str cfg.brandName),
    ("app.runtime", .str cfg.appRuntime),
    ("oci.demo.stack", .str cfg.demoStackName)]

def withTrace (trace : TraceContext) (kwargs : Obj) : Obj :=
  if trace.traceId = "" then kwargs
  else update kwargs [("trace_id", .str trace.traceId), ("span_id", .str trace.spanId),
    ("traceparent", .str trace.traceparent), ("oracleApmTraceId", .str trace.traceId),
    ("oracleApmSpanId", .str trace.spanId)]

def withDatabase (cfg : LogConfig) (kwargs : Obj) : Obj :=
  let kwargs := dictSet kwargs "db.target" (.str cfg.databaseTargetLabel)
  let kwargs := if cfg.atpOcid = "" then kwargs else dictSet kwargs "db.ocid" (.str cfg.atpOcid)
  if cfg.atpConnectionName = "" then kwargs
  else dictSet kwargs "db.connection_name" (.str cfg.atpConnectionName)

/-- What `push_log` puts into the queue. -/
def pushLog (cfg : LogConfig) (trace : TraceContext) (level message : String) (kwargs : Obj) :
    LogEntry where
  level := level
  message := message
  extra := withDatabase cfg (dictSet (update (withTrace trace kwargs) (serviceMetadata cfg))
    "app.service" (.str cfg.otelServiceName))

/-- `ociRaises` is what the `try` block raises, in `put_logs` or before it; `errorClock`
is the time that its handler reads. -/
structure Round where
  clientBuilds : Bool
  ociMillis : Int
  ociTime : String
  ociRaises : Option PyExc
  errorClock : ℚ
  splunkTime : String
  splunkRaises : Option PyExc

/-- The arguments of `put_logs`, with the one entry of the one batch. -/
structure PutLogs where
  logId : String
  specversion : String
  defaultloglevel : String
  source : String
  type : String
  subject : String
  data : String
  id : String
  time : String

structure HecPost where
  url : String
  event : Obj
  sourcetype : String
  authorization : String

inductive Handed (Request : Type) where
  | unconfigured
  | sent (request : Request)
  | raised (exc : PyExc)

inductive SinkCall where
  | oci (entry : LogEntry) (result : Handed PutLogs)
  | splunk (entry : LogEntry) (result : Handed HecPost)

/-- The globals of the file, and the calls that were made so far. -/
structure Sinks where
  clientBuilt : Bool
  lastLoggingErrorTs : ℚ
  calls : List SinkCall

def Sinks.hand (s : Sinks) (call : SinkCall) : Sinks := { s with calls := s.calls ++ [call] }

section Sinks
variable (cfg : LogConfig) (py : Builtins)

/-- Whether there is a client: a client that was built once is kept. -/
def hasClient (built : Bool) (round : Round) : Bool :=
  built || (decide (cfg.ociLogId ≠ "") && round.clientBuilds)

def getOciLoggingClient (round : Round) (s : Sinks) : Bool × Sinks :=
  (hasClient cfg s.clientBuilt round, { s with clientBuilt := hasClient cfg s.clientBuilt round })

def putLogs (round : Round) (entry : LogEntry) : PutLogs where
  logId := cfg.ociLogId
  specversion := "1.0"
  defaultloglevel := py.upper entry.level
  source := cfg.otelServiceName
  type := cfg.appName
  subject := cfg.brandName
  data := py.dumps (.obj (update [("message", .str entry.message)] entry.extra))
  id := s!"crm-{round.ociMillis}"
  time := round.ociTime

def pushToOciLogging (round : Round) (entry : LogEntry) (s : Sinks) :
    Except PyExc Unit × Sinks :=
  let (client, s) := getOciLoggingClient cfg round s
  if !client then (.ok (), s.hand (.oci entry .unconfigured))
  else match round.ociRaises with
    | none => (.ok (), s.hand (.oci entry (.sent (putLogs cfg py round entry))))
    | some exc =>
      let s := s.hand (.oci entry (.raised exc))
      if 60 < round.errorClock - s.lastLoggingErrorTs then
        -- `logger` is looked up after the time is noted.
        (.error (.nameError "logger"), { s with lastLoggingErrorTs := round.errorClock })
      else (.ok (), s)

def hecPost (round : Round) (entry : LogEntry) : HecPost where
  url := cfg.splunkHecUrl
  event := update [("timestamp", .str round.splunkTime), ("level", .str (py.upper entry.level)),
    ("message", .str entry.message)] entry.extra
  sourcetype := "oci:crm:security"
  authorization := s!"Splunk {cfg.splunkHecToken}"

/-- Whatever this `try` block raises is passed over. -/
def pushToSplunk (round : Round) (entry : LogEntry) (s : Sinks) : Sinks :=
  if cfg.splunkHecUrl = "" ∨ cfg.splunkHecToken = "" then s.hand (.splunk entry .unconfigured)
  else match round.splunkRaises with
    | none => s.hand (.splunk entry (.sent (hecPost cfg py round entry)))
    | some exc => s.hand (.splunk entry (.raised exc))

end Sinks

inductive WorkerStatus where
  | running
  | shutDown
  | died (exc : PyExc)
  deriving DecidableEq

structure Logging where
  queue : List (Option LogEntry)
  sinks : Sinks
  worker : WorkerStatus

def Logging.start : Logging := ⟨[], ⟨false, 0, []⟩, .running⟩

/-- What is put into the queue; `None` is the pill that ends the worker. -/
inductive Put where
  | pushLog (trace : TraceContext) (level message : String) (kwargs : Obj)
  | poison

def Put.item (cfg : LogConfig) : Put → Option LogEntry
  | .pushLog trace level message kwargs => some (LogWorker.pushLog cfg trace level message kwargs)
  | .poison => none

/-- `work` is one turn of the worker's loop. -/
inductive Action where
  | put (put : Put)
  | work (round : Round)

section Worker
variable (cfg : LogConfig) (py : Builtins)

def dispatch (round : Round) (entry : LogEntry) (s : Sinks) : WorkerStatus × Sinks :=
  match pushToOciLogging cfg py round entry s with
  | (.error exc, s) => (.died exc, s)
  | (.ok _, s) => (.running, pushToSplunk cfg py round entry s)

/-- An empty queue blocks the worker; a thread that has ended takes no more turns. -/
def step (s : Logging) : Action → Option Logging
  | .put put => some { s with queue := s.queue ++ [put.item cfg] }
  | .work round =>
    match s.worker, s.queue with
    | .running, none :: rest => some { s with queue := rest, worker := .shutDown }
    | .running, some entry :: rest =>
      let (worker, sinks) := dispatch cfg py round entry s.sinks
      some ⟨rest, sinks, worker⟩
    | _, _ => none

end Worker

section Purpose
variable (cfg : LogConfig) (py : Builtins)

def ociResult (built : Bool) (round : Round) (entry : LogEntry) : Handed PutLogs :=
  if hasClient cfg built round then
    match round.ociRaises with
    | none => .sent (putLogs cfg py round entry)
    | some exc => .raised exc
  else .unconfigured

def splunkResult (round : Round) (entry : LogEntry) : Handed HecPost :=
  if cfg.splunkHecUrl = "" ∨ cfg.splunkHecToken = "" then .unconfigured
  else match round.splunkRaises with
    | none => .sent (hecPost cfg py round entry)
    | some exc => .raised exc

/-- Every entry goes once to each sink, in order, and what a sink makes of it depends on
its own round: the calls for the entries that were taken, a round each. -/
def allHanded (built : Bool) : List (Option LogEntry) → List Round → List SinkCall
  | some entry :: taken, round :: rounds =>
    .oci entry (ociResult cfg py built round entry) ::
      .splunk entry (splunkResult cfg py round entry) ::
        allHanded (hasClient cfg built round) taken rounds
  | _, _ => []

end Purpose

/-- What a schedule puts into the queue. -/
def queued (cfg : LogConfig) : List Action → List (Option LogEntry)
  | [] => []
  | .put put :: rest => put.item cfg :: queued cfg rest
  | .work _ :: rest => queued cfg rest

def rounds : List Action → List Round
  | [] => []
  | .work round :: rest => round :: rounds rest
  | .put _ :: rest => rounds rest

/-- What left the queue was handed over in full, and the worker runs unless it took the
pill. -/
def NoLogLoss (cfg : LogConfig) (py : Builtins) (schedule : List Action) (s : Logging) : Prop :=
  ∃ taken, queued cfg schedule = taken ++ s.queue ∧
    s.sinks.calls = allHanded cfg py false taken (rounds schedule) ∧
    (none ∉ taken ∧ s.worker = .running ∨ none ∈ taken ∧ s.worker = .shutDown)

/-- A turn that takes an entry whose OCI call raises comes within a minute of the epoch. -/
def Harmless (cfg : LogConfig) (s : Logging) : Action → Prop
  | .work round => ∀ entry rest, s.queue = some entry :: rest →
      hasClient cfg s.sinks.clientBuilt round = true → round.ociRaises ≠ none →
      round.errorClock ≤ 60
  | .put _ => True

section Turn
variable (cfg : LogConfig) (py : Builtins)

theorem pushToSplunk_eq (round : Round) (entry : LogEntry) (s : Sinks) :
    pushToSplunk cfg py round entry s =
      s.hand (.splunk entry (splunkResult cfg py round entry)) := by
  unfold pushToSplunk splunkResult
  split
  · rfl
  · cases round.splunkRaises <;> rfl

/-- The OCI sink is called in any case; it raises if the call does and the clock is past
its first minute. -/
theorem pushToOciLogging_eq (round : Round) (entry : LogEntry) {s : Sinks}
    (unwarned : s.lastLoggingErrorTs = 0) :
    (hasClient cfg s.clientBuilt round = true ∧ round.ociRaises ≠ none ∧ 60 < round.errorClock ∧
      (pushToOciLogging cfg py round entry s).1 = .error (.nameError "logger")) ∨
    ((hasClient cfg s.clientBuilt round = true → round.ociRaises ≠ none →
        round.errorClock ≤ 60) ∧
      pushToOciLogging cfg py round entry s = (.ok (), {
        clientBuilt := hasClient cfg s.clientBuilt round
        lastLoggingErrorTs := 0
        calls := s.calls ++ [.oci entry (ociResult cfg py s.clientBuilt round entry)] })) := by
  unfold pushToOciLogging getOciLoggingClient ociResult
  rcases hclient : hasClient cfg s.clientBuilt round with _ | _
  · refine .inr ⟨fun h => absurd h Bool.false_ne_true, ?_⟩
    simp [Sinks.hand, unwarned]
  · rcases hraises : round.ociRaises with _ | exc
    · refine .inr ⟨fun _ h => absurd rfl h, ?_⟩
      simp [Sinks.hand, unwarned]
    · by_cases hclock : 60 < round.errorClock
      · refine .inl ⟨rfl, Option.some_ne_none exc, hclock, ?_⟩
        simp [Sinks.hand, unwarned, hclock]
      · refine .inr ⟨fun _ _ => not_lt.mp hclock, ?_⟩
        simp [Sinks.hand, unwarned, hclock]

/-- A turn with an entry: the worker dies of it, or has handed it to both sinks. -/
theorem dispatch_cases (round : Round) (entry : LogEntry) {s : Sinks}
    (unwarned : s.lastLoggingErrorTs = 0) :
    (hasClient cfg s.clientBuilt round = true ∧ round.ociRaises ≠ none ∧ 60 < round.errorClock ∧
      (dispatch cfg py round entry s).1 = .died (.nameError "logger")) ∨
    ((hasClient cfg s.clientBuilt round = true → round.ociRaises ≠ none →
        round.errorClock ≤ 60) ∧
      dispatch cfg py round entry s = (.running, {
        clientBuilt := hasClient cfg s.clientBuilt round
        lastLoggingErrorTs := 0
        calls := s.calls ++ [.oci entry (ociResult cfg py s.clientBuilt round entry),
          .splunk entry (splunkResult cfg py round entry)] })) := by
  unfold dispatch
  rcases pushToOciLogging_eq cfg py round entry unwarned with
    ⟨hclient, hraises, hclock, hpush⟩ | ⟨hharmless, hpush⟩
  · refine .inl ⟨hclient, hraises, hclock, ?_⟩
    rcases hresult : pushToOciLogging cfg py round entry s with ⟨result, t⟩
    rw [hresult] at hpush
    obtain rfl : result = .error (.nameError "logger") := hpush
    rfl
  · refine .inr ⟨hharmless, ?_⟩
    rw [hpush]
    simp [pushToSplunk_eq, Sinks.hand]

/-- A worker that runs is held up by an empty queue only. -/
theorem turn_enabled {s : Logging} (running : s.worker = .running) (waiting : s.queue ≠ [])
    (round : Round) : ∃ t, step cfg py s (.work round) = some t := by
  obtain ⟨item, rest, hqueue⟩ := List.exists_cons_of_ne_nil waiting
  unfold step
  rw [running, hqueue]
  rcases item with _ | entry
  · exact ⟨_, rfl⟩
  · exact ⟨_, rfl⟩

/-- The three ways through a turn: the pill, an entry that the worker dies of, and an
entry that it has handed to both sinks. -/
theorem turn_cases {s t : Logging} {round : Round} (running : s.worker = .running)
    (unwarned : s.sinks.lastLoggingErrorTs = 0)
    (hturn : step cfg py s (.work round) = some t) :
    (∃ rest, s.queue = none :: rest ∧ t = { s with queue := rest, worker := .shutDown }) ∨
    (¬ Harmless cfg s (.work round) ∧ t.worker = .died (.nameError "logger")) ∨
    ∃ entry rest, s.queue = some entry :: rest ∧ Harmless cfg s (.work round) ∧ t = {
      queue := rest
      sinks := {
        clientBuilt := hasClient cfg s.sinks.clientBuilt round
        lastLoggingErrorTs := 0
        calls := s.sinks.calls ++ [.oci entry (ociResult cfg py s.sinks.clientBuilt round entry),
          .splunk entry (splunkResult cfg py round entry)] }
      worker := .running } := by
  rcases hqueue : s.queue with _ | ⟨_ | entry, rest⟩
  · simp [step, running, hqueue] at hturn
  · simp only [step, running, hqueue] at hturn
    obtain rfl := Option.some.inj hturn
    exact .inl ⟨rest, rfl, rfl⟩
  · right
    rcases dispatch_cases cfg py round entry unwarned with
      ⟨hclient, hraises, hclock, hdied⟩ | ⟨hearly, hdispatch⟩
    · left
      simp only [step, running, hqueue] at hturn
      obtain rfl := Option.some.inj hturn
      refine ⟨fun harmless => ?_, hdied⟩
      exact absurd hclock (not_lt.mpr (harmless entry rest hqueue hclient hraises))
    · right
      simp only [step, running, hqueue, hdispatch] at hturn
      obtain rfl := Option.some.inj hturn
      refine ⟨entry, rest, rfl, ?_, rfl⟩
      intro entry' rest' hentry
      rw [hqueue] at hentry
      cases hentry
      exact hearly

theorem harmless_pill {s : Logging} {round : Round} {rest : List (Option LogEntry)}
    (hpill : s.queue = none :: rest) : Harmless cfg s (.work round) := by
  intro entry rest' hentry
  rw [hpill] at hentry
  cases hentry

end Turn

section Runs
variable {cfg : LogConfig} {py : Builtins} {s t : Logging} {schedule : List Action}

/-- After the pill, and after the death of the worker, the queue only grows. -/
theorem ended_run (ended : s.worker ≠ .running)
    (hrun : exec (step cfg py) s schedule = some t) :
    t.worker = s.worker ∧ t.sinks = s.sinks ∧ t.queue = s.queue ++ queued cfg schedule ∧
      rounds schedule = [] := by
  induction schedule generalizing s with
  | nil =>
    obtain rfl := Option.some.inj hrun
    exact ⟨rfl, rfl, (List.append_nil _).symm, rfl⟩
  | cons a rest ih =>
    obtain ⟨m, hm, hrest⟩ := exec_cons_iff.mp hrun
    cases a with
    | put put =>
      obtain rfl := Option.some.inj hm
      obtain ⟨hworker, hsinks, hqueue, hrounds⟩ :=
        ih (s := { s with queue := s.queue ++ [put.item cfg] }) ended hrest
      refine ⟨hworker, hsinks, ?_, hrounds⟩
      rw [hqueue, List.append_assoc]
      rfl
    | work round =>
      simp only [step] at hm
      split at hm
      · next hworker _ => exact absurd hworker ended
      · next hworker _ => exact absurd hworker ended
      · cases hm

/-- What is taken in the course of a run from a state in which the worker is well. -/
theorem harmless_run (running : s.worker = .running) (unwarned : s.sinks.lastLoggingErrorTs = 0)
    (hrun : exec (step cfg py) s schedule = some t)
    (harmless : Along (Harmless cfg) (step cfg py) s schedule) :
    ∃ taken, s.queue ++ queued cfg schedule = taken ++ t.queue ∧
      t.sinks.calls = s.sinks.calls ++ allHanded cfg py s.sinks.clientBuilt taken
        (rounds schedule) ∧
      (none ∉ taken ∧ t.worker = .running ∨ none ∈ taken ∧ t.worker = .shutDown) := by
  induction schedule generalizing s with
  | nil =>
    obtain rfl := Option.some.inj hrun
    refine ⟨[], List.append_nil _, (List.append_nil _).symm, .inl ⟨List.not_mem_nil, running⟩⟩
  | cons a rest ih =>
    obtain ⟨m, hm, hrest⟩ := exec_cons_iff.mp hrun
    obtain ⟨hturn, hlater⟩ := along_cons.mp harmless
    cases a with
    | put put =>
      obtain ⟨taken, hqueue, hcalls, hworker⟩ := by
        obtain rfl := Option.some.inj hm
        exact ih (s := { s with queue := s.queue ++ [put.item cfg] }) running unwarned hrest
          (hlater _ rfl)
      refine ⟨taken, ?_, hcalls, hworker⟩
      rw [← hqueue, List.append_assoc]
      rfl
    | work round =>
      rcases turn_cases cfg py running unwarned hm with
        ⟨queue, hqueue, rfl⟩ | ⟨hharmful, -⟩ | ⟨entry, queue, hqueue, -, rfl⟩
      · obtain ⟨hworker, hsinks, hend, -⟩ := ended_run (by simp) hrest
        refine ⟨[none], ?_, ?_, .inr ⟨List.mem_singleton_self none, hworker⟩⟩
        · rw [hend, hqueue]
          rfl
        · rw [hsinks]
          exact (List.append_nil _).symm
      · exact absurd hturn hharmful
      · obtain ⟨taken, hrestqueue, hcalls, hworker⟩ := ih rfl rfl hrest (hlater _ hm)
        refine ⟨some entry :: taken, ?_, ?_, ?_⟩
        · rw [hqueue]
          exact congrArg (some entry :: ·) hrestqueue
        · rw [hcalls]
          simp [allHanded, rounds]
        · simpa using hworker

theorem along_puts (idle : rounds schedule = []) :
    Along (Harmless cfg) (step cfg py) s schedule := by
  induction schedule generalizing s with
  | nil => trivial
  | cons a rest ih =>
    cases a with
    | put put => exact along_cons.mpr ⟨trivial, fun _ _ => ih idle⟩
    | work round => cases idle

/-- One turn that is not harmless ends the thread. -/
theorem harmful_run (running : s.worker = .running) (unwarned : s.sinks.lastLoggingErrorTs = 0)
    (hrun : exec (step cfg py) s schedule = some t)
    (harmful : ¬ Along (Harmless cfg) (step cfg py) s schedule) :
    t.worker = .died (.nameError "logger") := by
  induction schedule generalizing s with
  | nil => exact absurd trivial harmful
  | cons a rest ih =>
    obtain ⟨m, hm, hrest⟩ := exec_cons_iff.mp hrun
    have hlater : Harmless cfg s a → ¬ Along (Harmless cfg) (step cfg py) m rest := by
      intro hturn halong
      refine harmful (along_cons.mpr ⟨hturn, fun u hu => ?_⟩)
      obtain rfl := Option.some.inj (hm.symm.trans hu)
      exact halong
    cases a with
    | put put =>
      obtain rfl := Option.some.inj hm
      exact ih (s := { s with queue := s.queue ++ [put.item cfg] }) running unwarned hrest
        (hlater trivial)
    | work round =>
      rcases turn_cases cfg py running unwarned hm with
        ⟨queue, hqueue, rfl⟩ | ⟨-, hdied⟩ | ⟨entry, queue, hqueue, hturn, rfl⟩
      · obtain ⟨-, -, -, hrounds⟩ := ended_run (by simp) hrest
        exact absurd (along_puts hrounds) (hlater (harmless_pill cfg hqueue))
      · obtain ⟨hworker, -⟩ := ended_run (by rw [hdied]; simp) hrest
        exact hworker.trans hdied
      · exact ih rfl rfl hrest (hlater hturn)

end Runs

/-- In a run from the start, whatever is pushed and however the sinks fail, no entry is
lost just in case each turn is harmless. -/
theorem no_log_loss_iff {cfg : LogConfig} {py : Builtins} {schedule : List Action} {s : Logging}
    (hrun : exec (step cfg py) Logging.start schedule = some s) :
    NoLogLoss cfg py schedule s ↔ Along (Harmless cfg) (step cfg py) Logging.start schedule := by
  constructor
  · rintro ⟨taken, -, -, hworker⟩
    by_contra harmful
    rw [harmful_run rfl rfl hrun harmful] at hworker
    rcases hworker with ⟨-, hworker⟩ | ⟨-, hworker⟩
    · cases hworker
    · cases hworker
  · intro harmless
    exact harmless_run rfl rfl hrun harmless

def sampleConfig : LogConfig where
  otelServiceName := "enterprise-crm-portal"
  serviceNamespace := "octo"
  appVersion := "1.1.0"
  serviceInstanceId := "local-dev"
  appEnv := "production"
  appName := "enterprise-crm-portal"
  brandName := "OCTO CRM APM"
  appRuntime := "docker"
  demoStackName := "platform-stack"
  usePostgres := true
  atpOcid := ""
  oracleDsn := ""
  ociLogId := "ocid1.log"
  splunkHecUrl := "https://splunk/services/collector"
  splunkHecToken := "token"

/-- OCI is out of reach while Splunk answers. -/
def outage : Round where
  clientBuilds := true
  ociMillis := 1700000000000
  ociTime := "2023-11-14T22:13:20.000000Z"
  ociRaises := some .connectionError
  errorClock := 1700000000
  splunkTime := "2023-11-14T22:13:20+00:00"
  splunkRaises := none

def oneFailure : List Action :=
  [.put (.pushLog ⟨"", "", ""⟩ "INFO" "started" []), .work outage]

theorem one_failure_ends_the_worker :
    ¬ ∀ schedule s, exec (step sampleConfig (asciiBuiltins id)) Logging.start schedule = some s →
      NoLogLoss sampleConfig (asciiBuiltins id) schedule s := by
  intro hall
  have hdied : (exec (step sampleConfig (asciiBuiltins id)) Logging.start oneFailure).map
      Logging.worker = some (.died (.nameError "logger")) := by decide +kernel
  obtain ⟨s, hrun, hdied⟩ := Option.map_eq_some_iff.mp hdied
  obtain ⟨taken, -, -, hworker⟩ := hall oneFailure s hrun
  rw [hdied] at hworker
  rcases hworker with ⟨-, hworker⟩ | ⟨-, hworker⟩
  · cases hworker
  · cases hworker

theorem no_log_loss_one_failure :
    ∃ s, exec (step sampleConfig (asciiBuiltins id)) Logging.start oneFailure = some s ∧
      (NoLogLoss sampleConfig (asciiBuiltins id) oneFailure s ↔
        Along (Harmless sampleConfig) (step sampleConfig (asciiBuiltins id)) Logging.start
          oneFailure) := by
  have hrun : ∃ s, exec (step sampleConfig (asciiBuiltins id)) Logging.start oneFailure =
      some s := ⟨_, rfl⟩
  obtain ⟨s, hrun⟩ := hrun
  exact ⟨s, hrun, no_log_loss_iff hrun⟩

end LogWorker
