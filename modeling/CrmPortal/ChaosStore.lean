import CrmPortal.JsonText
import CrmPortal.RequestContext
import CrmPortal.Library.ExpiringRegister

/-!
# The chaos store

`apply_scenario` and `clear_scenario` replace the content of the table
`chaos_state`, `get_active_state` reads it back. An expired row stays in the table;
the query leaves it out, and the state that comes back is tested once more. The
table is created by the first `apply`: before, every other statement on it fails,
which reader and `clear` take for an empty table.

The store is a register with expiry, whatever its texts are: what is written as JSON
text is read back field by field.
-/

namespace ChaosStore

open PyValue JsonText ExpiringRegister

/-- What of a preset is stored. -/
structure ChaosScenario where
  id : String
  faults : List String

def presets : List ChaosScenario :=
  [⟨"db-slow-checkout", ["db.slow", "workflow:checkout"]⟩,
    ⟨"crm-sync-fail", ["http.502", "path:/api/crm/sync"]⟩,
    ⟨"payment-timeout", ["http.timeout", "path:/api/payments"]⟩,
    ⟨"deadlock-cart", ["db.deadlock", "workflow:add-to-cart"]⟩,
    ⟨"pool-exhaustion", ["db.pool_hold"]⟩,
    ⟨"crm-admin-abuse", ["http.burst", "path:/api/admin"]⟩]

/-- `PRESETS_BY_ID.get(id)`. -/
def presetById (id : String) : Option ChaosScenario :=
  presets.find? fun preset => decide (preset.id = id)

/-- The last three fields are whatever JSON `from_json` finds. -/
structure ChaosScenarioState where
  scenarioId : String
  target : String
  appliedBy : String
  appliedAt : PyFloat
  expiresAt : PyFloat
  faults : List Json
  traceId : Json
  extra : Obj

/-- `time.time() >= self.expires_at`. -/
def ChaosScenarioState.isExpired (state : ChaosScenarioState) (now : ℚ) : Bool :=
  PyFloat.le state.expiresAt (.fin now)

def ChaosScenarioState.fields (state : ChaosScenarioState) : Obj :=
  [("scenario_id", .str state.scenarioId), ("target", .str state.target),
    ("applied_by", .str state.appliedBy), ("applied_at", .float state.appliedAt),
    ("expires_at", .float state.expiresAt), ("faults", .arr state.faults),
    ("trace_id", state.traceId), ("extra", .obj state.extra)]

def ChaosScenarioState.toJson (state : ChaosScenarioState) : Json := .obj state.fields

/-- A key and a value from a sequence of two, as `dict` takes them. -/
def pairOf (item : Json) : Option (String × Json) :=
  match item.iterate with
  | .ok [.str key, v] => some (key, v)
  | _ => none

/-- `dict(v)` with string keys. -/
def toDict : Json → Option Obj
  | .obj fields => some fields
  | .arr items => (items.mapM pairOf).map dictOf
  | _ => none

/-- `None` stands for an exception: the reader catches them all. -/
def fromJson (py : Builtins) (now : ℚ) (payload : Json) : Option ChaosScenarioState := do
  let payload ← payload.asDict.toOption
  let scenarioId ← List.lookup "scenario_id" payload
  let appliedAt ← ((payload.getD "applied_at" (.float (.fin now))).toFloat py).toOption
  let expiresAt ← List.lookup "expires_at" payload
  let expiresAt ← (expiresAt.toFloat py).toOption
  let faults ← ((payload.get "faults").or (.arr [])).iterate.toOption
  let extra ← toDict ((payload.get "extra").or (.obj []))
  return {
    scenarioId := scenarioId.toStr py
    target := (payload.getD "target" (.str "both")).toStr py
    appliedBy := (payload.getD "applied_by" (.str "unknown")).toStr py
    appliedAt := appliedAt
    expiresAt := expiresAt
    faults := faults
    traceId := payload.get "trace_id"
    extra := extra }

/-- The environment of the process; a variable may be unset. -/
structure ChaosEnv where
  py : Builtins
  floats : FloatText
  chaosEnabled : Option String
  chaosStateBackend : Option String
  chaosAdminRole : Option String
  maxTtlSeconds : Int
  /-- `sha256(...).hexdigest()[:16]`. -/
  sha256Start : String → String

def ChaosEnv.enabled (env : ChaosEnv) : Bool :=
  decide (env.py.lower (env.py.strip (env.chaosEnabled.getD "false")) ∈ ["1", "true", "yes"])

def ChaosEnv.backendName (env : ChaosEnv) : String :=
  let name := env.py.lower (env.py.strip (env.chaosStateBackend.getD "db"))
  if name = "" then "db" else name

structure ChaosRow where
  id : String
  scenarioId : String
  target : String
  appliedBy : String
  appliedAt : PyFloat
  expiresAt : PyFloat
  payload : String

/-- The rows of `chaos_state`, once it is created. -/
abbrev Store := Option (List ChaosRow)

def Store.rows (store : Store) : List ChaosRow := store.getD []

/-- `CREATE TABLE IF NOT EXISTS`. -/
def ensureTable (store : Store) : Store := some store.rows

/-- `DELETE FROM chaos_state`. -/
def deleteRows (_ : List ChaosRow) : List ChaosRow := []

def insertRow (row : ChaosRow) (rows : List ChaosRow) : List ChaosRow := rows ++ [row]

/-- The query of `_read_from_db`: what has not expired, the latest first, one row. -/
def selectActive (now : ℚ) (rows : List ChaosRow) : Option ChaosRow :=
  ((rows.filter fun row => PyFloat.lt (.fin now) row.expiresAt).mergeSort
    fun a b => PyFloat.le b.appliedAt a.appliedAt).head?

/-- The clock at the query, at the reading of the payload and at the last test. -/
structure ReadClock where
  queriedAt : ℚ
  parsedAt : ℚ
  checkedAt : ℚ
  queried_le_checked : queriedAt ≤ checkedAt

def readFromDb (env : ChaosEnv) (clock : ReadClock) (store : Store) :
    Option ChaosScenarioState := do
  let rows ← store
  let row ← selectActive clock.queriedAt rows
  let payload ← loads env.floats row.payload
  fromJson env.py clock.parsedAt payload

def getActiveState (env : ChaosEnv) (clock : ReadClock) (store : Store) :
    Option ChaosScenarioState :=
  if !env.enabled then none
  else
    let state := if env.backendName = "db" then readFromDb env clock store else none
    state.filter fun state => !state.isExpired clock.checkedAt

theorem getActiveState_enabled {env : ChaosEnv} {clock : ReadClock} {store : Store}
    {state : ChaosScenarioState} (h : getActiveState env clock store = some state) :
    env.enabled = true ∧ env.backendName = "db" := by
  unfold getActiveState at h
  split at h
  · cases h
  · next henabled =>
    refine ⟨by simpa using henabled, ?_⟩
    by_contra hbackend
    simp [hbackend] at h

/-- A row that has expired when the query runs is no row. -/
theorem getActiveState_concat_expired {env : ChaosEnv} {clock : ReadClock} {rows : List ChaosRow}
    {row : ChaosRow} (expired : PyFloat.lt (.fin clock.queriedAt) row.expiresAt = false) :
    getActiveState env clock (some (rows ++ [row])) = getActiveState env clock (some rows) := by
  have hselected : selectActive clock.queriedAt (rows ++ [row]) =
      selectActive clock.queriedAt rows := by
    simp [selectActive, List.filter_append, expired]
  simp only [getActiveState, readFromDb, Option.bind_eq_bind, Option.bind_some, hselected]

/-- `request.state.session` and `request.state.request_id`. -/
structure ChaosRequest where
  session : Option Obj
  requestId : Option String

structure HttpError where
  status : Nat
  detail : String
  deriving DecidableEq

def ChaosEnv.adminRole (env : ChaosEnv) : String :=
  let role := env.py.lower (env.py.strip (env.chaosAdminRole.getD "chaos-operator"))
  if role = "" then "chaos-operator" else role

def normalized (py : Builtins) (text : String) : String := py.lower (py.strip text)

/-- `_extract_roles`. -/
def extractRoles (py : Builtins) (request : ChaosRequest) : Except PyExc (List String) := do
  let session := request.session.getD []
  let raw := ((session.get "roles").or (session.get "role")).or (.arr [])
  let roles ← match raw with
    | .str role => pure [.str role]
    | raw => raw.iterate
  return (roles.filter Json.truthy).map fun role => normalized py (role.toStr py)

/-- `require_role(CHAOS_ADMIN_ROLE)`; an unreadable session ends in a server error. -/
def requireChaosRole (env : ChaosEnv) (request : ChaosRequest) : Except HttpError Unit :=
  match extractRoles env.py request with
  | .error _ => .error ⟨500, "Internal Server Error"⟩
  | .ok roles =>
    let expected := normalized env.py env.adminRole
    if env.py.strip env.adminRole ≠ "" ∧ expected ∈ roles then .ok ()
    else .error ⟨403, "role_required"⟩

/-- `_hash_user`. -/
def hashUser (env : ChaosEnv) (request : ChaosRequest) : String :=
  let session := request.session.getD []
  let uid := (session.get "user_id").or ((session.get "sub").or (.str "anon"))
  env.sha256Start (uid.toStr env.py)

/-- The body as it arrives; a field may be left out. -/
structure ApplyBody where
  scenarioId : String
  target : Option String
  ttlSeconds : Option Int
  note : Option String

/-- A body that has passed the checks of its fields. The default of `ttl_seconds` is
not checked against the bound. -/
structure ApplyRequest (maxTtlSeconds : Int) where
  scenarioId : String
  target : String
  ttlSeconds : Int
  note : Option String
  scenarioId_length : 1 ≤ scenarioId.length ∧ scenarioId.length ≤ 64
  target_mem : target ∈ ["shop", "crm", "both"]
  ttl_range : ttlSeconds = 300 ∨ 10 ≤ ttlSeconds ∧ ttlSeconds ≤ maxTtlSeconds
  note_length : ∀ text ∈ note, text.length ≤ 512

def ApplyBody.validate (env : ChaosEnv) (body : ApplyBody) :
    Except HttpError (ApplyRequest env.maxTtlSeconds) :=
  let target := match body.target with
    | none => "both"
    | some target => normalized env.py target
  if h : (1 ≤ body.scenarioId.length ∧ body.scenarioId.length ≤ 64) ∧
      target ∈ ["shop", "crm", "both"] ∧
      (∀ ttl ∈ body.ttlSeconds, 10 ≤ ttl ∧ ttl ≤ env.maxTtlSeconds) ∧
      ∀ text ∈ body.note, text.length ≤ 512 then
    .ok {
      scenarioId := body.scenarioId
      target := target
      ttlSeconds := body.ttlSeconds.getD 300
      note := body.note
      scenarioId_length := h.1
      target_mem := h.2.1
      ttl_range := by
        cases httl : body.ttlSeconds with
        | none => exact .inl rfl
        | some ttl => exact .inr (h.2.2.1 ttl httl)
      note_length := h.2.2.2 }
  else .error ⟨422, "Unprocessable Entity"⟩

def chaosState (env : ChaosEnv) (request : ChaosRequest)
    (payload : ApplyRequest env.maxTtlSeconds) (preset : ChaosScenario) (now : ℚ) :
    ChaosScenarioState :=
  let ttl := min payload.ttlSeconds env.maxTtlSeconds
  { scenarioId := preset.id
    target := payload.target
    appliedBy := hashUser env request
    appliedAt := .fin now
    expiresAt := .fin (now + ttl)
    faults := preset.faults.map .str
    traceId := match request.requestId with
      | some id => .str id
      | none => .null
    extra := match payload.note with
      | some note => if note = "" then [] else [("note", .str note)]
      | none => [] }

def chaosRow (env : ChaosEnv) (rowId : String) (state : ChaosScenarioState) : ChaosRow where
  id := rowId
  scenarioId := state.scenarioId
  target := state.target
  appliedBy := state.appliedBy
  appliedAt := state.appliedAt
  expiresAt := state.expiresAt
  payload := dumps env.floats state.toJson

/-- `_persist`; both statements fail where there is no table. -/
def persist (env : ChaosEnv) (rowId : String) (state : ChaosScenarioState) (store : Store) :
    Store :=
  store.map fun rows => insertRow (chaosRow env rowId state) (deleteRows rows)

/-- What is applied: the checked body and its preset. -/
def checkApply (env : ChaosEnv) (request : ChaosRequest) (body : ApplyBody) :
    Except HttpError (ApplyRequest env.maxTtlSeconds × ChaosScenario) := do
  requireChaosRole env request
  let payload ← body.validate env
  match presetById payload.scenarioId with
  | none => .error ⟨404, "scenario_not_found"⟩
  | some preset => return (payload, preset)

def applyScenario (env : ChaosEnv) (request : ChaosRequest) (body : ApplyBody) (now : ℚ)
    (rowId : String) (store : Store) : Except HttpError ChaosScenarioState × Store :=
  match checkApply env request body with
  | .error e => (.error e, store)
  | .ok (payload, preset) =>
    let state := chaosState env request payload preset now
    (.ok state, persist env rowId state (ensureTable store))

/-- `_clear_all` swallows a failure. -/
def clearAll (store : Store) : Store := store.map deleteRows

def clearScenario (env : ChaosEnv) (request : ChaosRequest) (store : Store) :
    Except HttpError Unit × Store :=
  match requireChaosRole env request with
  | .error e => (.error e, store)
  | .ok () => (.ok (), clearAll store)

inductive Op where
  | apply (request : ChaosRequest) (body : ApplyBody) (now : ℚ) (rowId : String)
  | clear (request : ChaosRequest)
  | read (clock : ReadClock)

def perform (env : ChaosEnv) (store : Store) : Op → Store
  | .apply request body now rowId => (applyScenario env request body now rowId store).2
  | .clear request => (clearScenario env request store).2
  | .read _ => store

/-- The store after these operations, from the start of the installation. -/
def storeAfter (env : ChaosEnv) (ops : List Op) : Store := ops.foldl (perform env) none

/-- An operation as a write of the register: the state of an accepted apply is there
until its time to live, cut to the maximum, has passed. -/
def writeOf (env : ChaosEnv) : Op → Option (Write ChaosScenarioState ℚ)
  | .apply request body now _ => match checkApply env request body with
    | .error _ => none
    | .ok (payload, preset) => some (.set (chaosState env request payload preset now)
        (now + (min payload.ttlSeconds env.maxTtlSeconds : Int)))
  | .clear request => match requireChaosRole env request with
    | .error _ => none
    | .ok () => some .clear
  | .read _ => none

theorem fromJson_toJson (py : Builtins) (now : ℚ) (state : ChaosScenarioState) :
    fromJson py now state.toJson = some state := by
  have hfaults : ((Json.arr state.faults).or (.arr [])).iterate = .ok state.faults := by
    cases hf : state.faults with
    | nil => rfl
    | cons fault faults => rfl
  have hextra : toDict ((Json.obj state.extra).or (.obj [])) = some state.extra := by
    cases he : state.extra with
    | nil => rfl
    | cons field fields => rfl
  have hscenario : List.lookup "scenario_id" state.fields = some (.str state.scenarioId) := rfl
  have hexpires : List.lookup "expires_at" state.fields = some (.float state.expiresAt) := rfl
  have happlied : Obj.getD state.fields "applied_at" (.float (.fin now)) = .float state.appliedAt :=
    rfl
  have hfaultsField : Obj.get state.fields "faults" = .arr state.faults := rfl
  have hextraField : Obj.get state.fields "extra" = .obj state.extra := rfl
  simp only [ChaosScenarioState.toJson, fromJson, Json.asDict, Except.toOption, Json.toFloat,
    Option.bind_eq_bind, Option.bind_some, hscenario, hexpires, happlied, hfaultsField, hfaults,
    hextraField, hextra]
  rfl

/-- The relation between table and register: one row, with the deadline in its column
and the state as its text, or none. -/
inductive Holds (env : ChaosEnv) : Store → Register ChaosScenarioState ℚ → Prop where
  | empty {store : Store} : store.rows = [] → Holds env store none
  | row {row : ChaosRow} {state : ChaosScenarioState} {deadline : ℚ} :
      row.payload = dumps env.floats state.toJson → uniqueKeys state.toJson = true →
      row.expiresAt = .fin deadline → state.expiresAt = .fin deadline →
      Holds env (some [row]) (some (state, deadline))

section Refinement

variable {env : ChaosEnv} {store : Store} {r : Register ChaosScenarioState ℚ}

theorem Holds.rows_length (h : Holds env store r) : store.rows.length ≤ 1 := by
  cases h with
  | empty hrows => rw [hrows]; exact Nat.zero_le 1
  | row => exact le_rfl

theorem uniqueKeys_texts (texts : List String) : uniqueKeysItems (texts.map .str) = true := by
  induction texts with
  | nil => rfl
  | cons text texts ih => simpa [uniqueKeysItems, uniqueKeys] using ih

theorem uniqueKeys_toJson {state : ChaosScenarioState}
    (faults : uniqueKeysItems state.faults = true)
    (traceId : uniqueKeys state.traceId = true) (extra : uniqueKeys (.obj state.extra) = true) :
    uniqueKeys state.toJson = true := by
  have hnodup : (state.fields.map Prod.fst).Nodup := by
    have hkeys : state.fields.map Prod.fst = ["scenario_id", "target", "applied_by", "applied_at",
        "expires_at", "faults", "trace_id", "extra"] := rfl
    rw [hkeys]
    decide
  have hfaults : uniqueKeys (.arr state.faults) = true := faults
  have hfields : uniqueKeysFields state.fields = true := by
    simp [ChaosScenarioState.fields, uniqueKeysFields, traceId, extra, hfaults]
    exact ⟨rfl, rfl, rfl, rfl, rfl⟩
  rw [ChaosScenarioState.toJson, uniqueKeys, decide_eq_true hnodup, hfields]
  rfl

theorem uniqueKeys_chaosState (request : ChaosRequest) (payload : ApplyRequest env.maxTtlSeconds)
    (preset : ChaosScenario) (now : ℚ) :
    uniqueKeys (chaosState env request payload preset now).toJson = true := by
  apply uniqueKeys_toJson (uniqueKeys_texts preset.faults)
  · unfold chaosState
    dsimp only
    split <;> rfl
  · unfold chaosState
    dsimp only
    split
    · split <;> rfl
    · rfl

theorem Holds.perform (h : Holds env store r) (op : Op) :
    Holds env (perform env store op) (r.apply (writeOf env op)) := by
  cases op with
  | apply request body now rowId =>
    cases hcheck : checkApply env request body with
    | error e => simpa [ChaosStore.perform, applyScenario, writeOf, hcheck, Register.apply] using h
    | ok checked =>
      obtain ⟨payload, preset⟩ := checked
      simp only [ChaosStore.perform, applyScenario, writeOf, hcheck, Register.apply, Register.write]
      exact .row rfl (uniqueKeys_chaosState request payload preset now) rfl rfl
  | clear request =>
    cases hrole : requireChaosRole env request with
    | error e => simpa [ChaosStore.perform, clearScenario, writeOf, hrole, Register.apply] using h
    | ok =>
      simp only [ChaosStore.perform, clearScenario, writeOf, hrole, Register.apply, Register.write]
      refine .empty ?_
      cases store <;> rfl
  | read clock => exact h

theorem Holds.getActiveState (h : Holds env store r) (enabled : env.enabled = true)
    (backend : env.backendName = "db") (clock : ReadClock) :
    getActiveState env clock store = r.read clock.checkedAt := by
  unfold ChaosStore.getActiveState
  rw [enabled, backend]
  cases h with
  | empty hrows =>
    cases store with
    | none => rfl
    | some rows =>
      obtain rfl : rows = [] := hrows
      have hselected : selectActive clock.queriedAt [] = none := by simp [selectActive]
      have hread : readFromDb env clock (some []) = none := by
        simp only [readFromDb, Option.bind_eq_bind, Option.bind_some, hselected, Option.bind_none]
      simp [hread, Register.read]
  | @row row state deadline hpayload hunique hcolumn hfield =>
    have hexpired : state.isExpired clock.checkedAt = decide (deadline ≤ clock.checkedAt) := by
      rw [ChaosScenarioState.isExpired, hfield]
      rfl
    by_cases hqueried : clock.queriedAt < deadline
    · have hselected : selectActive clock.queriedAt [row] = some row := by
        have hnow : PyFloat.lt (.fin clock.queriedAt) row.expiresAt = true := by
          rw [hcolumn]
          exact decide_eq_true hqueried
        simp [selectActive, hnow]
      have hread : readFromDb env clock (some [row]) = some state := by
        simp only [readFromDb, Option.bind_eq_bind, Option.bind_some, hselected, hpayload,
          loads_dumps env.floats _ hunique, fromJson_toJson]
      simp only [hread]
      by_cases hchecked : clock.checkedAt < deadline
      · simp [Option.filter, hexpired, Register.read, hchecked]
      · simp [Option.filter, hexpired, Register.read, hchecked, not_lt.mp hchecked]
    · have hselected : selectActive clock.queriedAt [row] = none := by
        have hnow : PyFloat.lt (.fin clock.queriedAt) row.expiresAt = false := by
          rw [hcolumn]
          exact decide_eq_false hqueried
        simp [selectActive, hnow]
      have hread : readFromDb env clock (some [row]) = none := by
        simp only [readFromDb, Option.bind_eq_bind, Option.bind_some, hselected, Option.bind_none]
      have hpassed : ¬ clock.checkedAt < deadline :=
        not_lt.mpr ((not_lt.mp hqueried).trans clock.queried_le_checked)
      simp [hread, Register.read, hpassed]

end Refinement

theorem storeAfter_holds (env : ChaosEnv) (past : List Op) :
    Holds env (storeAfter env past) (after (past.filterMap (writeOf env))) :=
  refines (.empty rfl) (fun op h => h.perform op) past

/-- The last accepted `apply` or `clear`. -/
def lastWrite (env : ChaosEnv) (past : List Op) : Option (Write ChaosScenarioState ℚ) :=
  (past.filterMap (writeOf env)).getLast?

/-- The active state is the one that the last write applied, before its deadline, and
the table holds at most one row. The time of the reading is that of its last test. -/
theorem chaos_register (env : ChaosEnv) (enabled : env.enabled = true)
    (backend : env.backendName = "db") (past : List Op) (clock : ReadClock) :
    (∀ state, getActiveState env clock (storeAfter env past) = some state ↔
      ∃ deadline, lastWrite env past = some (.set state deadline) ∧ clock.checkedAt < deadline) ∧
    (storeAfter env past).rows.length ≤ 1 := by
  have holds := storeAfter_holds env past
  constructor
  · intro state
    rw [holds.getActiveState enabled backend clock]
    exact read_after_iff
  · exact holds.rows_length

def sampleEnv : ChaosEnv where
  py := asciiBuiltins id
  floats := plainFloats
  chaosEnabled := some "true"
  chaosStateBackend := none
  chaosAdminRole := none
  maxTtlSeconds := 3600
  sha256Start := id

def operator : ChaosRequest where
  session := some [("user_id", .int 7), ("role", .str "chaos-operator")]
  requestId := some "4f2a"

def drill : ApplyBody := ⟨"payment-timeout", none, some 60, some "say \"drill\""⟩

/-- One second before the drill ends. -/
def lastSecond : ReadClock := ⟨1059, 1059, 1059, le_rfl⟩

theorem chaos_register_sample :
    ∃ state, getActiveState sampleEnv lastSecond
      (storeAfter sampleEnv [.clear operator, .apply operator drill 1000 "row"]) = some state ∧
      state.extra = [("note", .str "say \"drill\"")] := by
  have hregister := chaos_register sampleEnv (by decide +kernel) (by decide +kernel)
    [.clear operator, .apply operator drill 1000 "row"] lastSecond
  have hwrite : ∃ state, lastWrite sampleEnv [.clear operator, .apply operator drill 1000 "row"] =
      some (.set state (1000 + (60 : Int))) ∧ state.extra = [("note", .str "say \"drill\"")] :=
    ⟨_, rfl, rfl⟩
  obtain ⟨state, hlast, hextra⟩ := hwrite
  have hbefore : lastSecond.checkedAt < 1000 + (60 : Int) := by decide +kernel
  exact ⟨state, (hregister.1 state).mpr ⟨_, hlast, hbefore⟩, hextra⟩

end ChaosStore
