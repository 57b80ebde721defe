import CrmPortal.ChaosStore
import CrmPortal.Library.Schedule
import CrmPortal.Library.UnitOfWork

/-!
# Chaos commands over a database that fails

`_persist` raises when a statement fails, and its transaction is rolled back;
`_ensure_table` and `_clear_all` swallow the exception. A command that comes through
is written to the audit log.
-/

namespace ChaosFaults

open PyValue ChaosStore UnitOfWork Schedule

inductive Failure where
  | statement
  | noTable
  deriving DecidableEq

/-- `keptDdl` says what a rollback leaves of a table that was to be created: some
databases commit it at once. -/
structure Database where
  keptDdl : Bool

structure State where
  store : Store
  audit : List Obj

/-- The record of `_audit`, written at `ts`. -/
def auditRecord (event : String) (fields : Obj) (ts : ℚ) : Obj :=
  ("event", .str event) :: fields ++ [("ts", .float (.fin ts))]

abbrev ChaosBlock := Block Store Failure Empty PUnit

def ensureBlock (faults : Faults Failure) : ChaosBlock :=
  execute faults fun store => .ok (ensureTable store)

/-- A statement on the table, if there is one. -/
def onTable (change : List ChaosRow → List ChaosRow) : Store → Except Failure Store
  | none => .error .noTable
  | some rows => .ok (some (change rows))

def persistBlock (env : ChaosEnv) (rowId : String) (state : ChaosScenarioState)
    (faults : Faults Failure) : ChaosBlock := do
  execute faults (onTable deleteRows)
  execute faults (onTable (insertRow (chaosRow env rowId state)))

def clearBlock (faults : Faults Failure) : ChaosBlock := execute faults (onTable deleteRows)

def Database.undoEnsure (db : Database) (before reached : Store) : Store :=
  if db.keptDdl then reached else before

def undo (before _ : Store) : Store := before

def applyRecord (state : ChaosScenarioState) (ttl : Int) (ts : ℚ) : Obj :=
  auditRecord "chaos.apply" [("scenario_id", .str state.scenarioId), ("target", .str state.target),
    ("ttl_seconds", .int ttl), ("applied_by", .str state.appliedBy),
      ("request_id", state.traceId)] ts

def clearRecord (env : ChaosEnv) (request : ChaosRequest) (ts : ℚ) : Obj :=
  auditRecord "chaos.clear" [("applied_by", .str (hashUser env request)),
    ("request_id", match request.requestId with
      | some id => .str id
      | none => .null)] ts

/-- `now` is the time of the state, `ts` that of the audit record. -/
def applyScenario (env : ChaosEnv) (db : Database) (request : ChaosRequest) (body : ApplyBody)
    (now ts : ℚ) (rowId : String) (ensureFaults persistFaults : Faults Failure) (s : State) :
    Except HttpError ChaosScenarioState × State :=
  match checkApply env request body with
  | .error e => (.error e, s)
  | .ok (payload, preset) =>
    let ensured := (run ensureFaults db.undoEnsure (ensureBlock ensureFaults) s.store).state
    let state := chaosState env request payload preset now
    match run persistFaults undo (persistBlock env rowId state persistFaults) ensured with
    | .rolledBack _ store => (.error ⟨500, "Internal Server Error"⟩, { s with store := store })
    | .committed _ store => (.ok state, {
        store := store
        audit := s.audit ++ [applyRecord state (min payload.ttlSeconds env.maxTtlSeconds) ts] })

def clearAll (faults : Faults Failure) (store : Store) : Store :=
  (run faults undo (clearBlock faults) store).state

def clearScenario (env : ChaosEnv) (request : ChaosRequest) (ts : ℚ) (faults : Faults Failure)
    (s : State) : Except HttpError Unit × State :=
  match requireChaosRole env request with
  | .error e => (.error e, s)
  | .ok () => (.ok (), {
      store := clearAll faults s.store
      audit := s.audit ++ [clearRecord env request ts] })

def noFaults : Faults Failure := fun _ => none

/-- Without failures the store goes the way of the chaos store. -/
theorem applyScenario_noFaults (env : ChaosEnv) (db : Database) (request : ChaosRequest)
    (body : ApplyBody) (now ts : ℚ) (rowId : String) (s : State) :
    (applyScenario env db request body now ts rowId noFaults noFaults s).1 =
        (ChaosStore.applyScenario env request body now rowId s.store).1 ∧
      (applyScenario env db request body now ts rowId noFaults noFaults s).2.store =
        (ChaosStore.applyScenario env request body now rowId s.store).2 := by
  unfold applyScenario ChaosStore.applyScenario
  cases checkApply env request body with
  | error e => exact ⟨rfl, rfl⟩
  | ok checked => exact ⟨rfl, rfl⟩

theorem clearScenario_noFaults (env : ChaosEnv) (request : ChaosRequest) (ts : ℚ) (s : State) :
    (clearScenario env request ts noFaults s).1 =
        (ChaosStore.clearScenario env request s.store).1 ∧
      (clearScenario env request ts noFaults s).2.store =
        (ChaosStore.clearScenario env request s.store).2 := by
  unfold clearScenario ChaosStore.clearScenario
  cases requireChaosRole env request with
  | error e => exact ⟨rfl, rfl⟩
  | ok =>
    refine ⟨rfl, ?_⟩
    cases s.store <;> rfl

inductive Op where
  | apply (request : ChaosRequest) (body : ApplyBody) (now ts : ℚ) (rowId : String)
      (ensureFaults persistFaults : Faults Failure)
  | clear (request : ChaosRequest) (ts : ℚ) (faults : Faults Failure)

def perform (env : ChaosEnv) (db : Database) (s : State) : Op → State
  | .apply request body now ts rowId ensureFaults persistFaults =>
    (applyScenario env db request body now ts rowId ensureFaults persistFaults s).2
  | .clear request ts faults => (clearScenario env request ts faults s).2

def step (env : ChaosEnv) (db : Database) (s : State) (op : Op) : Option State :=
  some (perform env db s op)

/-- No command yet. -/
def start (store : Store) : State := ⟨store, []⟩

section Commands
variable {env : ChaosEnv} {db : Database} {store : Store} {faults : Faults Failure} {s : State}

/-- The table may have been created, its rows are the same. -/
theorem rows_ensure :
    (run faults db.undoEnsure (ensureBlock faults) store).state.rows = store.rows := by
  rcases run_execute faults db.undoEnsure (fun store => .ok (ensureTable store)) store with
    ⟨t, -, -, ht, hrun⟩ | ⟨-, e, reached, hreached, hrun⟩
  · rw [ensureBlock, hrun]
    cases ht
    rfl
  · rw [ensureBlock, hrun]
    have hrows : reached.rows = store.rows := by
      rcases hreached with rfl | ht
      · rfl
      · cases ht
        rfl
    rw [Ended.state, Database.undoEnsure]
    split
    · exact hrows
    · rfl

theorem apply_refused {request : ChaosRequest} {body : ApplyBody} {now ts : ℚ} {rowId : String}
    {ensureFaults persistFaults : Faults Failure} {e : HttpError}
    (h : (applyScenario env db request body now ts rowId ensureFaults persistFaults s).1 =
      .error e) :
    (applyScenario env db request body now ts rowId ensureFaults persistFaults s).2.store.rows =
        s.store.rows ∧
      (applyScenario env db request body now ts rowId ensureFaults persistFaults s).2.audit =
        s.audit := by
  unfold applyScenario at h ⊢
  split at h
  · next hcheck => exact ⟨rfl, rfl⟩
  · next payload preset hcheck =>
    dsimp only at h ⊢
    split at h
    · next hrun =>
      obtain ⟨_, hstore⟩ := run_rolledBack hrun
      exact ⟨by rw [hstore]; exact rows_ensure, rfl⟩
    · cases h

theorem apply_acknowledged {request : ChaosRequest} {body : ApplyBody} {now ts : ℚ} {rowId : String}
    {ensureFaults persistFaults : Faults Failure} {state : ChaosScenarioState}
    (h : (applyScenario env db request body now ts rowId ensureFaults persistFaults s).1 =
      .ok state) :
    ∃ ttl, (applyScenario env db request body now ts rowId ensureFaults persistFaults s).2.audit =
      s.audit ++ [applyRecord state ttl ts] := by
  unfold applyScenario at h ⊢
  split at h
  · cases h
  · dsimp only at h ⊢
    split at h
    · cases h
    · cases h
      exact ⟨_, rfl⟩

/-- A clear empties the table, or a failure has left it as it was. -/
theorem clearAll_rows (store : Store) (faults : Faults Failure) :
    (clearAll faults store).rows = [] ∨
    ((faults 0 ≠ none ∨ faults 1 ≠ none) ∧ clearAll faults store = store) := by
  unfold clearAll clearBlock
  rcases run_execute faults undo (onTable deleteRows) store with
    ⟨t, -, -, ht, hrun⟩ | ⟨hcause, e, reached, -, hrun⟩
  · rw [hrun]
    rcases store with _ | rows
    · cases ht
    · cases ht
      exact .inl rfl
  · rw [hrun]
    rcases hcause with h | h | ⟨e, h⟩
    · exact .inr ⟨.inl h, rfl⟩
    · exact .inr ⟨.inr h, rfl⟩
    · rcases store with _ | rows
      · exact .inl rfl
      · cases h

end Commands

/-- No row of the table lasts beyond `ts`. -/
def Expired (ts : ℚ) (store : Store) : Prop :=
  ∀ row ∈ store.rows, PyFloat.lt (.fin ts) row.expiresAt = false

/-- Since the last acknowledged command was a clear, nothing is active; an apply that is
not answered with success changes neither the rows nor the audit log; a clear that is
answered with success is in the audit log. -/
structure Truthful (env : ChaosEnv) (db : Database) (s : State) : Prop where
  cleared : ∀ record ts, s.audit.getLast? = some record → record.get "event" = .str "chaos.clear" →
    record.get "ts" = .float (.fin ts) → ∀ clock : ReadClock, ts ≤ clock.queriedAt →
      getActiveState env clock s.store = none
  acknowledged : ∀ request ts faults, (clearScenario env request ts faults s).1 = .ok () →
    (clearScenario env request ts faults s).2.audit = s.audit ++ [clearRecord env request ts]
  refused : ∀ request body now ts rowId ensureFaults persistFaults e,
    (applyScenario env db request body now ts rowId ensureFaults persistFaults s).1 = .error e →
      (applyScenario env db request body now ts rowId ensureFaults persistFaults s).2.store.rows =
          s.store.rows ∧
        (applyScenario env db request body now ts rowId ensureFaults persistFaults s).2.audit =
          s.audit

/-- The DELETE and the commit of a permitted clear succeed, or no row is left that has
not expired by then. Without chaos, or with another backend, nothing is ever active. -/
def ClearWorks (env : ChaosEnv) (s : State) : Op → Prop
  | .clear request ts faults => env.enabled = true → env.backendName = "db" →
    requireChaosRole env request = .ok () →
      (faults 0 = none ∧ faults 1 = none) ∨ Expired ts s.store
  | .apply .. => True

section Runs
variable {env : ChaosEnv} {db : Database} {s t : State}

theorem lt_of_le_of_lt {ts now : ℚ} {deadline : PyFloat} (h : ts ≤ now)
    (hlt : PyFloat.lt (.fin now) deadline = true) : PyFloat.lt (.fin ts) deadline = true := by
  cases deadline with
  | fin q => exact decide_eq_true (h.trans_lt (of_decide_eq_true hlt))
  | inf => rfl
  | ninf => cases hlt
  | nan => cases hlt

theorem Expired.inactive {ts : ℚ} {store : Store} (h : Expired ts store) {clock : ReadClock}
    (later : ts ≤ clock.queriedAt) : getActiveState env clock store = none := by
  rcases store with _ | rows
  · simp [getActiveState, readFromDb]
  · have hselected : selectActive clock.queriedAt rows = none := by
      have hnone :
          rows.filter (fun row => PyFloat.lt (.fin clock.queriedAt) row.expiresAt) = [] := by
        apply List.filter_eq_nil_iff.mpr
        intro row hrow hactive
        have hexpired := h row hrow
        rw [lt_of_le_of_lt later hactive] at hexpired
        cases hexpired
      rw [selectActive, hnone]
      simp
    simp [getActiveState, readFromDb, hselected]

/-- The last record is of a clear, and what was left has expired by then. -/
def ClearedIn (env : ChaosEnv) (s : State) : Prop :=
  env.enabled = true → env.backendName = "db" → ∀ record ts, s.audit.getLast? = some record →
    record.get "event" = .str "chaos.clear" → record.get "ts" = .float (.fin ts) →
      Expired ts s.store

theorem ClearedIn.apply {request : ChaosRequest} {body : ApplyBody} {now ts : ℚ} {rowId : String}
    {ensureFaults persistFaults : Faults Failure} (h : ClearedIn env s) :
    ClearedIn env
      (applyScenario env db request body now ts rowId ensureFaults persistFaults s).2 := by
  intro henabled hbackend record recordTs hlast hevent hts
  rcases hanswer : (applyScenario env db request body now ts rowId ensureFaults persistFaults s).1
    with e | state
  · obtain ⟨hrows, haudit⟩ := apply_refused hanswer
    rw [haudit] at hlast
    intro row hrow
    rw [hrows] at hrow
    exact h henabled hbackend record recordTs hlast hevent hts row hrow
  · obtain ⟨ttl, haudit⟩ := apply_acknowledged hanswer
    rw [haudit, List.getLast?_concat] at hlast
    obtain rfl := Option.some.inj hlast
    have happly : (applyRecord state ttl ts).get "event" = .str "chaos.apply" := rfl
    rw [happly] at hevent
    exact absurd (Json.str.inj hevent) (by decide)

theorem ClearedIn.clear {request : ChaosRequest} {ts : ℚ} {faults : Faults Failure}
    (h : ClearedIn env s) (works : ClearWorks env s (.clear request ts faults)) :
    ClearedIn env (clearScenario env request ts faults s).2 := by
  intro henabled hbackend record recordTs hlast hevent hts
  unfold clearScenario at hlast ⊢
  split at hlast
  · exact h henabled hbackend record recordTs hlast hevent hts
  · next hrole =>
    rw [List.getLast?_concat] at hlast
    obtain rfl := Option.some.inj hlast
    have hsame : ts = recordTs := by
      cases hts
      rfl
    subst hsame
    intro row hrow
    rcases clearAll_rows s.store faults with hempty | ⟨hcause, hstore⟩
    · rw [hempty] at hrow
      cases hrow
    · rw [hstore] at hrow
      rcases works henabled hbackend hrole with ⟨hdelete, hcommit⟩ | hexpired
      · rcases hcause with h | h
        · exact absurd hdelete h
        · exact absurd hcommit h
      · exact hexpired row hrow

theorem ClearedIn.step {op : Op} (h : ClearedIn env s) (works : ClearWorks env s op)
    (hstep : step env db s op = some t) : ClearedIn env t := by
  obtain rfl := Option.some.inj hstep
  cases op with
  | apply request body now ts rowId ensureFaults persistFaults => exact h.apply
  | clear request ts faults => exact h.clear works

/-- In a run whose clears work, the answers are true in every state. -/
theorem answers_truthful (env : ChaosEnv) (db : Database) (before : Store) {ops : List Op}
    (h : exec (step env db) (start before) ops = some s)
    (works : Along (ClearWorks env) (step env db) (start before) ops) : Truthful env db s := by
  have hcleared : ClearedIn env s := by
    refine exec_invariant_along (fun _ _ _ hin hworks hstep => ClearedIn.step hin hworks hstep) h
      works ?_
    intro _ _ record ts hlast
    cases hlast
  constructor
  · intro record ts hlast hevent hts clock hlater
    by_contra hactive
    obtain ⟨state, hstate⟩ := Option.ne_none_iff_exists'.mp hactive
    obtain ⟨henabled, hbackend⟩ := getActiveState_enabled hstate
    exact hactive
      ((hcleared henabled hbackend record ts hlast hevent hts).inactive hlater)
  · intro request ts faults hok
    unfold clearScenario at hok ⊢
    split at hok
    · cases hok
    · rfl
  · intro request body now ts rowId ensureFaults persistFaults e hanswer
    exact apply_refused hanswer

end Runs

def drillState : ChaosScenarioState :=
  chaosState sampleEnv operator
    ⟨"payment-timeout", "both", 60, some "say \"drill\"", by decide, by decide, by decide,
      by decide⟩
    ⟨"payment-timeout", ["http.timeout", "path:/api/payments"]⟩ 1000

/-- The DELETE fails, the answer is `ok` all the same, and the drill goes on. -/
theorem clear_in_vain : ∃ s, exec (step sampleEnv ⟨false⟩) (start none)
      [.apply operator drill 1000 1000 "row" noFaults noFaults,
        .clear operator 1010 fun _ => some .statement] = some s ∧
    s.audit.getLast? = some (clearRecord sampleEnv operator 1010) ∧
    (∃ clock : ReadClock, 1010 ≤ clock.queriedAt ∧
      getActiveState sampleEnv clock s.store = some drillState) ∧
    ¬ Truthful sampleEnv ⟨false⟩ s := by
  have hrun : exec (step sampleEnv ⟨false⟩) (start none)
      [.apply operator drill 1000 1000 "row" noFaults noFaults,
        .clear operator 1010 fun _ => some .statement] =
      some ⟨some [chaosRow sampleEnv "row" drillState],
        [applyRecord drillState 60 1000, clearRecord sampleEnv operator 1010]⟩ := rfl
  have hactive : getActiveState sampleEnv ⟨1020, 1020, 1020, le_rfl⟩
      (some [chaosRow sampleEnv "row" drillState]) = some drillState := by
    have hholds : Holds sampleEnv (some [chaosRow sampleEnv "row" drillState])
        (some (drillState, 1000 + (60 : Int))) := .row rfl (uniqueKeys_chaosState _ _ _ _) rfl rfl
    rw [hholds.getActiveState (by decide +kernel) (by decide +kernel),
      ExpiringRegister.read_some_iff]
    exact ⟨_, rfl, by decide +kernel⟩
  have hlater : (1010 : ℚ) ≤ 1020 := by norm_num
  refine ⟨_, hrun, rfl, ⟨_, hlater, hactive⟩, ?_⟩
  intro htruthful
  have hnone := htruthful.cleared _ 1010 rfl rfl rfl ⟨1020, 1020, 1020, le_rfl⟩ hlater
  rw [hactive] at hnone
  cases hnone

def rehearsal : List Op :=
  [.apply operator drill 1000 1000 "row" noFaults noFaults, .clear operator 1010 noFaults,
    .apply operator drill 1020 1020 "row" noFaults fun n => if n = 1 then some .statement else none]

/-- The INSERT of the second drill fails. -/
theorem answers_truthful_sample :
    ∃ s, exec (step sampleEnv ⟨true⟩) (start none) rehearsal = some s ∧
      Truthful sampleEnv ⟨true⟩ s := by
  have hrun : ∃ s, exec (step sampleEnv ⟨true⟩) (start none) rehearsal = some s := ⟨_, rfl⟩
  obtain ⟨s, hrun⟩ := hrun
  refine ⟨s, hrun, answers_truthful sampleEnv ⟨true⟩ none hrun ?_⟩
  refine ⟨trivial, fun t ht => ⟨fun _ _ _ => .inl ⟨rfl, rfl⟩, fun u hu => ⟨trivial, ?_⟩⟩⟩
  intro _ _
  trivial

end ChaosFaults
