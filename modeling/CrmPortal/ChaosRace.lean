import CrmPortal.ChaosStore
import CrmPortal.Library.ReplaceAll

/-!
# Applies of several replicas at once

Each accepted `apply_scenario` runs the transaction of `_persist`: DELETE, INSERT,
commit. `applied_at` is taken before the transaction starts. `_ensure_table` comes
first, so the table exists when the first DELETE starts.
-/

namespace ChaosRace

open PyValue JsonText ChaosStore Schedule

/-- An apply that has passed its checks, at the time `now` that becomes `applied_at`. -/
structure AcceptedApply (env : ChaosEnv) where
  request : ChaosRequest
  body : ApplyBody
  payload : ApplyRequest env.maxTtlSeconds
  preset : ChaosScenario
  accepted : checkApply env request body = .ok (payload, preset)
  now : ℚ
  rowId : String

def AcceptedApply.state {env : ChaosEnv} (a : AcceptedApply env) : ChaosScenarioState :=
  chaosState env a.request a.payload a.preset a.now

def AcceptedApply.row {env : ChaosEnv} (a : AcceptedApply env) : ChaosRow :=
  chaosRow env a.rowId a.state

variable {Run : Type} [DecidableEq Run] {env : ChaosEnv} {applies : Run → AcceptedApply env}

/-- One statement of one of the applies. -/
def persistStep (applies : Run → AcceptedApply env) :
    ReplaceAll.State Run ChaosRow → ReplaceAll.Action Run →
      Option (ReplaceAll.State Run ChaosRow) :=
  ReplaceAll.step fun r => (applies r).row

/-- Once every apply that has begun is committed, there is one row; and what was applied
before an acknowledged apply is not read again, at any time. -/
structure LatestStands (applies : Run → AcceptedApply env) (s : ReplaceAll.State Run ChaosRow) :
    Prop where
  oneRow : s.commits ≠ [] → s.Quiet → s.rows.length = 1
  superseded : ∀ a b, b ∈ s.commits → (applies a).now < (applies b).now →
    ∀ clock, getActiveState env clock (some s.rows) ≠ some (applies a).state

/-- A DELETE starts while no other apply is between its DELETE and its commit, and no
apply of a later time is acknowledged. -/
def InTurn (applies : Run → AcceptedApply env) :
    ReplaceAll.State Run ChaosRow → ReplaceAll.Action Run → Prop :=
  ReplaceAll.InTurn fun r => (applies r).now

omit [DecidableEq Run] in
/-- A single row yields the state that it was written from, if any. -/
theorem getActiveState_row {clock : ReadClock} {state : ChaosScenarioState} {r : Run}
    (h : getActiveState env clock (some [(applies r).row]) = some state) :
    state = (applies r).state := by
  obtain ⟨henabled, hbackend⟩ := getActiveState_enabled h
  have hholds : Holds env (some [(applies r).row]) (some ((applies r).state,
      (applies r).now + (min (applies r).payload.ttlSeconds env.maxTtlSeconds : Int))) :=
    .row rfl (uniqueKeys_chaosState _ _ _ _) rfl rfl
  rw [hholds.getActiveState henabled hbackend] at h
  obtain ⟨_, hregister, _⟩ := ExpiringRegister.read_some_iff.mp h
  exact (Prod.mk.inj (Option.some.inj hregister)).1.symm

instance [Fintype Run] (s : ReplaceAll.State Run ChaosRow) (a : ReplaceAll.Action Run) :
    Decidable (InTurn applies s a) :=
  inferInstanceAs (Decidable (ReplaceAll.InTurn _ s a))

theorem latest_apply_stands (applies : Run → AcceptedApply env) (before : List ChaosRow)
    {schedule : List (ReplaceAll.Action Run)} {s : ReplaceAll.State Run ChaosRow}
    (h : exec (persistStep applies) (ReplaceAll.start before) schedule = some s)
    (inTurn : Along (InTurn applies) (persistStep applies) (ReplaceAll.start before) schedule) :
    LatestStands applies s := by
  have hserial := ReplaceAll.serial_exec h inTurn
  constructor
  · intro hsome _
    obtain ⟨hrows, -⟩ := hserial.last _ (List.getLast?_eq_some_getLast hsome)
    rw [hrows]
    rfl
  · intro a b hb hlater clock hactive
    have hsome : s.commits ≠ [] := List.ne_nil_of_mem hb
    obtain ⟨hrows, hmax⟩ := hserial.last _ (List.getLast?_eq_some_getLast hsome)
    rw [hrows] at hactive
    have hstate := congrArg ChaosScenarioState.appliedAt (getActiveState_row hactive)
    have hsame : (applies a).now = (applies (s.commits.getLast hsome)).now :=
      PyFloat.fin.inj hstate
    exact absurd (hmax b hb) (not_le.mpr (hsame ▸ hlater))

def longDrill : AcceptedApply sampleEnv where
  request := operator
  body := ⟨"crm-admin-abuse", some "crm", some 3600, none⟩
  payload := ⟨"crm-admin-abuse", "crm", 3600, none, by decide, by decide, by decide, by decide⟩
  preset := ⟨"crm-admin-abuse", ["http.burst", "path:/api/admin"]⟩
  accepted := rfl
  now := 1000
  rowId := "long"

def shortDrill : AcceptedApply sampleEnv where
  request := operator
  body := ⟨"db-slow-checkout", some "crm", some 10, none⟩
  payload := ⟨"db-slow-checkout", "crm", 10, none, by decide, by decide, by decide, by decide⟩
  preset := ⟨"db-slow-checkout", ["db.slow", "workflow:checkout"]⟩
  accepted := rfl
  now := 1001
  rowId := "short"

/-- A drill of an hour, and a second later one of ten seconds. -/
def drills (later : Bool) : AcceptedApply sampleEnv := bif later then shortDrill else longDrill

/-- Neither DELETE sees the row of the other drill: when the later one has expired, the
earlier one is back. -/
theorem overlapping_applies_resurface : ∃ schedule s,
    exec (persistStep drills) (ReplaceAll.start []) schedule = some s ∧ s.rows.length = 2 ∧
      (∃ clock, getActiveState sampleEnv clock (some s.rows) = some (drills false).state) ∧
      ¬ LatestStands drills s := by
  have hrun : exec (persistStep drills) (ReplaceAll.start []) [.startDelete false,
      .startDelete true, .finishDelete false, .finishDelete true, .insert false, .insert true,
      .commit false, .commit true] = some ⟨[⟨0, (drills false).row, none⟩,
        ⟨1, (drills true).row, none⟩], 2, _, [false, true]⟩ := rfl
  have hback : getActiveState sampleEnv ⟨2000, 2000, 2000, le_rfl⟩
      (some [(drills false).row, (drills true).row]) = some (drills false).state := by
    have hexpired : PyFloat.lt (.fin 2000) (drills true).row.expiresAt = false := by decide +kernel
    rw [← List.singleton_append, getActiveState_concat_expired hexpired]
    have hholds : Holds sampleEnv (some [(drills false).row])
        (some ((drills false).state, 1000 + (3600 : Int))) :=
      .row rfl (uniqueKeys_chaosState _ _ _ _) rfl rfl
    rw [hholds.getActiveState (by decide +kernel) (by decide +kernel),
      ExpiringRegister.read_some_iff]
    exact ⟨_, rfl, by decide +kernel⟩
  refine ⟨_, _, hrun, rfl, ⟨_, hback⟩, ?_⟩
  intro hlatest
  exact hlatest.superseded false true (by decide) (by decide +kernel) _ hback

/-- The same drills, one after the other. -/
theorem latest_apply_stands_sample : ∃ s, exec (persistStep drills) (ReplaceAll.start [])
      (ReplaceAll.transaction false ++ ReplaceAll.transaction true) = some s ∧
    LatestStands drills s := by
  have hturn : Along (InTurn drills) (persistStep drills) (ReplaceAll.start [])
      (ReplaceAll.transaction false ++ ReplaceAll.transaction true) := by decide +kernel
  exact ⟨_, rfl, latest_apply_stands drills [] rfl hturn⟩

end ChaosRace
