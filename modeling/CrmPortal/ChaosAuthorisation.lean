import CrmPortal.ChaosStore
import CrmPortal.MiddlewareStack

/-!
# Who may run chaos

The session gate hands the user on as `request.state.current_user`. The role
dependency of both chaos routers, and the hash that signs a scenario, read
`request.state.session`.
-/

namespace ChaosAuthorisation

open PyValue ChaosStore SessionGate SessionLookup MiddlewareStack

/-- The routes of the two routers; each of them has the role dependency. -/
def chaosPaths : List String :=
  ["/api/admin/chaos/presets", "/api/admin/chaos/state", "/api/admin/chaos/apply",
    "/api/admin/chaos/clear", "/admin/chaos"]

theorem chaosPaths_gated {path : String} (h : path ∈ chaosPaths) :
    publicPrefixes.any (startsWith path) = false := by
  have hall : chaosPaths.all (fun path => !publicPrefixes.any (startsWith path)) = true := by
    decide +kernel
  simpa using List.all_eq_true.mp hall path h

/-- What dependency and endpoint read of `request.state`. -/
def chaosRequest (attrs : Obj) : ChaosRequest where
  session := match List.lookup "session" attrs with
    | some (.obj fields) => some fields
    | _ => none
  requestId := match List.lookup "request_id" attrs with
    | some (.str id) => some id
    | _ => none

/-- The dependency admits exactly the users of the chaos role, and what such a user
applies is signed with the hash of the user's id. -/
structure Agrees (env : ChaosEnv) (attrs : Obj) (data : SessionData) : Prop where
  admits : requireChaosRole env (chaosRequest attrs) = .ok () ↔
    normalized env.py data.role = env.adminRole
  signs : ∀ body now rowId store state,
    (applyScenario env (chaosRequest attrs) body now rowId store).1 = .ok state →
      state.appliedBy = env.sha256Start ((Json.int data.userId).toStr env.py)

section Admission
variable {env : ChaosEnv} {incoming : Incoming} {lookup : Lookup} {s : GateState} {attrs : Obj}

/-- No middleware sets `request.state.session`. -/
theorem session_missing (h : through incoming (stack env.py lookup s) [] = .ok attrs) :
    (chaosRequest attrs).session = none := by
  have hnone : List.lookup "session" attrs = none :=
    through_keeps (stack_keeps env.py lookup s (by decide)) h
  rw [chaosRequest, hnone]

theorem requireChaosRole_without_session {request : ChaosRequest} (h : request.session = none) :
    requireChaosRole env request = .error ⟨403, "role_required"⟩ := by
  have hroles : extractRoles env.py request = .ok [] := by
    rw [extractRoles, h]
    rfl
  rw [requireChaosRole, hroles]
  simp

theorem applyScenario_refused {request : ChaosRequest} {e : HttpError}
    (h : requireChaosRole env request = .error e) (body : ApplyBody) (now : ℚ) (rowId : String)
    (store : Store) : (applyScenario env request body now rowId store).1 = .error e := by
  have hcheck : checkApply env request body = .error e := by
    rw [checkApply, h]
    rfl
  rw [applyScenario, hcheck]

/-- The user whom the gate found is in the attributes, and is refused all the same: the
dependency is right about the users of another role. -/
theorem chaos_admission_iff (path : incoming.gate.path ∈ chaosPaths)
    (h : through incoming (stack env.py lookup s) [] = .ok attrs) :
    ∃ data, (serve incoming.gate lookup s).1 = .ok (.passedOn (some data)) ∧
      List.lookup "current_user" attrs = some (userJson data) ∧
      (Agrees env attrs data ↔ normalized env.py data.role ≠ env.adminRole) := by
  obtain ⟨data, hserve, huser⟩ := through_currentUser (chaosPaths_gated path) h
  have hrefused : requireChaosRole env (chaosRequest attrs) = .error ⟨403, "role_required"⟩ :=
    requireChaosRole_without_session (session_missing h)
  refine ⟨data, hserve, huser, ?_⟩
  constructor
  · intro hagrees hrole
    have hok := hagrees.admits.mpr hrole
    rw [hrefused] at hok
    cases hok
  · intro hrole
    constructor
    · constructor
      · intro hok
        rw [hrefused] at hok
        cases hok
      · intro heq
        exact absurd heq hrole
    · intro body now rowId store state hstate
      rw [applyScenario_refused hrefused] at hstate
      cases hstate

end Admission

def freshGate : GateState := ⟨1, [], .started⟩

/-- The session of `ada` is in the table. -/
def signedIn (role : String) : Lookup :=
  .ends ⟨1, 1⟩ (.ok (some ⟨"c0ffee", 7, "ada", role, "password"⟩))

def applyRequest : Incoming where
  gate := ⟨"/api/admin/chaos/apply", "application/json", ⟨some "c0ffee", none⟩⟩
  requestIdHeader := some "4f2a"
  correlationHeader := ""
  traceId := ""
  freshRequestId := "9d"
  freshCorrelationId := "1b"
  nonce := "n"
  simulatedError := false
  preflight := false

theorem chaos_operator_refused : ∃ attrs,
    through applyRequest (stack sampleEnv.py (signedIn "chaos-operator") freshGate) [] =
      .ok attrs ∧
    (serve applyRequest.gate (signedIn "chaos-operator") freshGate).1 =
      .ok (.passedOn (some ⟨7, "ada", "chaos-operator"⟩)) ∧
    ¬ Agrees sampleEnv attrs ⟨7, "ada", "chaos-operator"⟩ := by
  have hthrough : ∃ attrs, through applyRequest
      (stack sampleEnv.py (signedIn "chaos-operator") freshGate) [] = .ok attrs := ⟨_, rfl⟩
  obtain ⟨attrs, hthrough⟩ := hthrough
  refine ⟨attrs, hthrough, rfl, ?_⟩
  intro hagrees
  have hok := hagrees.admits.mpr (by decide +kernel)
  rw [requireChaosRole_without_session (session_missing hthrough)] at hok
  cases hok

theorem chaos_admission_viewer : ∃ attrs data,
    through applyRequest (stack sampleEnv.py (signedIn "viewer") freshGate) [] = .ok attrs ∧
    (serve applyRequest.gate (signedIn "viewer") freshGate).1 = .ok (.passedOn (some data)) ∧
    List.lookup "current_user" attrs = some (userJson data) ∧
    (Agrees sampleEnv attrs data ↔
      normalized sampleEnv.py data.role ≠ sampleEnv.adminRole) := by
  have hthrough : ∃ attrs, through applyRequest
      (stack sampleEnv.py (signedIn "viewer") freshGate) [] = .ok attrs := ⟨_, rfl⟩
  obtain ⟨attrs, hthrough⟩ := hthrough
  obtain ⟨data, hrest⟩ := chaos_admission_iff (by decide) hthrough
  exact ⟨attrs, data, hthrough, hrest⟩

end ChaosAuthorisation
