import CrmPortal.SessionGate

/-!
# The middleware stack

Every request passes the middlewares in the order in which they are stacked, the one
added last first. Each may answer itself or hand the request on; what they tell the
handlers they write into the attributes of `request.state`.
-/

namespace MiddlewareStack

open PyValue SessionGate SessionLookup

def setAttribute (attrs : Obj) (name : String) (v : Json) : Obj :=
  (name, v) :: attrs.filter fun attr => decide (attr.1 ≠ name)

theorem lookup_setAttribute_self (attrs : Obj) (name : String) (v : Json) :
    List.lookup name (setAttribute attrs name v) = some v := by
  rw [setAttribute, List.lookup_cons, beq_self_eq_true]

theorem lookup_filter_ne {β : Type} {name other : String} (h : other ≠ name)
    (attrs : List (String × β)) :
    List.lookup other (attrs.filter fun attr => decide (attr.1 ≠ name)) =
      List.lookup other attrs := by
  induction attrs with
  | nil => rfl
  | cons attr attrs ih =>
    by_cases hname : attr.1 = name
    · have hother : (other == attr.1) = false := beq_false_of_ne fun heq => h (heq.trans hname)
      rw [List.filter_cons_of_neg (by simp [hname]), List.lookup_cons, hother]
      exact ih
    · rw [List.filter_cons_of_pos (by simp [hname]), List.lookup_cons, List.lookup_cons, ih]

theorem lookup_setAttribute_of_ne {name other : String} (h : other ≠ name) (attrs : Obj)
    (v : Json) : List.lookup other (setAttribute attrs name v) = List.lookup other attrs := by
  rw [setAttribute, List.lookup_cons, beq_false_of_ne h]
  exact lookup_filter_ne h attrs

structure WorkflowContext where
  workflowId : String
  step : String

/-- A pattern `^start` or, for a whole segment, `^start(?:/|$)`. -/
structure WorkflowRule where
  start : String
  wholeSegment : Bool
  context : WorkflowContext

def defaultRules : List WorkflowRule :=
  [⟨"/shop", true, ⟨"browse-catalog", "catalog"⟩⟩,
    ⟨"/api/products", false, ⟨"browse-catalog", "product-list"⟩⟩,
    ⟨"/api/cart", false, ⟨"add-to-cart", "cart"⟩⟩,
    ⟨"/api/orders", false, ⟨"checkout", "order"⟩⟩,
    ⟨"/api/payments", false, ⟨"checkout", "payment"⟩⟩,
    ⟨"/api/shipments", false, ⟨"checkout", "shipment"⟩⟩,
    ⟨"/api/customers", false, ⟨"crm-lead-capture", "customer"⟩⟩,
    ⟨"/api/campaigns", false, ⟨"admin-analytics", "campaigns"⟩⟩,
    ⟨"/api/analytics", false, ⟨"admin-analytics", "analytics"⟩⟩,
    ⟨"/api/admin/chaos", false, ⟨"chaos-control", "admin"⟩⟩]

/-- `$` matches at the end, also before a last line feed. -/
def WorkflowRule.matchesPath (rule : WorkflowRule) (path : String) : Bool :=
  startsWith path rule.start && (!rule.wholeSegment ||
    match path.toList.drop rule.start.length with
    | [] => true
    | ['\n'] => true
    | c :: _ => c == '/')

def resolveWorkflow (path : String) : WorkflowContext :=
  match defaultRules.find? fun rule => rule.matchesPath path with
  | some rule => rule.context
  | none => ⟨"other", "unmapped"⟩

/-- The request, and what the middlewares draw, generate or find while it passes. -/
structure Incoming where
  gate : GateRequest
  requestIdHeader : Option String
  correlationHeader : String
  traceId : String
  freshRequestId : String
  freshCorrelationId : String
  nonce : String
  simulatedError : Bool
  preflight : Bool

/-- An answer from the stack itself. -/
inductive EarlyReply where
  | gate (reply : Reply)
  | failed (e : GateExc)
  | simulatedError
  | preflight

abbrev Middleware := Incoming → Obj → Except EarlyReply Obj

def requestId (py : Builtins) (incoming : Incoming) : String :=
  let id := match incoming.requestIdHeader with
    | some header => if header = "" then incoming.freshRequestId else py.strip header
    | none => incoming.freshRequestId
  if 128 < id.length then incoming.freshRequestId else id

def requestIdMiddleware (py : Builtins) : Middleware := fun incoming attrs =>
  .ok (setAttribute attrs "request_id" (.str (requestId py incoming)))

def workflowContextMiddleware : Middleware := fun incoming attrs =>
  let wf := resolveWorkflow incoming.gate.path
  .ok (setAttribute attrs "workflow"
    (.obj [("workflow_id", .str wf.workflowId), ("step", .str wf.step)]))

def securityHeadersMiddleware : Middleware := fun incoming attrs =>
  .ok (setAttribute attrs "csp_nonce" (.str incoming.nonce))

/-- `build_correlation_id`: the active trace, the header of the caller, a new one. -/
def buildCorrelationId (incoming : Incoming) : String :=
  if incoming.traceId ≠ "" then incoming.traceId
  else if incoming.correlationHeader ≠ "" then incoming.correlationHeader
  else incoming.freshCorrelationId

def tracingMiddleware : Middleware := fun incoming attrs =>
  .ok (setAttribute attrs "correlation_id" (.str (buildCorrelationId incoming)))

def metricsMiddleware : Middleware := fun _ attrs => .ok attrs

/-- The dictionary of `get_current_user`. -/
def userJson (data : SessionData) : Json :=
  .obj [("user_id", .int data.userId), ("username", .str data.username), ("role", .str data.role)]

def sessionGateMiddleware (lookup : Lookup) (s : GateState) : Middleware := fun incoming attrs =>
  match (serve incoming.gate lookup s).1 with
  | .ok (.passedOn (some data)) => .ok (setAttribute attrs "current_user" (userJson data))
  | .ok (.passedOn none) => .ok attrs
  | .ok reply => .error (.gate reply)
  | .error e => .error (.failed e)

def chaosMiddleware : Middleware := fun incoming attrs =>
  if incoming.simulatedError then .error .simulatedError else .ok attrs

def geoLatencyMiddleware : Middleware := fun _ attrs => .ok attrs

def corsMiddleware : Middleware := fun incoming attrs =>
  if incoming.preflight then .error .preflight else .ok attrs

/-- The stack of `main.py`, the outermost first. -/
def stack (py : Builtins) (lookup : Lookup) (s : GateState) : List Middleware :=
  [requestIdMiddleware py, workflowContextMiddleware, securityHeadersMiddleware,
    tracingMiddleware, metricsMiddleware, sessionGateMiddleware lookup s, chaosMiddleware,
    geoLatencyMiddleware, corsMiddleware]

/-- The attributes that the router sees, unless an answer came before. -/
def through (incoming : Incoming) : List Middleware → Obj → Except EarlyReply Obj
  | [], attrs => .ok attrs
  | m :: rest, attrs => do through incoming rest (← m incoming attrs)

def Keeps (name : String) (m : Middleware) : Prop :=
  ∀ incoming attrs attrs', m incoming attrs = .ok attrs' →
    List.lookup name attrs' = List.lookup name attrs

theorem keeps_of_set {name other : String} (h : other ≠ name) (value : Incoming → Json) :
    Keeps other fun incoming attrs => .ok (setAttribute attrs name (value incoming)) := by
  intro incoming attrs attrs' hset
  cases hset
  exact lookup_setAttribute_of_ne h attrs _

theorem keeps_of_refusal {name : String} (refuses : Incoming → Bool) (reply : EarlyReply) :
    Keeps name fun incoming attrs => if refuses incoming then .error reply else .ok attrs := by
  intro incoming attrs attrs' h
  dsimp only at h
  split at h
  · cases h
  · cases h
    rfl

theorem keeps_sessionGate {name : String} (lookup : Lookup) (s : GateState)
    (h : name ≠ "current_user") : Keeps name (sessionGateMiddleware lookup s) := by
  intro incoming attrs attrs' hpass
  unfold sessionGateMiddleware at hpass
  split at hpass
  · cases hpass
    exact lookup_setAttribute_of_ne h attrs _
  · cases hpass
    rfl
  · cases hpass
  · cases hpass

theorem through_keeps {name : String} {incoming : Incoming} {ms : List Middleware}
    (keeps : ∀ m ∈ ms, Keeps name m) {attrs attrs' : Obj}
    (h : through incoming ms attrs = .ok attrs') :
    List.lookup name attrs' = List.lookup name attrs := by
  induction ms generalizing attrs with
  | nil =>
    cases h
    rfl
  | cons m ms ih =>
    rw [through] at h
    rcases hm : m incoming attrs with e | next
    · rw [hm] at h
      cases h
    · rw [hm] at h
      have hrest := ih (fun m hmem => keeps m (List.mem_cons_of_mem _ hmem)) h
      exact hrest.trans (keeps m List.mem_cons_self incoming attrs next hm)

theorem through_append_ok_iff {incoming : Incoming} {outer inner : List Middleware}
    {attrs attrs' : Obj} : through incoming (outer ++ inner) attrs = .ok attrs' ↔
      ∃ between, through incoming outer attrs = .ok between ∧
        through incoming inner between = .ok attrs' := by
  induction outer generalizing attrs with
  | nil => simp [through]
  | cons m outer ih =>
    rw [List.cons_append, through, through]
    rcases m incoming attrs with e | next
    · constructor
      · intro h
        cases h
      · rintro ⟨_, h, -⟩
        cases h
    · exact ih

/-- A gated request reaches the router as the request of the user whom the gate found. -/
theorem through_currentUser {py : Builtins} {lookup : Lookup} {s : GateState} {incoming : Incoming}
    {attrs attrs' : Obj} (gated : incoming.gate.isPublic = false)
    (h : through incoming (stack py lookup s) attrs = .ok attrs') :
    ∃ data, (serve incoming.gate lookup s).1 = .ok (.passedOn (some data)) ∧
      List.lookup "current_user" attrs' = some (userJson data) := by
  have hsplit : stack py lookup s = [requestIdMiddleware py, workflowContextMiddleware,
      securityHeadersMiddleware, tracingMiddleware, metricsMiddleware] ++
      ([sessionGateMiddleware lookup s] ++
        [chaosMiddleware, geoLatencyMiddleware, corsMiddleware]) := rfl
  rw [hsplit, through_append_ok_iff] at h
  obtain ⟨outside, -, h⟩ := h
  obtain ⟨inside, hgate, hinner⟩ := through_append_ok_iff.mp h
  have hkept : List.lookup "current_user" attrs' = List.lookup "current_user" inside := by
    have hsame : Keeps "current_user" fun _ attrs => .ok attrs := fun _ _ _ h => by cases h; rfl
    refine through_keeps ?_ hinner
    simp only [List.forall_mem_cons, List.not_mem_nil, IsEmpty.forall_iff, implies_true, and_true]
    exact ⟨keeps_of_refusal _ _, hsame, keeps_of_refusal _ _⟩
  simp only [through] at hgate
  unfold sessionGateMiddleware at hgate
  split at hgate
  · next data hserve =>
    cases hgate
    exact ⟨data, hserve, hkept.trans (lookup_setAttribute_self _ _ _)⟩
  · next hserve =>
    obtain ⟨data, _, _, hnone, -⟩ := passedOn_only_with_user incoming.gate lookup s gated hserve
    cases hnone
  · cases hgate
  · cases hgate

/-- The middlewares set five attributes and no other. -/
theorem stack_keeps {name : String} (py : Builtins) (lookup : Lookup) (s : GateState)
    (other : name ∉ ["request_id", "workflow", "csp_nonce", "correlation_id", "current_user"]) :
    ∀ m ∈ stack py lookup s, Keeps name m := by
  simp only [List.mem_cons, List.not_mem_nil, or_false, not_or] at other
  obtain ⟨hrequest, hworkflow, hnonce, hcorrelation, huser⟩ := other
  have hsame : Keeps name fun _ attrs => .ok attrs := fun _ _ _ h => by cases h; rfl
  simp only [stack, List.forall_mem_cons, List.not_mem_nil, IsEmpty.forall_iff, implies_true,
    and_true]
  exact ⟨keeps_of_set hrequest _, keeps_of_set hworkflow _, keeps_of_set hnonce _,
    keeps_of_set hcorrelation _, hsame, keeps_sessionGate lookup s huser,
    keeps_of_refusal _ _, hsame, keeps_of_refusal _ _⟩

end MiddlewareStack
