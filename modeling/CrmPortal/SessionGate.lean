import Mathlib.Data.List.Infix
import CrmPortal.SessionLookup

/-!
# The session gate

`SessionGateMiddleware.dispatch`: a request of a public path goes through, every
other one takes an admission permit, looks its session up in the executor under a
time limit, and gives the permit back in a `finally`.
-/

namespace SessionGate

open PyValue Accounts SessionLookup Transaction

def publicPrefixes : List String :=
  ["/login", "/static/", "/health", "/ready", "/metrics", "/api/auth/", "/favicon",
    "/api/customers", "/api/invoices", "/api/tickets", "/api/orders",
    "/api/integrations", "/api/observability/", "/api/analytics/track"]

structure GateRequest where
  path : String
  accept : String
  credentials : Credentials

/-- `text.startswith(prefix)`. -/
def startsWith (text start : String) : Bool := start.toList.isPrefixOf text.toList

def GateRequest.isPublic (req : GateRequest) : Bool := publicPrefixes.any (startsWith req.path)

def GateRequest.wantsJson (req : GateRequest) : Bool :=
  decide ("application/json".toList <:+: req.accept.toList) || startsWith req.path "/api/"

inductive Reply where
  | passedOn (currentUser : Option SessionData)
  | unavailable (reason : String)
  | authenticationRequired
  | redirectToLogin

/-- The status of the answers that the gate gives itself. -/
def Reply.status : Reply → Option Nat
  | .passedOn _ => none
  | .unavailable _ => some 503
  | .authenticationRequired => some 401
  | .redirectToLogin => some 302

/-- The body and the Retry-After header of the JSON answers. -/
def Reply.body : Reply → Obj × Option String
  | .unavailable reason => ([("error", .str "Authentication service temporarily unavailable"),
      ("reason", .str reason)], some "5")
  | .authenticationRequired => ([("error", .str "Authentication required")], none)
  | _ => ([], none)

inductive GateExc where
  | timeoutError
  | sessionLookupUnavailable (e : SessionLookupUnavailable)
  | cancelledError
  deriving DecidableEq

/-- An early return or an exception. -/
inductive GateExit where
  | returned (reply : Reply)
  | raised (e : GateExc)

inductive PermitEvent where
  | acquired
  | released
  deriving DecidableEq

/-- The permits left, what was done with them, and the memory of the process. -/
structure GateState where
  permits : Nat
  events : List PermitEvent
  replica : Replica

/-- What happens to the lookup in the executor: it ends within the time limit, it
does not, or the request is cancelled meanwhile. -/
inductive Lookup where
  | ends (clock : Clock) (read : Except DbError (Option UserSession))
  | hangs
  | cancelled

abbrev Gate := Tx GateState GateExit

/-- `wait_for(_auth_inflight.acquire(), timeout=0.5)`: no permit got free in time. -/
def acquirePermit : Gate PUnit := fun s =>
  if s.permits = 0 then (.error (.raised .timeoutError), s)
  else (.ok ⟨⟩, { s with permits := s.permits - 1, events := s.events ++ [.acquired] })

def releasePermit (s : GateState) : GateState :=
  { s with permits := s.permits + 1, events := s.events ++ [.released] }

/-- `wait_for(loop.run_in_executor(_auth_executor, get_current_user, request), ...)`. -/
def lookupUser (sid : String) : Lookup → Gate (Option SessionData)
  | .hangs => Tx.raise (.raised .timeoutError)
  | .cancelled => Tx.raise (.raised .cancelledError)
  | .ends clock read => fun s =>
    match getCurrentUser sid clock read s.replica with
    | (.ok user, replica) => (.ok user, { s with replica := replica })
    | (.error e, replica) =>
      (.error (.raised (.sessionLookupUnavailable e)), { s with replica := replica })

def saturated : GateExit → Option (Gate PUnit)
  | .raised .timeoutError => some (Tx.raise (.returned (.unavailable "auth_saturated")))
  | _ => none

def lookupFailed : GateExit → Option (Gate (Option SessionData))
  | .raised .timeoutError => some (Tx.raise (.returned (.unavailable "auth_timeout")))
  | .raised (.sessionLookupUnavailable _) =>
    some (Tx.raise (.returned (.unavailable "auth_backend_error")))
  | _ => none

def dispatch (req : GateRequest) (lookup : Lookup) : Gate Reply :=
  if req.isPublic then return .passedOn none
  else do
    Tx.tryExcept acquirePermit saturated
    let user ← Tx.tryFinally
      (Tx.tryExcept (lookupUser req.credentials.sessionId lookup) lookupFailed) releasePermit
    match user with
    | some data => return .passedOn (some data)
    | none =>
      if req.wantsJson then return .authenticationRequired else return .redirectToLogin

/-- What comes out of `dispatch`: a reply, returned early or at the end, or an exception. -/
def serve (req : GateRequest) (lookup : Lookup) (s : GateState) :
    Except GateExc Reply × GateState :=
  match dispatch req lookup s with
  | (.ok reply, t) => (.ok reply, t)
  | (.error (.returned reply), t) => (.ok reply, t)
  | (.error (.raised e), t) => (.error e, t)

/-- A request that is let in has taken a permit and given it back. -/
def cycled (s : GateState) (replica : Replica) : GateState :=
  { s with events := s.events ++ [.acquired, .released], replica := replica }

/-- The answer where the lookup says whether there is a session. -/
def decided (req : GateRequest) : Option SessionData → Reply
  | some data => .passedOn (some data)
  | none => if req.wantsJson then .authenticationRequired else .redirectToLogin

section Outcomes
variable {req : GateRequest} {s : GateState}

theorem serve_public (lookup : Lookup) (h : req.isPublic = true) :
    serve req lookup s = (.ok (.passedOn none), s) := by
  unfold serve dispatch
  rw [if_pos h]
  rfl

theorem acquirePermit_none (h : s.permits = 0) :
    Tx.tryExcept acquirePermit saturated s =
      (.error (.returned (.unavailable "auth_saturated")), s) := by
  unfold Tx.tryExcept acquirePermit
  rw [if_pos h]
  rfl

theorem acquirePermit_some (h : s.permits ≠ 0) :
    Tx.tryExcept acquirePermit saturated s =
      (.ok ⟨⟩, { s with permits := s.permits - 1, events := s.events ++ [.acquired] }) := by
  unfold Tx.tryExcept acquirePermit
  rw [if_neg h]

theorem serve_saturated (lookup : Lookup) (h : req.isPublic = false) (full : s.permits = 0) :
    serve req lookup s = (.ok (.unavailable "auth_saturated"), s) := by
  unfold serve dispatch
  rw [if_neg (by simp [h]), Tx.bind_of_error _ (acquirePermit_none full)]

theorem released_acquired (full : s.permits ≠ 0) (replica : Replica) :
    releasePermit ⟨s.permits - 1, s.events ++ [.acquired], replica⟩ = cycled s replica := by
  have hpermits : s.permits - 1 + 1 = s.permits := Nat.succ_pred full
  simp [releasePermit, cycled, hpermits]

/-- The lookup decides what an admitted request gets. -/
theorem serve_admitted (lookup : Lookup) (h : req.isPublic = false) (full : s.permits ≠ 0) :
    serve req lookup s = match lookup with
      | .hangs => (.ok (.unavailable "auth_timeout"), cycled s s.replica)
      | .cancelled => (.error .cancelledError, cycled s s.replica)
      | .ends clock read =>
        match getCurrentUser req.credentials.sessionId clock read s.replica with
        | (.ok user, replica) => (.ok (decided req user), cycled s replica)
        | (.error _, replica) => (.ok (.unavailable "auth_backend_error"), cycled s replica) := by
  unfold serve dispatch
  rw [if_neg (by simp [h]), Tx.bind_of_ok _ (acquirePermit_some full)]
  cases lookup with
  | hangs =>
    have hrelease := released_acquired full s.replica
    simp [Tx.bind_apply, Tx.tryFinally, Tx.tryExcept, lookupUser, lookupFailed, hrelease]
  | cancelled =>
    have hrelease := released_acquired full s.replica
    simp [Tx.bind_apply, Tx.tryFinally, Tx.tryExcept, lookupUser, lookupFailed, hrelease]
  | ends clock read =>
    rcases hget : getCurrentUser req.credentials.sessionId clock read s.replica with
      ⟨_ | _ | data, replica⟩
    · have hrelease := released_acquired full replica
      simp [Tx.bind_apply, Tx.tryFinally, Tx.tryExcept, lookupUser, hget, lookupFailed, hrelease]
    · have hrelease := released_acquired full replica
      cases hjson : req.wantsJson <;>
        simp [Tx.bind_apply, Tx.tryFinally, Tx.tryExcept, lookupUser, hget, hrelease, decided,
          hjson]
    · have hrelease := released_acquired full replica
      simp [Tx.bind_apply, Tx.tryFinally, Tx.tryExcept, lookupUser, hget, hrelease, decided]

end Outcomes

/-- The lookup cannot be made, does not end in time, or its read fails. -/
def InfrastructureFailure (req : GateRequest) (lookup : Lookup) (s : GateState) : Prop :=
  s.permits = 0 ∨ lookup = .hangs ∨
    ∃ clock read, lookup = .ends clock read ∧
      ReadFails req.credentials.sessionId clock read s.replica

def permitEvents (req : GateRequest) (s : GateState) : List PermitEvent :=
  if req.isPublic ∨ s.permits = 0 then [] else [.acquired, .released]

section Gate
variable (req : GateRequest) (lookup : Lookup) (s : GateState)

theorem decided_not_unavailable (user : Option SessionData) (reason : String) :
    decided req user ≠ .unavailable reason := by
  cases user with
  | some data => intro h; cases h
  | none =>
    unfold decided
    cases req.wantsJson <;> simp

theorem decided_passedOn {user user' : Option SessionData}
    (h : decided req user = .passedOn user') :
    ∃ data, user = some data ∧ user' = some data := by
  cases user with
  | some data =>
    cases h
    exact ⟨data, rfl, rfl⟩
  | none =>
    unfold decided at h
    cases hjson : req.wantsJson <;> simp [hjson] at h

theorem decided_denied {user : Option SessionData}
    (h : decided req user = .authenticationRequired ∨ decided req user = .redirectToLogin) :
    user = none := by
  cases user with
  | none => rfl
  | some data => rcases h with h | h <;> cases h

/-- The replies that are not public, by what the lookup did. -/
theorem serve_cases :
    (req.isPublic = true ∧ serve req lookup s = (.ok (.passedOn none), s)) ∨
    (req.isPublic = false ∧ s.permits = 0 ∧
      serve req lookup s = (.ok (.unavailable "auth_saturated"), s)) ∨
    (req.isPublic = false ∧ s.permits ≠ 0 ∧ lookup = .hangs ∧
      serve req lookup s = (.ok (.unavailable "auth_timeout"), cycled s s.replica)) ∨
    (req.isPublic = false ∧ s.permits ≠ 0 ∧ lookup = .cancelled ∧
      serve req lookup s = (.error .cancelledError, cycled s s.replica)) ∨
    (∃ clock read user, req.isPublic = false ∧ s.permits ≠ 0 ∧ lookup = .ends clock read ∧
      (getCurrentUser req.credentials.sessionId clock read s.replica).1 = .ok user ∧
      serve req lookup s = (.ok (decided req user),
        cycled s (getCurrentUser req.credentials.sessionId clock read s.replica).2)) ∨
    (∃ clock read e, req.isPublic = false ∧ s.permits ≠ 0 ∧ lookup = .ends clock read ∧
      (getCurrentUser req.credentials.sessionId clock read s.replica).1 = .error e ∧
      serve req lookup s = (.ok (.unavailable "auth_backend_error"),
        cycled s (getCurrentUser req.credentials.sessionId clock read s.replica).2)) := by
  cases hpublic : req.isPublic with
  | true => exact Or.inl ⟨rfl, serve_public lookup hpublic⟩
  | false =>
    by_cases full : s.permits = 0
    · exact Or.inr (Or.inl ⟨rfl, full, serve_saturated lookup hpublic full⟩)
    have hserve := serve_admitted lookup hpublic full
    cases lookup with
    | hangs => exact Or.inr (Or.inr (Or.inl ⟨rfl, full, rfl, hserve⟩))
    | cancelled => exact Or.inr (Or.inr (Or.inr (Or.inl ⟨rfl, full, rfl, hserve⟩)))
    | ends clock read =>
      rcases hget : getCurrentUser req.credentials.sessionId clock read s.replica with
        ⟨e | user, replica⟩
      · refine Or.inr (Or.inr (Or.inr (Or.inr (Or.inr ⟨clock, read, e, rfl, full, rfl, ?_, ?_⟩))))
        · rw [hget]
        · simpa [hget] using hserve
      · refine Or.inr (Or.inr (Or.inr (Or.inr (Or.inl ?_))))
        refine ⟨clock, read, user, rfl, full, rfl, ?_, ?_⟩
        · rw [hget]
        · simpa [hget] using hserve

/-- Nobody gets in without a session. -/
theorem passedOn_only_with_user (hpublic : req.isPublic = false) {user : Option SessionData}
    (h : (serve req lookup s).1 = .ok (.passedOn user)) :
    ∃ data clock read, user = some data ∧ lookup = .ends clock read ∧
      (getCurrentUser req.credentials.sessionId clock read s.replica).1 = .ok (some data) := by
  rcases serve_cases req lookup s with ⟨hyes, -⟩ | ⟨-, -, heq⟩ | ⟨-, -, -, heq⟩ | ⟨-, -, -, heq⟩ |
    ⟨clock, read, found, -, -, hlookup, hget, heq⟩ | ⟨clock, read, e, -, -, -, -, heq⟩
  · rw [hyes] at hpublic; cases hpublic
  · rw [heq] at h; cases h
  · rw [heq] at h; cases h
  · rw [heq] at h; cases h
  · rw [heq] at h
    obtain ⟨data, rfl, rfl⟩ := decided_passedOn req (Except.ok.inj h)
    exact ⟨data, clock, read, rfl, hlookup, hget⟩
  · rw [heq] at h; cases h

/-- Nobody is sent away whose session could not be read. -/
theorem denied_only_without_session
    (h : (serve req lookup s).1 = .ok .authenticationRequired ∨
      (serve req lookup s).1 = .ok .redirectToLogin) :
    req.credentials.sessionId = "" ∨ ∃ clock, lookup = .ends clock (.ok none) ∧
      cacheHit s.replica req.credentials.sessionId clock.checked = none := by
  rcases serve_cases req lookup s with ⟨-, heq⟩ | ⟨-, -, heq⟩ | ⟨-, -, -, heq⟩ | ⟨-, -, -, heq⟩ |
    ⟨clock, read, found, -, -, hlookup, hget, heq⟩ | ⟨clock, read, e, -, -, -, -, heq⟩
  · rw [heq] at h; rcases h with h | h <;> cases h
  · rw [heq] at h; rcases h with h | h <;> cases h
  · rw [heq] at h; rcases h with h | h <;> cases h
  · rw [heq] at h; rcases h with h | h <;> cases h
  · rw [heq] at h
    obtain rfl := decided_denied req (h.imp Except.ok.inj Except.ok.inj)
    rcases none_of_getCurrentUser hget with hsid | ⟨miss, rfl⟩
    · exact Or.inl hsid
    · exact Or.inr ⟨clock, hlookup, miss⟩
  · rw [heq] at h; rcases h with h | h <;> cases h

theorem unavailable_iff_failure :
    (∃ reason, (serve req lookup s).1 = .ok (.unavailable reason)) ↔
      req.isPublic = false ∧ InfrastructureFailure req lookup s := by
  rcases serve_cases req lookup s with ⟨hpublic, heq⟩ | ⟨hpublic, full, heq⟩ |
    ⟨hpublic, full, hlookup, heq⟩ | ⟨hpublic, full, hlookup, heq⟩ |
    ⟨clock, read, found, hpublic, full, hlookup, hget, heq⟩ |
    ⟨clock, read, e, hpublic, full, hlookup, hget, heq⟩
  · simp [heq, hpublic]
  · simp [heq, hpublic, InfrastructureFailure, full]
  · rw [heq]
    simp [hpublic, InfrastructureFailure, hlookup]
  · subst hlookup
    simp [heq, InfrastructureFailure, full]
  · subst hlookup
    have hno : ¬ ReadFails req.credentials.sessionId clock read s.replica := by
      rw [← unavailable_iff, hget]
      rintro ⟨e, he⟩
      cases he
    rw [heq]
    constructor
    · rintro ⟨reason, h⟩
      exact False.elim (decided_not_unavailable req found reason (Except.ok.inj h))
    · rintro ⟨-, h | h | ⟨clock', read', h, hfails⟩⟩
      · exact False.elim (full h)
      · cases h
      · cases h
        exact False.elim (hno hfails)
  · subst hlookup
    have hfails : ReadFails req.credentials.sessionId clock read s.replica :=
      unavailable_iff.mp ⟨e, hget⟩
    rw [heq]
    exact ⟨fun _ => ⟨hpublic, Or.inr (Or.inr ⟨clock, read, rfl, hfails⟩)⟩, fun _ => ⟨_, rfl⟩⟩

theorem sessionCache_of_failure (h : InfrastructureFailure req lookup s) :
    (serve req lookup s).2.replica.sessionCache = s.replica.sessionCache := by
  rcases serve_cases req lookup s with ⟨-, heq⟩ | ⟨-, -, heq⟩ | ⟨-, -, -, heq⟩ | ⟨-, -, -, heq⟩ |
    ⟨clock, read, found, -, full, hlookup, hget, heq⟩ |
    ⟨clock, read, e, -, -, -, hget, heq⟩
  · rw [heq]
  · rw [heq]
  · rw [heq]
    rfl
  · rw [heq]
    rfl
  · subst hlookup
    rcases h with h | h | ⟨clock', read', h, hfails⟩
    · exact False.elim (full h)
    · cases h
    · cases h
      obtain ⟨e, he⟩ := unavailable_iff.mpr hfails
      rw [hget] at he
      cases he
  · rw [heq]
    exact sessionCache_of_unavailable hget

theorem permit_returned :
    (serve req lookup s).2.permits = s.permits ∧
      (serve req lookup s).2.events = s.events ++ permitEvents req s := by
  unfold permitEvents
  rcases serve_cases req lookup s with ⟨hpublic, heq⟩ | ⟨hpublic, full, heq⟩ |
    ⟨hpublic, full, -, heq⟩ | ⟨hpublic, full, -, heq⟩ |
    ⟨clock, read, found, hpublic, full, -, -, heq⟩ | ⟨clock, read, e, hpublic, full, -, -, heq⟩
  · simp [heq, hpublic]
  · simp [heq, full]
  · simp [heq, hpublic, full, cycled]
  · simp [heq, hpublic, full, cycled]
  · simp [heq, hpublic, full, cycled]
  · simp [heq, hpublic, full, cycled]

/-- The gate over every request, memory and outcome of the lookup: an outage is
answered with 503 and takes no session away, and lets nobody in. -/
theorem no_forced_logout_no_free_entry :
    (req.isPublic = false → ∀ user, (serve req lookup s).1 = .ok (.passedOn user) →
      ∃ data clock read, user = some data ∧ lookup = .ends clock read ∧
        (getCurrentUser req.credentials.sessionId clock read s.replica).1 = .ok (some data)) ∧
    ((serve req lookup s).1 = .ok .authenticationRequired ∨
        (serve req lookup s).1 = .ok .redirectToLogin →
      req.credentials.sessionId = "" ∨ ∃ clock, lookup = .ends clock (.ok none) ∧
        cacheHit s.replica req.credentials.sessionId clock.checked = none) ∧
    ((∃ reason, (serve req lookup s).1 = .ok (.unavailable reason)) ↔
      req.isPublic = false ∧ InfrastructureFailure req lookup s) ∧
    (InfrastructureFailure req lookup s →
      (serve req lookup s).2.replica.sessionCache = s.replica.sessionCache) ∧
    (serve req lookup s).2.permits = s.permits ∧
    (serve req lookup s).2.events = s.events ++ permitEvents req s :=
  ⟨fun hpublic _ h => passedOn_only_with_user req lookup s hpublic h,
    denied_only_without_session req lookup s, unavailable_iff_failure req lookup s,
    sessionCache_of_failure req lookup s, permit_returned req lookup s⟩

end Gate
end SessionGate
