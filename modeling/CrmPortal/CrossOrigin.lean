import CrmPortal.MiddlewareStack

/-!
# Cross-origin requests through the stack

The middlewares of `main.py` as wrappers of the application: each may answer early, and
each may write into the headers of the answer on its way out. `add_middleware` wraps what
is there, so that the one added first ends up next to the router.
-/

namespace CrossOrigin

open PyValue SessionGate SessionLookup MiddlewareStack

inductive Answerer where
  | gate
  | chaos
  | cors
  | errorHandler
  | endpoint
  deriving DecidableEq

/-- An answer, the names of its headers in lower case, and who gave it. -/
structure Response where
  status : Nat
  headers : List (String × String)
  content : Json
  answeredBy : Answerer

namespace Response

def header (response : Response) (name : String) : Option String :=
  List.lookup name response.headers

/-- `response.headers[name] = value`. -/
def setHeader (response : Response) (name value : String) : Response :=
  { response with
    headers := (name, value) :: response.headers.filter fun h => decide (h.1 ≠ name) }

/-- `response.headers.setdefault(name, value)`. -/
def setDefault (response : Response) (name value : String) : Response :=
  match response.header name with
  | some _ => response
  | none => { response with headers := response.headers ++ [(name, value)] }

@[simp] theorem header_setHeader_self (response : Response) (name value : String) :
    (response.setHeader name value).header name = some value :=
  List.lookup_cons_self

theorem header_setHeader_of_ne {name other : String} (h : other ≠ name) (response : Response)
    (value : String) : (response.setHeader name value).header other = response.header other := by
  rw [header, setHeader, List.lookup_cons, beq_false_of_ne h]
  exact lookup_filter_ne h response.headers

theorem header_setDefault_of_ne {name other : String} (h : other ≠ name) (response : Response)
    (value : String) : (response.setDefault name value).header other = response.header other := by
  unfold setDefault
  split
  · rfl
  · rw [header, List.lookup_append]
    simp [header, List.lookup_cons, beq_false_of_ne h]

@[simp] theorem answeredBy_setHeader (response : Response) (name value : String) :
    (response.setHeader name value).answeredBy = response.answeredBy := rfl

@[simp] theorem answeredBy_setDefault (response : Response) (name value : String) :
    (response.setDefault name value).answeredBy = response.answeredBy := by
  unfold setDefault
  split <;> rfl

end Response

def allowOrigin : String := "access-control-allow-origin"

/-- The browser lets the page of this origin read the answer. -/
def Permits (response : Response) (origin : String) : Prop :=
  response.header allowOrigin = some origin ∨ response.header allowOrigin = some "*"

/-- What leaves a middleware instead of an answer; `error` is an `Exception` with its text. -/
inductive StackExc where
  | error (className text : String)
  | cancelled

/-- A request with an `Origin`, and what the middlewares read of it beside `Incoming`. -/
structure CrossRequest where
  base : Incoming
  origin : String
  method : String
  requestMethod : Option String
  requestHeaders : List String
  regionHeader : Option String
  regionQuery : Option String
  regionCookie : Option String
  spanId : String

/-- OPTIONS with an `Access-Control-Request-Method`. -/
def CrossRequest.isPreflight (r : CrossRequest) : Bool :=
  decide (r.method = "OPTIONS") && r.requestMethod.isSome

def CrossRequest.incoming (r : CrossRequest) : Incoming :=
  { r.base with preflight := r.isPreflight }

abbrev App := CrossRequest → Obj → Except StackExc Response

/-- `CORSMiddleware`, with the allowed origins that it was given. -/
structure Cors (allowed : List String) where
  preflight : CrossRequest → Response
  simple : CrossRequest → Response → Response
  preflight_permits : ∀ r, r.origin ∈ allowed → Permits (preflight r) r.origin
  simple_permits : ∀ r response, r.origin ∈ allowed → Permits (simple r response) r.origin
  preflight_by : ∀ r, (preflight r).answeredBy = .cors

/-- What the stack is built from: the lookups of the gate, the settings of the headers and
the CORS middleware. -/
structure Site where
  py : Builtins
  lookup : Lookup
  gate : GateState
  allowed : List String
  cors : Cors allowed
  allowFramingFrom : Option String
  cspReportUri : Option String

/-- The response of an answer that the gate gives itself. -/
def gateResponse (reply : Reply) : Response where
  status := reply.status.getD 200
  headers := (match reply with
    | .redirectToLogin => [("location", "/login")]
    | _ => []) ++ (match reply.body.2 with
      | some seconds => [("retry-after", seconds)]
      | none => [])
  content := .obj reply.body.1
  answeredBy := .gate

def chaosResponse : Response where
  status := 500
  headers := []
  content := .obj [("error", .str "Chaos: simulated error burst"), ("chaos", .bool true)]
  answeredBy := .chaos

def answerEarly (site : Site) (r : CrossRequest) : EarlyReply → Except StackExc Response
  | .gate reply => .ok (gateResponse reply)
  | .failed .cancelledError => .error .cancelled
  | .failed .timeoutError => .error (.error "TimeoutError" "")
  | .failed (.sessionLookupUnavailable e) => .error (.error "SessionLookupUnavailable" e.message)
  | .simulatedError => .ok chaosResponse
  | .preflight => .ok (site.cors.preflight r)

/-- A middleware: what it does before `call_next`, and what with the answer. -/
structure Layer where
  request : Middleware
  respond : CrossRequest → Response → Except StackExc Response

def Layer.wrap (site : Site) (layer : Layer) (next : App) : App := fun r attrs =>
  match layer.request r.incoming attrs with
  | .error early => answerEarly site r early
  | .ok attrs' => do layer.respond r (← next r attrs')

/-- A header that is set, or set where it is missing. -/
structure HeaderWrite where
  name : String
  value : String
  onlyMissing : Bool

def always (name value : String) : HeaderWrite := ⟨name, value, false⟩

def missing (name value : String) : HeaderWrite := ⟨name, value, true⟩

def Response.write (response : Response) (w : HeaderWrite) : Response :=
  if w.onlyMissing then response.setDefault w.name w.value else response.setHeader w.name w.value

/-- A header value is encoded in Latin-1. -/
def latin1 (text : String) : Bool := text.toList.all fun c => decide (c.toNat < 256)

def Response.writeAll (response : Response) (writes : List HeaderWrite) :
    Except StackExc Response :=
  if writes.all fun w => latin1 w.value then .ok (writes.foldl Response.write response)
  else .error (.error "UnicodeEncodeError"
    "'latin-1' codec can't encode characters: ordinal not in range(256)")

/-- A middleware that only adds headers to the answer. -/
structure HeaderLayer where
  request : Middleware
  writes : CrossRequest → List HeaderWrite

def HeaderLayer.layer (header : HeaderLayer) : Layer where
  request := header.request
  respond := fun r response => response.writeAll (header.writes r)

def requestIdLayer (site : Site) : HeaderLayer where
  request := requestIdMiddleware site.py
  writes := fun r => [missing "x-request-id" (requestId site.py r.incoming)]

def workflowContextLayer : HeaderLayer where
  request := workflowContextMiddleware
  writes := fun r => [missing "x-workflow-id" (resolveWorkflow r.incoming.gate.path).workflowId]

def buildCsp (nonce : String) (reportUri : Option String) : String :=
  "; ".intercalate (["default-src 'self'", "img-src 'self' data: https:",
    "connect-src 'self' https:", "style-src 'self' 'unsafe-inline'",
    "script-src 'self' 'nonce-" ++ nonce ++ "' https://static.oracle.com",
    "script-src-attr 'unsafe-inline'", "frame-ancestors 'none'", "base-uri 'self'",
    "form-action 'self'"] ++
    match reportUri with
    | some uri => ["report-uri " ++ uri]
    | none => [])

theorem latin1_append (a b : String) : latin1 (a ++ b) = (latin1 a && latin1 b) := by
  simp [latin1, String.toList_append]

theorem latin1_intercalate {separator : String} (h : latin1 separator = true) {parts : List String}
    (hparts : ∀ part ∈ parts, latin1 part = true) :
    latin1 (separator.intercalate parts) = true := by
  induction parts with
  | nil => simp [latin1]
  | cons part rest ih =>
    have hrest := ih fun part' hpart' => hparts part' (List.mem_cons_of_mem _ hpart')
    have hpart := hparts part List.mem_cons_self
    rcases rest with _ | ⟨next, rest⟩
    · rw [String.intercalate_singleton]
      exact hpart
    · rw [String.intercalate_cons_cons, latin1_append, latin1_append, hpart, h, hrest]
      rfl

/-- The policy can be sent when the nonce and the report address can. -/
theorem latin1_buildCsp {nonce : String} (h : latin1 nonce = true) {reportUri : Option String}
    (huri : ∀ uri ∈ reportUri, latin1 uri = true) : latin1 (buildCsp nonce reportUri) = true := by
  have hscript : latin1 ("script-src 'self' 'nonce-" ++ nonce ++ "' https://static.oracle.com") =
      true := by
    rw [latin1_append, latin1_append, h]
    decide
  refine latin1_intercalate (by decide) fun part hpart => ?_
  rcases List.mem_append.mp hpart with hfixed | hreport
  · simp only [List.mem_cons, List.not_mem_nil, or_false] at hfixed
    rcases hfixed with rfl | rfl | rfl | rfl | rfl | rfl | rfl | rfl | rfl
    case inr.inr.inr.inr.inl => exact hscript
    all_goals decide
  · cases reportUri with
    | none => cases hreport
    | some uri =>
      obtain rfl := List.mem_singleton.mp hreport
      rw [latin1_append, huri uri rfl]
      decide

def securityHeadersLayer (site : Site) : HeaderLayer where
  request := securityHeadersMiddleware
  writes := fun r =>
    [missing "strict-transport-security" "max-age=63072000; includeSubDomains; preload",
      missing "x-content-type-options" "nosniff",
      missing "referrer-policy" "strict-origin-when-cross-origin",
      missing "permissions-policy" "camera=(), microphone=(), geolocation=(), payment=()"] ++
    (match site.allowFramingFrom with
      | some ops => [missing "content-security-policy-frame-ancestors"
            ("frame-ancestors 'self' " ++ ops), missing "x-frame-options" "SAMEORIGIN"]
      | none => [missing "x-frame-options" "DENY"]) ++
    [missing "content-security-policy" (buildCsp r.incoming.nonce site.cspReportUri)]

def unlessEmpty (name value : String) : List HeaderWrite :=
  if value ≠ "" then [always name value] else []

def tracingLayer : HeaderLayer where
  request := tracingMiddleware
  writes := fun r => [always "x-correlation-id" (buildCorrelationId r.incoming)] ++
    unlessEmpty "x-trace-id" r.incoming.traceId ++ unlessEmpty "x-span-id" r.spanId

def metricsLayer : HeaderLayer := ⟨metricsMiddleware, fun _ => []⟩

def sessionGateLayer (site : Site) : HeaderLayer :=
  ⟨sessionGateMiddleware site.lookup site.gate, fun _ => []⟩

def chaosLayer : HeaderLayer := ⟨chaosMiddleware, fun _ => []⟩

def regionLatencyMs : List (String × Nat) :=
  [("eu-central-1", 15), ("eu-west-1", 35), ("eu-north-1", 45), ("us-east-1", 90),
    ("us-west-2", 160), ("ca-central-1", 110), ("ap-southeast-1", 280), ("ap-northeast-1", 320),
    ("ap-south-1", 250), ("sa-east-1", 350), ("af-south-1", 400), ("me-south-1", 180),
    ("ap-southeast-2", 340)]

/-- The header, else the query parameter, else the cookie, where a text counts if it is
not empty. -/
def detectRegion (py : Builtins) (r : CrossRequest) : String :=
  let header := r.regionHeader.getD ""
  let query := if header = "" then r.regionQuery.getD "" else header
  let region := if query = "" then r.regionCookie.getD "" else query
  if region = "" then "" else py.lower (py.strip region)

def geoLatencyLayer (site : Site) : HeaderLayer where
  request := geoLatencyMiddleware
  writes := fun r =>
    let region := detectRegion site.py r
    if region = "" then []
    else [always "x-served-region" "eu-central-1", always "x-client-region" region,
      always "x-geo-latency-ms" (toString ((List.lookup region regionLatencyMs).getD 0))]

def corsLayer (site : Site) : Layer where
  request := corsMiddleware
  respond := fun r response => .ok (site.cors.simple r response)

/-- What `main.py` adds after the CORS middleware, in its order. -/
def headerLayers (site : Site) : List HeaderLayer :=
  [geoLatencyLayer site, chaosLayer, sessionGateLayer site, metricsLayer, tracingLayer,
    securityHeadersLayer site, workflowContextLayer, requestIdLayer site]

/-- The calls of `add_middleware`. -/
def addedMiddleware (site : Site) : List Layer :=
  (if site.allowed ≠ [] then [corsLayer site] else []) ++
    (headerLayers site).map HeaderLayer.layer

/-- Each call puts the new middleware outside all earlier ones. -/
def compose (site : Site) (added : List Layer) (endpoint : App) : App :=
  added.foldl (fun app layer => layer.wrap site app) endpoint

/-- `global_exception_handler`, which Starlette runs outside every added middleware; what is
not an `Exception` ends the connection without a response. -/
def globalExceptionHandler (app : App) : App := fun r attrs =>
  match app r attrs with
  | .error (.error className text) => .ok
      { status := 500, headers := [], answeredBy := .errorHandler,
        content := .obj [("error", .str text), ("type", .str className),
          ("path", .str r.incoming.gate.path),
          ("correlation_id", .str (buildCorrelationId r.incoming))] }
  | outcome => outcome

/-- What the server answers. -/
def answer (site : Site) (endpoint : App) (r : CrossRequest) : Except StackExc Response :=
  globalExceptionHandler (compose site (addedMiddleware site) endpoint) r []

/-- The order of the requests through the composed stack. -/
theorem requests_eq_stack (site : Site) (h : site.allowed ≠ []) :
    (addedMiddleware site).reverse.map Layer.request = stack site.py site.lookup site.gate := by
  rw [addedMiddleware, if_pos h]
  rfl

theorem compose_eq_foldr (site : Site) (added : List Layer) (endpoint : App) :
    compose site added endpoint =
      added.reverse.foldr (fun layer app => layer.wrap site app) endpoint :=
  List.foldr_reverse.symm

/-- The answer permits the origin, and a preflight is answered by the CORS layer. -/
def Granted (outcome : Except StackExc Response) (r : CrossRequest) : Prop :=
  ∃ response, outcome = .ok response ∧ Permits response r.origin ∧
    (r.isPreflight = true → response.answeredBy = .cors)

/-- The lookup of the gate ends with a session, from the cache or from the table. -/
def FindsSession (req : GateRequest) (lookup : Lookup) (s : GateState) : Prop :=
  ∃ clock read, lookup = .ends clock read ∧ req.credentials.sessionId ≠ "" ∧
    ((cacheHit s.replica req.credentials.sessionId clock.checked).isSome = true ∨
      ∃ row, read = .ok (some row))

/-- Nothing outside the CORS layer answers, and nothing raises on the way. -/
structure Unhindered (site : Site) (endpoint : App) (r : CrossRequest) : Prop where
  admitted : r.base.gate.isPublic = true ∨
    site.gate.permits ≠ 0 ∧ FindsSession r.base.gate site.lookup site.gate
  noSimulatedError : r.base.simulatedError = false
  encodable : ∀ header ∈ headerLayers site, ∀ w ∈ header.writes r, latin1 w.value = true
  returns : r.isPreflight = false → ∀ attrs,
    through r.incoming (stack site.py site.lookup site.gate) [] = .ok attrs →
      ∃ response, endpoint r attrs = .ok response

section Layers
variable {site : Site} {r : CrossRequest} {attrs attrs' : Obj}

theorem write_same {w : HeaderWrite} (h : allowOrigin ≠ w.name) (response : Response) :
    (response.write w).header allowOrigin = response.header allowOrigin ∧
      (response.write w).answeredBy = response.answeredBy := by
  unfold Response.write
  split
  · exact ⟨Response.header_setDefault_of_ne h response w.value,
      Response.answeredBy_setDefault response _ _⟩
  · exact ⟨Response.header_setHeader_of_ne h response w.value, rfl⟩

theorem writes_same {writes : List HeaderWrite} (h : ∀ w ∈ writes, allowOrigin ≠ w.name)
    (response : Response) :
    (writes.foldl Response.write response).header allowOrigin = response.header allowOrigin ∧
      (writes.foldl Response.write response).answeredBy = response.answeredBy := by
  induction writes generalizing response with
  | nil => exact ⟨rfl, rfl⟩
  | cons w writes ih =>
    obtain ⟨hheader, hby⟩ := ih (fun w hw => h w (List.mem_cons_of_mem _ hw)) (response.write w)
    obtain ⟨hfirst, hfirstBy⟩ := write_same (h w List.mem_cons_self) response
    exact ⟨hheader.trans hfirst, hby.trans hfirstBy⟩

theorem writeAll_ok_iff {response response' : Response} {writes : List HeaderWrite} :
    response.writeAll writes = .ok response' ↔
      (∀ w ∈ writes, latin1 w.value = true) ∧ writes.foldl Response.write response = response' := by
  unfold Response.writeAll
  rw [← List.all_eq_true]
  split
  · next h => simp [h]
  · next h => simp [h]

/-- Headers of other names change nothing for the browser, if they can be written. -/
theorem granted_wrap {header : HeaderLayer} (next : App)
    (names : ∀ w ∈ header.writes r, allowOrigin ≠ w.name)
    (hpass : header.request r.incoming attrs = .ok attrs') :
    Granted (header.layer.wrap site next r attrs) r ↔
      (∀ w ∈ header.writes r, latin1 w.value = true) ∧ Granted (next r attrs') r := by
  have hwrap : header.layer.wrap site next r attrs =
      (next r attrs').bind fun response => response.writeAll (header.writes r) := by
    rw [Layer.wrap, HeaderLayer.layer]
    simp only [hpass]
    rfl
  rw [hwrap]
  rcases next r attrs' with e | inner
  · constructor
    · rintro ⟨_, h, -⟩
      cases h
    · rintro ⟨-, _, h, -⟩
      cases h
  · obtain ⟨hheader, hby⟩ := writes_same names inner
    constructor
    · rintro ⟨response, hout, hpermits, hpreflight⟩
      obtain ⟨hencodable, rfl⟩ := writeAll_ok_iff.mp hout
      rw [Permits, hheader] at hpermits
      exact ⟨hencodable, inner, rfl, hpermits, fun h => hby.symm.trans (hpreflight h)⟩
    · rintro ⟨hencodable, response, hin, hpermits, hpreflight⟩
      cases hin
      refine ⟨_, writeAll_ok_iff.mpr ⟨hencodable, rfl⟩, ?_, fun h => hby.trans (hpreflight h)⟩
      rw [Permits, hheader]
      exact hpermits

/-- An answer of the gate or of the chaos middleware has no header for the origin. -/
theorem not_granted_early {early : EarlyReply} (h : early ≠ .preflight) :
    ¬ Granted (answerEarly site r early) r := by
  rintro ⟨response, hanswer, hpermits, -⟩
  have hnone : response.header allowOrigin = none := by
    cases early with
    | gate reply =>
      cases hanswer
      cases reply <;> rfl
    | failed e => cases e <;> cases hanswer
    | simulatedError =>
      cases hanswer
      rfl
    | preflight => exact absurd rfl h
  rw [Permits, hnone] at hpermits
  rcases hpermits with h | h <;> cases h

theorem granted_globalExceptionHandler (app : App) :
    Granted (globalExceptionHandler app r attrs) r ↔ Granted (app r attrs) r := by
  unfold globalExceptionHandler
  split
  · next className text happ =>
    rw [happ]
    constructor
    · rintro ⟨response, hout, hpermits, -⟩
      cases hout
      rcases hpermits with h | h <;> cases h
    · rintro ⟨_, h, -⟩
      cases h
  · rfl

/-- Through any number of such layers: the request must get in, be granted inside, and
every header be written on the way out. -/
theorem granted_foldr {headers : List HeaderLayer} (app : App)
    (names : ∀ header ∈ headers, ∀ w ∈ header.writes r, allowOrigin ≠ w.name)
    (refuses : ∀ header ∈ headers, ∀ attrs early,
      header.request r.incoming attrs = .error early → early ≠ .preflight) :
    Granted (headers.foldr (fun header app => header.layer.wrap site app) app r attrs) r ↔
      (∀ header ∈ headers, ∀ w ∈ header.writes r, latin1 w.value = true) ∧
        ∃ attrs', through r.incoming (headers.map HeaderLayer.request) attrs = .ok attrs' ∧
          Granted (app r attrs') r := by
  induction headers generalizing attrs with
  | nil => simp [through]
  | cons header headers ih =>
    have hrest := fun attrs => @ih attrs (fun l hl => names l (List.mem_cons_of_mem _ hl))
      (fun l hl => refuses l (List.mem_cons_of_mem _ hl))
    rw [List.foldr_cons, List.map_cons, through]
    rcases hrequest : header.request r.incoming attrs with early | next
    · have hno : ¬ Granted (answerEarly site r early) r :=
        not_granted_early (refuses header List.mem_cons_self attrs early hrequest)
      have hwrap : ∀ app : App, header.layer.wrap site app r attrs = answerEarly site r early := by
        intro app
        rw [Layer.wrap, HeaderLayer.layer]
        simp only [hrequest]
      rw [hwrap]
      constructor
      · intro h
        exact absurd h hno
      · rintro ⟨-, _, h, -⟩
        cases h
    · rw [granted_wrap _ (names header List.mem_cons_self) hrequest, hrest,
        List.forall_mem_cons, and_assoc]
      rfl

/-- The CORS layer answers a preflight, and completes the answer of the endpoint. -/
theorem granted_cors (endpoint : App) (allowed : r.origin ∈ site.allowed) :
    Granted ((corsLayer site).wrap site endpoint r attrs) r ↔
      (r.isPreflight = false → ∃ response, endpoint r attrs = .ok response) := by
  unfold Layer.wrap
  have hrequest : (corsLayer site).request r.incoming attrs =
      if r.isPreflight then .error .preflight else .ok attrs := rfl
  rw [hrequest]
  cases hpreflight : r.isPreflight with
  | true =>
    refine ⟨fun _ h => (by cases h), fun _ => ⟨site.cors.preflight r, rfl, ?_, fun _ => ?_⟩⟩
    · exact site.cors.preflight_permits r allowed
    · exact site.cors.preflight_by r
  | false =>
    rcases hendpoint : endpoint r attrs with e | inner
    · constructor
      · rintro ⟨_, h, -⟩
        simp [hendpoint] at h
        cases h
      · intro h
        obtain ⟨_, h⟩ := h rfl
        cases h
    · refine ⟨fun _ _ => ⟨inner, rfl⟩, fun _ => ⟨site.cors.simple r inner, ?_, ?_, fun h => ?_⟩⟩
      · simp [hendpoint]
        rfl
      · exact site.cors.simple_permits r inner allowed
      · rw [hpreflight] at h
        cases h

end Layers

section Stack
variable {site : Site} {r : CrossRequest}

theorem found_iff {req : GateRequest} {s : GateState} {clock : Clock}
    {read : Except DbError (Option Accounts.UserSession)} :
    (∃ data, (getCurrentUser req.credentials.sessionId clock read s.replica).1 = .ok (some data)) ↔
      req.credentials.sessionId ≠ "" ∧
        ((cacheHit s.replica req.credentials.sessionId clock.checked).isSome = true ∨
          ∃ row, read = .ok (some row)) := by
  unfold getCurrentUser
  by_cases hsid : req.credentials.sessionId = ""
  · simp [hsid]
  · rcases hcache : cacheHit s.replica req.credentials.sessionId clock.checked with _ | data
    · rcases read with e | _ | row <;> simp [hsid]
    · simp [hsid]

/-- What the gate lets through. -/
theorem passedOn_iff (req : GateRequest) (lookup : Lookup) (s : GateState) :
    (∃ user, (serve req lookup s).1 = .ok (.passedOn user)) ↔
      req.isPublic = true ∨ s.permits ≠ 0 ∧ FindsSession req lookup s := by
  cases hpublic : req.isPublic with
  | true => simp [serve_public lookup hpublic]
  | false =>
    constructor
    · rintro ⟨user, h⟩
      obtain ⟨data, clock, read, -, hlookup, hget⟩ :=
        passedOn_only_with_user req lookup s hpublic h
      have full : s.permits ≠ 0 := by
        intro full
        rw [serve_saturated lookup hpublic full] at h
        cases h
      exact Or.inr ⟨full, clock, read, hlookup, found_iff.mp ⟨data, hget⟩⟩
    · rintro (h | ⟨full, clock, read, hlookup, hfinds⟩)
      · cases h
      · obtain ⟨data, hget⟩ := found_iff.mpr hfinds
        refine ⟨some data, ?_⟩
        rw [serve_admitted lookup hpublic full, hlookup]
        rcases hcall : getCurrentUser req.credentials.sessionId clock read s.replica with
          ⟨found, replica⟩
        rw [hcall] at hget
        cases hget
        simp only [hcall]
        rfl

theorem compose_added (endpoint : App) (h : site.allowed ≠ []) :
    compose site (addedMiddleware site) endpoint =
      (headerLayers site).reverse.foldr (fun header app => header.layer.wrap site app)
        ((corsLayer site).wrap site endpoint) := by
  rw [compose_eq_foldr, addedMiddleware, if_pos h]
  rfl

theorem headers_names : ∀ header ∈ headerLayers site, ∀ w ∈ header.writes r,
    allowOrigin ≠ w.name := by
  simp only [headerLayers, List.forall_mem_cons, List.not_mem_nil, IsEmpty.forall_iff,
    implies_true, and_true]
  refine ⟨?_, by simp [chaosLayer], by simp [sessionGateLayer], by simp [metricsLayer], ?_, ?_,
    ?_, ?_⟩
  · unfold geoLatencyLayer
    by_cases hregion : detectRegion site.py r = "" <;>
      simp [hregion, always, allowOrigin]
  · unfold tracingLayer unlessEmpty
    by_cases htrace : r.incoming.traceId = "" <;> by_cases hspan : r.spanId = "" <;>
      simp [htrace, hspan, always, allowOrigin]
  · unfold securityHeadersLayer
    cases site.allowFramingFrom <;> simp [missing, allowOrigin]
  · simp [workflowContextLayer, missing, allowOrigin]
  · simp [requestIdLayer, missing, allowOrigin]

theorem headers_refuse : ∀ header ∈ headerLayers site, ∀ attrs early,
    header.request r.incoming attrs = .error early → early ≠ .preflight := by
  simp only [headerLayers, List.forall_mem_cons, List.not_mem_nil, IsEmpty.forall_iff,
    implies_true, and_true]
  refine ⟨?_, ?_, ?_, ?_, ?_, ?_, ?_, ?_⟩
  · intro _ _ h; cases h
  · intro attrs early h
    unfold chaosLayer chaosMiddleware at h
    dsimp only at h
    split at h
    · cases h
      simp
    · cases h
  · intro attrs early h
    unfold sessionGateLayer sessionGateMiddleware at h
    dsimp only at h
    split at h
    · cases h
    · cases h
    · cases h
      simp
    · cases h
      simp
  · intro _ _ h; cases h
  · intro _ _ h; cases h
  · intro _ _ h; cases h
  · intro _ _ h; cases h
  · intro _ _ h; cases h

theorem gate_passes_iff (attrs : Obj) :
    (∃ attrs', (sessionGateLayer site).request r.incoming attrs = .ok attrs') ↔
      ∃ user, (serve r.base.gate site.lookup site.gate).1 = .ok (.passedOn user) := by
  have hgate : r.incoming.gate = r.base.gate := rfl
  unfold sessionGateLayer sessionGateMiddleware
  dsimp only
  rw [hgate]
  rcases (serve r.base.gate site.lookup site.gate).1 with e | reply
  · simp
  · cases reply with
    | passedOn user => cases user <;> simp
    | unavailable reason => simp
    | authenticationRequired => simp
    | redirectToLogin => simp

/-- What passes everything outside the CORS layer. -/
theorem through_headers_iff :
    (∃ attrs, through r.incoming ((headerLayers site).reverse.map HeaderLayer.request) [] =
        .ok attrs) ↔
      (∃ user, (serve r.base.gate site.lookup site.gate).1 = .ok (.passedOn user)) ∧
        r.base.simulatedError = false := by
  have hsplit : (headerLayers site).reverse.map HeaderLayer.request =
      [requestIdMiddleware site.py, workflowContextMiddleware, securityHeadersMiddleware,
        tracingMiddleware, metricsMiddleware] ++
      [(sessionGateLayer site).request, chaosMiddleware, geoLatencyMiddleware] := rfl
  have hchaos : ∀ attrs, through r.incoming [chaosMiddleware, geoLatencyMiddleware] attrs =
      if r.base.simulatedError then .error .simulatedError else .ok attrs := by
    intro attrs
    have hincoming : r.incoming.simulatedError = r.base.simulatedError := rfl
    rw [through, chaosMiddleware, hincoming]
    cases r.base.simulatedError <;> rfl
  rw [hsplit]
  constructor
  · rintro ⟨attrs, h⟩
    obtain ⟨before, -, hinner⟩ := through_append_ok_iff.mp h
    rw [through] at hinner
    rcases hgate : (sessionGateLayer site).request r.incoming before with e | behind
    · rw [hgate] at hinner
      cases hinner
    · refine ⟨(gate_passes_iff before).mp ⟨behind, hgate⟩, ?_⟩
      rw [hgate] at hinner
      have hpassed := (hchaos behind).symm.trans hinner
      cases hsimulated : r.base.simulatedError with
      | false => rfl
      | true =>
        rw [hsimulated] at hpassed
        cases hpassed
  · rintro ⟨hgate, hsimulated⟩
    obtain ⟨before, hbefore⟩ : ∃ before, through r.incoming [requestIdMiddleware site.py,
        workflowContextMiddleware, securityHeadersMiddleware, tracingMiddleware,
        metricsMiddleware] [] = .ok before := ⟨_, rfl⟩
    obtain ⟨behind, hbehind⟩ := (gate_passes_iff before).mpr hgate
    refine ⟨behind, through_append_ok_iff.mpr ⟨before, hbefore, ?_⟩⟩
    rw [hsimulated] at hchaos
    rw [through, hbehind]
    exact hchaos behind

theorem granted_iff_inner (endpoint : App) (allowed : r.origin ∈ site.allowed) :
    Granted (answer site endpoint r) r ↔
      (∀ header ∈ headerLayers site, ∀ w ∈ header.writes r, latin1 w.value = true) ∧
        ∃ attrs, through r.incoming ((headerLayers site).reverse.map HeaderLayer.request) [] =
            .ok attrs ∧
          (r.isPreflight = false → ∃ response, endpoint r attrs = .ok response) := by
  have hinstalled : site.allowed ≠ [] := List.ne_nil_of_mem allowed
  rw [answer, granted_globalExceptionHandler, compose_added endpoint hinstalled,
    granted_foldr _ (fun header h => headers_names header (List.mem_reverse.mp h))
      (fun header h => headers_refuse header (List.mem_reverse.mp h))]
  simp only [granted_cors endpoint allowed, List.mem_reverse]

/-- The whole stack hands the endpoint what passes everything outside the CORS layer. -/
theorem through_stack_iff (simple : r.isPreflight = false) {attrs : Obj} :
    through r.incoming (stack site.py site.lookup site.gate) [] = .ok attrs ↔
      through r.incoming ((headerLayers site).reverse.map HeaderLayer.request) [] = .ok attrs := by
  have hsplit : stack site.py site.lookup site.gate =
      (headerLayers site).reverse.map HeaderLayer.request ++ [corsMiddleware] := rfl
  have hcors : ∀ attrs, through r.incoming [corsMiddleware] attrs = .ok attrs := by
    intro attrs
    have hincoming : r.incoming.preflight = r.isPreflight := rfl
    rw [through, corsMiddleware, hincoming, simple]
    rfl
  rw [hsplit, through_append_ok_iff]
  constructor
  · rintro ⟨between, houter, h⟩
    cases (hcors between).symm.trans h
    exact houter
  · intro h
    exact ⟨attrs, h, hcors attrs⟩

/-- An allowed origin gets its header, and a preflight its answer of the CORS layer, exactly
where no layer outside that one answers and nothing raises. -/
theorem granted_iff_unhindered (endpoint : App) (allowed : r.origin ∈ site.allowed) :
    Granted (answer site endpoint r) r ↔ Unhindered site endpoint r := by
  rw [granted_iff_inner endpoint allowed]
  constructor
  · rintro ⟨hencodable, attrs, hthrough, hendpoint⟩
    obtain ⟨hgate, hsimulated⟩ := through_headers_iff.mp ⟨attrs, hthrough⟩
    refine ⟨(passedOn_iff _ _ _).mp hgate, hsimulated, hencodable, fun simple seen hseen => ?_⟩
    cases hthrough.symm.trans ((through_stack_iff simple).mp hseen)
    exact hendpoint simple
  · rintro ⟨hadmitted, hsimulated, hencodable, hreturns⟩
    obtain ⟨attrs, hthrough⟩ :=
      through_headers_iff.mpr ⟨(passedOn_iff _ _ _).mpr hadmitted, hsimulated⟩
    exact ⟨hencodable, attrs, hthrough,
      fun simple => hreturns simple attrs ((through_stack_iff simple).mpr hthrough)⟩

end Stack

def requestHeadersAllowed : List String :=
  ["accept", "accept-language", "authorization", "content-language", "content-type", "traceparent",
    "tracestate", "x-internal-service-key", "x-requested-with", "x-request-id", "x-run-id",
    "x-workflow-id"]

def methodsAllowed : List String := ["GET", "POST", "PUT", "PATCH", "DELETE", "OPTIONS"]

/-- `CORSMiddleware` of Starlette with the arguments of `main.py`, credentials allowed. -/
def starletteCors (allowed : List String) : Cors allowed where
  preflight := fun r =>
    let failures := (if r.origin ∈ allowed then [] else ["origin"]) ++
      (if r.requestMethod.getD "" ∈ methodsAllowed then [] else ["method"]) ++
      (if r.requestHeaders.all fun h => decide (h ∈ requestHeadersAllowed) then [] else ["headers"])
    { status := if failures = [] then 200 else 400
      headers := (if r.origin ∈ allowed then [(allowOrigin, r.origin)] else []) ++
        [("vary", "Origin"), ("access-control-allow-methods", ", ".intercalate methodsAllowed),
          ("access-control-max-age", "600"), ("access-control-allow-credentials", "true")]
      content := .str (if failures = [] then "OK"
        else "Disallowed CORS " ++ ", ".intercalate failures)
      answeredBy := .cors }
  simple := fun r response =>
    let completed := response.setHeader "access-control-allow-credentials" "true"
    if r.origin ∈ allowed then (completed.setHeader allowOrigin r.origin).setDefault "vary" "Origin"
    else completed
  preflight_permits := fun r h => by
    simp [Permits, Response.header, h]
  simple_permits := fun r response h => by
    have hvary : allowOrigin ≠ "vary" := by decide
    simp [Permits, h, Response.header_setDefault_of_ne hvary]
  preflight_by := fun _ => rfl

def partner : String := "https://shop.example.test"

/-- No session, a free gate, and ASCII texts. -/
def quietSite : Site where
  py := asciiBuiltins fun _ => ""
  lookup := .ends ⟨0, 0⟩ (.ok none)
  gate := ⟨16, [], Replica.started⟩
  allowed := [partner]
  cors := starletteCors [partner]
  allowFramingFrom := none
  cspReportUri := none

def preflightOf (path : String) : CrossRequest where
  base := ⟨⟨path, "*/*", none, none⟩, none, "", "", "r1", "c1", "n1", false, false⟩
  origin := partner
  method := "OPTIONS"
  requestMethod := some "POST"
  requestHeaders := ["content-type"]
  regionHeader := none
  regionQuery := none
  regionCookie := none
  spanId := ""

def silentEndpoint : App := fun _ _ => .error (.error "RuntimeError" "not reached")

/-- The preflight of a page of an allowed origin gets the 401 of the gate. -/
theorem preflight_refused_by_gate :
    ¬ ∀ (site : Site) (endpoint : App) (r : CrossRequest), r.origin ∈ site.allowed →
      Granted (answer site endpoint r) r := by
  intro h
  have hgranted := h quietSite silentEndpoint (preflightOf "/api/products") (by decide)
  obtain ⟨-, attrs, hthrough, -⟩ := (granted_iff_inner silentEndpoint (by decide)).mp hgranted
  have hgate := (through_headers_iff.mp ⟨attrs, hthrough⟩).1
  rcases (passedOn_iff _ _ _).mp hgate with hpublic | ⟨-, clock, read, -, hsid, -⟩
  · exact absurd hpublic (by decide)
  · exact hsid (by decide)

theorem preflight_encodable : ∀ header ∈ headerLayers quietSite,
    ∀ w ∈ header.writes (preflightOf "/api/orders"), latin1 w.value = true := by
  have hsecurity : ∀ w ∈ (securityHeadersLayer quietSite).writes (preflightOf "/api/orders"),
      latin1 w.value = true := by
    intro w hw
    simp only [securityHeadersLayer, quietSite, List.cons_append, List.nil_append, List.mem_cons,
      List.not_mem_nil, or_false] at hw
    rcases hw with rfl | rfl | rfl | rfl | rfl | rfl
    case inr.inr.inr.inr.inr =>
      have hnonce : latin1 (preflightOf "/api/orders").incoming.nonce = true := by decide
      simp only [missing]
      exact latin1_buildCsp hnonce fun uri h => nomatch h
    all_goals decide
  intro header hheader
  simp only [headerLayers, List.mem_cons, List.not_mem_nil, or_false] at hheader
  rcases hheader with rfl | rfl | rfl | rfl | rfl | rfl | rfl | rfl
  case inr.inr.inr.inr.inr.inl => exact hsecurity
  all_goals decide +kernel

/-- On a public path the CORS layer answers it. -/
theorem public_preflight_granted :
    Granted (answer quietSite silentEndpoint (preflightOf "/api/orders"))
      (preflightOf "/api/orders") :=
  (granted_iff_unhindered silentEndpoint (by decide)).mpr
    ⟨Or.inl (by decide), rfl, preflight_encodable, fun simple => absurd simple (by decide)⟩

end CrossOrigin
