import CrmPortal.JsonText

/-!
# Telemetry from the browser

A body is read as JSON and checked against the event model; what fails there is dropped
with a warning. The payload of an event is a dict of any values, which the branch of the
event's type converts, cuts and hands to the meter as it finds them.
-/

namespace FrontendTelemetry

open PyValue

abbrev Attributes := List (String × Json)

/-- The meter's instruments. A measurement is filed under its attribute values, so these
decide whether it is taken; text always is. -/
structure Instruments where
  refuses : Attributes → Option PyExc
  takes_text : ∀ attributes, (∀ a ∈ attributes, ∃ s, a.2 = .str s) → refuses attributes = none

/-- What `json.loads` makes of the bytes: a value, a JSONDecodeError, or one of the errors
that are none: no text in the encoding, nested too deep, too many digits. -/
inductive Loaded where
  | value (data : Json)
  | malformed
  | raised (e : PyExc)

/-- `laxInt` is the model's reading of an int. A Python string may hold half a surrogate
pair; it stands for some text here, and `encodable` says which texts have none. -/
structure Server where
  py : Builtins
  loads : List UInt8 → Loaded
  encodable : String → Bool
  laxInt : Json → Option Int
  instruments : Instruments

inductive Effect where
  | warned (message : String)
  | recorded (instrument : String) (value : PyFloat) (attributes : Attributes)
  | added (instrument : String) (amount : Int) (attributes : Attributes)
  | pushed (level message : String) (fields : List (String × String))

structure FrontendEvent where
  type : String
  page : String
  sessionId : String
  viewId : String
  ts : Int
  payload : Obj

section Ingest
variable (server : Server)

/-- A field of type `str`, which takes nothing else. -/
def strField (fields : Obj) (key : String) (default : Option String) : Option String :=
  match List.lookup key fields with
  | none => default
  | some (.str s) => if server.encodable s then some s else none
  | some _ => none

def tsField (fields : Obj) : Option Int :=
  match List.lookup "ts" fields with
  | none => some 0
  | some v => server.laxInt v

def payloadField (fields : Obj) : Option Obj :=
  match List.lookup "payload" fields with
  | none => some []
  | some (.obj payload) => some payload
  | some _ => none

/-- `FrontendEvent.model_validate`; `none` is a ValidationError. -/
def modelValidate : Json → Option FrontendEvent
  | .obj fields => do
    let type ← strField server fields "type" none
    let page ← strField server fields "page" none
    let sessionId ← strField server fields "session_id" (some "")
    let viewId ← strField server fields "view_id" (some "")
    let ts ← tsField server fields
    let payload ← payloadField fields
    return ⟨type, page, sessionId, viewId, ts, payload⟩
  | _ => none

def parseFrontendEvent (rawBody : List UInt8) : Except PyExc (Option FrontendEvent × List Effect) :=
  if rawBody.isEmpty then .ok (none, [])
  else match server.loads rawBody with
    | .raised e => .error e
    | .malformed => .ok (none, [.warned "Dropping malformed frontend telemetry payload"])
    | .value data => match modelValidate server data with
      | some event => .ok (some event, [])
      | none => .ok (none, [.warned "Dropping invalid frontend telemetry event"])

/-- A measurement, or the error its attributes raise. -/
def measure (effect : Effect) (attributes : Attributes) : Except PyExc Effect :=
  match server.instruments.refuses attributes with
  | none => .ok effect
  | some e => .error e

def record (instrument : String) (value : PyFloat) (attributes : Attributes) :
    Except PyExc Effect :=
  measure server (.recorded instrument value attributes) attributes

def add (instrument : String) (amount : Int) (attributes : Attributes) : Except PyExc Effect :=
  measure server (.added instrument amount attributes) attributes

def first200 (s : String) : String := String.ofList (s.toList.take 200)

/-- `v[:200]`: a string and a list have slices. -/
def slice200 : Json → Except PyExc Json
  | .str s => .ok (.str (first200 s))
  | .arr xs => .ok (.arr (xs.take 200))
  | _ => .error .typeError

/-- `page.split("?")[0]`. -/
def stripQuery (page : String) : String := String.ofList (page.toList.takeWhile (· ≠ '?'))

def ingestWebVital (page : String) (payload : Obj) : Except PyExc (List Effect) := do
  let metricName := payload.getD "name" (.str "unknown")
  let value ← (payload.getD "value" (.int 0)).toFloat server.py
  let recorded ← record server "crm.frontend.web_vital" value
    [("metric", metricName), ("page", .str page)]
  return [recorded]

/-- The counter comes first; the message is cut before it is made a text, and once more
after that. -/
def ingestError (type page : String) (payload : Obj) : Except PyExc (List Effect) := do
  let added ← add server "crm.frontend.errors" 1 [("type", .str type), ("page", .str page)]
  let message ← slice200 (payload.getD "message" (.str ""))
  return [added, .pushed "WARNING" ("Frontend " ++ type ++ ": " ++ message.toStr server.py)
    [("frontend.error.type", type), ("frontend.error.page", page),
      ("frontend.error.message",
        first200 ((payload.getD "message" (.str "")).toStr server.py)),
      ("frontend.error.source",
        first200 ((payload.getD "source" (.str "")).toStr server.py))]]

def ingestJourneyStep (page : String) (payload : Obj) : Except PyExc (List Effect) := do
  let step := payload.getD "step" (.str "unknown")
  let added ← add server "crm.frontend.journey_steps" 1 [("step", step), ("page", .str page)]
  return [added]

def ingestApi (payload : Obj) : Except PyExc (List Effect) := do
  let duration ← (payload.getD "duration_ms" (.int 0)).toFloat server.py
  let apiUrl := payload.getD "url" (.str "unknown")
  let status := payload.getD "status" (.int 0)
  let recorded ← record server "crm.frontend.api.duration" duration
    [("url", apiUrl), ("status", .str (status.toStr server.py))]
  return [recorded]

/-- A navigation is not measured, and no other type either. -/
def ingestBranch (event : FrontendEvent) : Except PyExc (List Effect) :=
  let page := stripQuery event.page
  if event.type = "web_vital" then ingestWebVital server page event.payload
  else if event.type = "js_error" ∨ event.type = "promise_rejection" then
    ingestError server event.type page event.payload
  else if event.type = "journey_step" then ingestJourneyStep server page event.payload
  else if event.type = "frontend_api" then ingestApi server event.payload
  else .ok []

/-- The status with what was written on the way; an error is a response of its own kind. -/
def ingestFrontendEvent (rawBody : List UInt8) : Except PyExc (Nat × List Effect) := do
  let (event, warnings) ← parseFrontendEvent server rawBody
  match event with
  | none => return (204, warnings)
  | some event =>
    let effects ← ingestBranch server event
    return (204, effects)

def Given (fields : Obj) (key s : String) : Prop :=
  List.lookup key fields = some (.str s) ∧ server.encodable s = true

/-- The event that the fields of an object make up. -/
structure Describes (fields : Obj) (event : FrontendEvent) : Prop where
  type : Given server fields "type" event.type
  page : Given server fields "page" event.page
  sessionId : Given server fields "session_id" event.sessionId ∨
    List.lookup "session_id" fields = none ∧ event.sessionId = ""
  viewId : Given server fields "view_id" event.viewId ∨
    List.lookup "view_id" fields = none ∧ event.viewId = ""
  ts : (∃ v, List.lookup "ts" fields = some v ∧ server.laxInt v = some event.ts) ∨
    List.lookup "ts" fields = none ∧ event.ts = 0
  payload : List.lookup "payload" fields = some (.obj event.payload) ∨
    List.lookup "payload" fields = none ∧ event.payload = []

/-- `float(v)` has a result: no null, list or dict, no text but a numeral, and no integer
beyond the floats. -/
def Numeric : Json → Prop
  | .int n => n.natAbs < PyFloat.intLimit
  | .bool _ => True
  | .float _ => True
  | .str s => ∃ x, server.py.parseFloat s = some x
  | _ => False

def HasSlices (v : Json) : Prop := (∃ s, v = .str s) ∨ ∃ xs, v = .arr xs

/-- What the branch of the type needs of the payload. -/
structure Usable (event : FrontendEvent) : Prop where
  webVital : event.type = "web_vital" →
    Numeric server (event.payload.getD "value" (.int 0)) ∧
      server.instruments.refuses [("metric", event.payload.getD "name" (.str "unknown")),
        ("page", .str (stripQuery event.page))] = none
  failure : event.type = "js_error" ∨ event.type = "promise_rejection" →
    HasSlices (event.payload.getD "message" (.str ""))
  journeyStep : event.type = "journey_step" →
    server.instruments.refuses [("step", event.payload.getD "step" (.str "unknown")),
      ("page", .str (stripQuery event.page))] = none
  api : event.type = "frontend_api" →
    Numeric server (event.payload.getD "duration_ms" (.int 0)) ∧
      server.instruments.refuses [("url", event.payload.getD "url" (.str "unknown")),
        ("status", .str ((event.payload.getD "status" (.int 0)).toStr server.py))] = none

/-- Nothing, a JSONDecodeError, or JSON that is no event or a usable one. -/
def Harmless (rawBody : List UInt8) : Prop :=
  rawBody = [] ∨ server.loads rawBody = .malformed ∨
    ∃ data, server.loads rawBody = .value data ∧
      ∀ fields event, data = .obj fields → Describes server fields event → Usable server event

end Ingest

section Steps
variable {server : Server} {fields payload : Obj} {event : FrontendEvent}

theorem strField_required_iff {key s : String} :
    strField server fields key none = some s ↔ Given server fields key s := by
  unfold strField Given
  split
  · rename_i habsent
    rw [habsent]
    exact ⟨fun h => (by cases h), fun h => by cases h.1⟩
  · rename_i t hgiven
    rw [hgiven]
    by_cases htext : server.encodable t = true
    · rw [if_pos htext]
      constructor
      · rintro ⟨⟩
        exact ⟨rfl, htext⟩
      · rintro ⟨heq, -⟩
        cases heq
        rfl
    · rw [if_neg htext]
      refine ⟨fun h => (by cases h), ?_⟩
      rintro ⟨heq, hs⟩
      cases heq
      exact absurd hs htext
  · rename_i v hother hgiven
    refine ⟨fun h => (by cases h), fun h => ?_⟩
    rw [hgiven] at h
    exact absurd (Option.some.inj h.1) (hother s)

theorem strField_default_iff {key default s : String} :
    strField server fields key (some default) = some s ↔
      Given server fields key s ∨ List.lookup key fields = none ∧ s = default := by
  by_cases habsent : List.lookup key fields = none
  · have hfield : strField server fields key (some default) = some default := by
      unfold strField
      rw [habsent]
    rw [hfield]
    constructor
    · rintro ⟨⟩
      exact Or.inr ⟨habsent, rfl⟩
    · rintro (hgiven | ⟨-, rfl⟩)
      · rw [Given, habsent] at hgiven
        cases hgiven.1
      · rfl
  · have hfield : strField server fields key (some default) = strField server fields key none := by
      unfold strField
      split
      · rename_i h
        exact absurd h habsent
      · rfl
      · rfl
    rw [hfield, strField_required_iff]
    exact ⟨Or.inl, fun h => h.resolve_right fun hnone => habsent hnone.1⟩

theorem tsField_iff {ts : Int} : tsField server fields = some ts ↔
    (∃ v, List.lookup "ts" fields = some v ∧ server.laxInt v = some ts) ∨
      List.lookup "ts" fields = none ∧ ts = 0 := by
  unfold tsField
  rcases List.lookup "ts" fields with _ | v
  · simp [eq_comm]
  · simp

theorem payloadField_iff : payloadField fields = some payload ↔
    List.lookup "payload" fields = some (.obj payload) ∨
      List.lookup "payload" fields = none ∧ payload = [] := by
  unfold payloadField
  split
  · simp [*, eq_comm]
  · simp [*]
  · rename_i v hother hgiven
    rw [hgiven]
    refine ⟨fun h => (by cases h), ?_⟩
    rintro (h | ⟨h, -⟩)
    · exact absurd (Option.some.inj h) (hother payload)
    · cases h

/-- An object is an event when it describes one. -/
theorem modelValidate_iff {data : Json} : modelValidate server data = some event ↔
    ∃ fields, data = .obj fields ∧ Describes server fields event := by
  constructor
  · intro h
    rcases data with _ | b | n | x | s | xs | fields
    case obj =>
      simp only [modelValidate, Option.bind_eq_bind, Option.bind_eq_some_iff, Option.pure_def] at h
      obtain ⟨type, htype, page, hpage, sessionId, hsession, viewId, hview, ts, hts, payload,
        hpayload, heq⟩ := h
      cases heq
      exact ⟨fields, rfl, strField_required_iff.mp htype, strField_required_iff.mp hpage,
        strField_default_iff.mp hsession, strField_default_iff.mp hview, tsField_iff.mp hts,
        payloadField_iff.mp hpayload⟩
    all_goals cases h
  · rintro ⟨fields, rfl, h⟩
    simp only [modelValidate, strField_required_iff.mpr h.type, strField_required_iff.mpr h.page,
      strField_default_iff.mpr h.sessionId, strField_default_iff.mpr h.viewId,
      tsField_iff.mpr h.ts, payloadField_iff.mpr h.payload, Option.bind_eq_bind,
      Option.bind_some, Option.pure_def]

theorem toFloat_ok_iff {v : Json} :
    (∃ x, v.toFloat server.py = .ok x) ↔ Numeric server v := by
  rcases v with _ | b | n | x | s | xs | fields
  case int => exact ofInt_ok_iff n
  case bool => exact ⟨fun _ => trivial, fun _ => ⟨_, rfl⟩⟩
  case float => exact ⟨fun _ => trivial, fun _ => ⟨_, rfl⟩⟩
  case str =>
    rcases hparse : server.py.parseFloat s with _ | x
    · simp [Json.toFloat, Numeric, hparse]
    · simp [Json.toFloat, Numeric, hparse]
  all_goals
    refine ⟨?_, False.elim⟩
    rintro ⟨x, hx⟩
    cases hx

theorem slice200_ok_iff {v : Json} : (∃ w, slice200 v = .ok w) ↔ HasSlices v := by
  constructor
  · rintro ⟨w, hw⟩
    rcases v with _ | b | n | x | s | xs | fields
    case str => exact Or.inl ⟨s, rfl⟩
    case arr => exact Or.inr ⟨xs, rfl⟩
    all_goals cases hw
  · rintro (⟨s, rfl⟩ | ⟨xs, rfl⟩)
    · exact ⟨_, rfl⟩
    · exact ⟨_, rfl⟩

theorem measure_ok_iff {effect : Effect} {attributes : Attributes} :
    (∃ e, measure server effect attributes = .ok e) ↔
      server.instruments.refuses attributes = none := by
  unfold measure
  rcases server.instruments.refuses attributes with _ | e
  · simp
  · simp

/-- What the two histograms do: convert, then measure. -/
theorem histogram_ok_iff {v : Json} {instrument : String} {attributes : Attributes} :
    (∃ effects, (do
      let value ← v.toFloat server.py
      let recorded ← record server instrument value attributes
      return [recorded]) = (.ok effects : Except PyExc (List Effect))) ↔
        Numeric server v ∧ server.instruments.refuses attributes = none := by
  rw [← toFloat_ok_iff]
  constructor
  · rintro ⟨effects, h⟩
    obtain ⟨value, hvalue, h⟩ := bind_ok_iff.mp h
    obtain ⟨recorded, hrecorded, -⟩ := bind_ok_iff.mp h
    exact ⟨⟨value, hvalue⟩, measure_ok_iff.mp ⟨recorded, hrecorded⟩⟩
  · rintro ⟨⟨value, hvalue⟩, htaken⟩
    obtain ⟨recorded, hrecorded⟩ := measure_ok_iff.mpr htaken
    exact ⟨_, bind_ok_iff.mpr ⟨value, hvalue, bind_ok_iff.mpr ⟨recorded, hrecorded, rfl⟩⟩⟩

theorem ingestWebVital_ok_iff {page : String} :
    (∃ effects, ingestWebVital server page payload = .ok effects) ↔
      Numeric server (payload.getD "value" (.int 0)) ∧
        server.instruments.refuses
          [("metric", payload.getD "name" (.str "unknown")), ("page", .str page)] = none :=
  histogram_ok_iff

theorem ingestApi_ok_iff :
    (∃ effects, ingestApi server payload = .ok effects) ↔
      Numeric server (payload.getD "duration_ms" (.int 0)) ∧
        server.instruments.refuses [("url", payload.getD "url" (.str "unknown")),
          ("status", .str ((payload.getD "status" (.int 0)).toStr server.py))] = none :=
  histogram_ok_iff

theorem ingestJourneyStep_ok_iff {page : String} :
    (∃ effects, ingestJourneyStep server page payload = .ok effects) ↔
      server.instruments.refuses
        [("step", payload.getD "step" (.str "unknown")), ("page", .str page)] = none := by
  constructor
  · rintro ⟨effects, h⟩
    obtain ⟨added, hadded, -⟩ := bind_ok_iff.mp h
    exact measure_ok_iff.mp ⟨added, hadded⟩
  · intro htaken
    obtain ⟨added, hadded⟩ := measure_ok_iff.mpr htaken
    exact ⟨_, bind_ok_iff.mpr ⟨added, hadded, rfl⟩⟩

/-- The counter takes the type and the page, which are texts. -/
theorem ingestError_ok_iff {type page : String} :
    (∃ effects, ingestError server type page payload = .ok effects) ↔
      HasSlices (payload.getD "message" (.str "")) := by
  rw [← slice200_ok_iff]
  constructor
  · rintro ⟨effects, h⟩
    obtain ⟨added, -, h⟩ := bind_ok_iff.mp h
    obtain ⟨message, hmessage, -⟩ := bind_ok_iff.mp h
    exact ⟨message, hmessage⟩
  · rintro ⟨message, hmessage⟩
    have htext : ∀ a ∈ ([("type", .str type), ("page", .str page)] : Attributes),
        ∃ s, a.2 = .str s := by
      intro a ha
      rcases List.mem_pair.mp ha with rfl | rfl
      · exact ⟨type, rfl⟩
      · exact ⟨page, rfl⟩
    obtain ⟨added, hadded⟩ : ∃ e, add server "crm.frontend.errors" 1
        [("type", .str type), ("page", .str page)] = .ok e :=
      measure_ok_iff.mpr (server.instruments.takes_text _ htext)
    exact ⟨_, bind_ok_iff.mpr ⟨added, hadded, bind_ok_iff.mpr ⟨message, hmessage, rfl⟩⟩⟩

/-- The types of the branches exclude one another, so each asks for its own part only. -/
theorem ingestBranch_ok_iff :
    (∃ effects, ingestBranch server event = .ok effects) ↔ Usable server event := by
  unfold ingestBranch
  by_cases hvital : event.type = "web_vital"
  · rw [if_pos hvital, ingestWebVital_ok_iff]
    exact ⟨fun h => ⟨fun _ => h, by simp [hvital], by simp [hvital], by simp [hvital]⟩,
      fun h => h.webVital hvital⟩
  rw [if_neg hvital]
  by_cases hfailure : event.type = "js_error" ∨ event.type = "promise_rejection"
  · rw [if_pos hfailure, ingestError_ok_iff]
    have hstep : event.type ≠ "journey_step" := by
      rcases hfailure with h | h <;> simp [h]
    have hapi : event.type ≠ "frontend_api" := by
      rcases hfailure with h | h <;> simp [h]
    exact ⟨fun h => ⟨fun h' => absurd h' hvital, fun _ => h, fun h' => absurd h' hstep,
      fun h' => absurd h' hapi⟩, fun h => h.failure hfailure⟩
  rw [if_neg hfailure]
  by_cases hstep : event.type = "journey_step"
  · rw [if_pos hstep, ingestJourneyStep_ok_iff]
    exact ⟨fun h => ⟨fun h' => absurd h' hvital, fun h' => absurd h' hfailure, fun _ => h,
      by simp [hstep]⟩, fun h => h.journeyStep hstep⟩
  rw [if_neg hstep]
  by_cases hapi : event.type = "frontend_api"
  · rw [if_pos hapi, ingestApi_ok_iff]
    exact ⟨fun h => ⟨fun h' => absurd h' hvital, fun h' => absurd h' hfailure,
      fun h' => absurd h' hstep, fun _ => h⟩, fun h => h.api hapi⟩
  · rw [if_neg hapi]
    exact ⟨fun _ => ⟨fun h' => absurd h' hvital, fun h' => absurd h' hfailure,
      fun h' => absurd h' hstep, fun h' => absurd h' hapi⟩, fun _ => ⟨[], rfl⟩⟩

end Steps

/-- The handler returns, and the status says that there is no content. -/
def AnswersNoContent (server : Server) (rawBody : List UInt8) : Prop :=
  ∃ effects, ingestFrontendEvent server rawBody = .ok (204, effects)

section Answer
variable {server : Server} {rawBody : List UInt8}

theorem parse_raised {e : PyExc} (hne : rawBody ≠ []) (h : server.loads rawBody = .raised e) :
    parseFrontendEvent server rawBody = .error e := by
  simp [parseFrontendEvent, hne, h]

theorem parse_malformed (hne : rawBody ≠ []) (h : server.loads rawBody = .malformed) :
    parseFrontendEvent server rawBody =
      .ok (none, [.warned "Dropping malformed frontend telemetry payload"]) := by
  simp [parseFrontendEvent, hne, h]

theorem parse_invalid {data : Json} (hne : rawBody ≠ []) (h : server.loads rawBody = .value data)
    (hvalid : modelValidate server data = none) :
    parseFrontendEvent server rawBody =
      .ok (none, [.warned "Dropping invalid frontend telemetry event"]) := by
  simp [parseFrontendEvent, hne, h, hvalid]

theorem parse_valid {data : Json} {event : FrontendEvent} (hne : rawBody ≠ [])
    (h : server.loads rawBody = .value data) (hvalid : modelValidate server data = some event) :
    parseFrontendEvent server rawBody = .ok (some event, []) := by
  simp [parseFrontendEvent, hne, h, hvalid]

theorem answers_dropped {warnings : List Effect}
    (h : parseFrontendEvent server rawBody = .ok (none, warnings)) :
    AnswersNoContent server rawBody :=
  ⟨warnings, bind_ok_iff.mpr ⟨_, h, rfl⟩⟩

theorem answers_event {event : FrontendEvent} {warnings : List Effect}
    (h : parseFrontendEvent server rawBody = .ok (some event, warnings)) :
    AnswersNoContent server rawBody ↔ ∃ effects, ingestBranch server event = .ok effects := by
  constructor
  · rintro ⟨effects, hanswer⟩
    obtain ⟨parsed, hparsed, hrest⟩ := bind_ok_iff.mp hanswer
    rw [h] at hparsed
    cases hparsed
    obtain ⟨branch, hbranch, -⟩ := bind_ok_iff.mp hrest
    exact ⟨branch, hbranch⟩
  · rintro ⟨branch, hbranch⟩
    exact ⟨branch, bind_ok_iff.mpr ⟨_, h, bind_ok_iff.mpr ⟨branch, hbranch, rfl⟩⟩⟩

/-- A body is answered 204 exactly when it is harmless. -/
theorem answers_no_content_iff : AnswersNoContent server rawBody ↔ Harmless server rawBody := by
  by_cases hempty : rawBody = []
  · subst hempty
    exact ⟨fun _ => Or.inl rfl, fun _ => answers_dropped rfl⟩
  unfold Harmless
  rcases hloads : server.loads rawBody with data | _ | e
  · rcases hvalid : modelValidate server data with _ | event
    · refine ⟨fun _ => Or.inr (Or.inr ⟨data, rfl, fun fields event hdata hdescribes => ?_⟩),
        fun _ => answers_dropped (parse_invalid hempty hloads hvalid)⟩
      rw [modelValidate_iff.mpr ⟨fields, hdata, hdescribes⟩] at hvalid
      cases hvalid
    · rw [answers_event (parse_valid hempty hloads hvalid), ingestBranch_ok_iff]
      constructor
      · intro husable
        refine Or.inr (Or.inr ⟨data, rfl, fun fields event' hdata hdescribes => ?_⟩)
        rw [modelValidate_iff.mpr ⟨fields, hdata, hdescribes⟩] at hvalid
        cases hvalid
        exact husable
      · rintro (h | h | ⟨data', hdata', h⟩)
        · exact absurd h hempty
        · cases h
        · cases hdata'
          obtain ⟨fields, hdata, hdescribes⟩ := modelValidate_iff.mp hvalid
          exact h fields event hdata hdescribes
  · exact ⟨fun _ => Or.inr (Or.inl rfl), fun _ => answers_dropped (parse_malformed hempty hloads)⟩
  · constructor
    · rintro ⟨effects, hanswer⟩
      obtain ⟨parsed, hparsed, -⟩ := bind_ok_iff.mp hanswer
      rw [parse_raised hempty hloads] at hparsed
      cases hparsed
    · rintro (h | h | ⟨data, hdata, -⟩)
      · exact absurd h hempty
      · cases h
      · cases hdata

end Answer

def asciiText (rawBody : List UInt8) : Option String :=
  if rawBody.all (· < 128) then some (String.ofList (rawBody.map fun b => Char.ofNat b.toNat))
  else none

/-- Text of small numbers and little depth; what is no ASCII is taken for no text. -/
def asciiLoads (rawBody : List UInt8) : Loaded :=
  match asciiText rawBody with
  | none => .raised .valueError
  | some text => match JsonText.loads JsonText.plainFloats text with
    | some data => .value data
    | none => .malformed

/-- Instruments that hash the attribute values, which lists and dicts do not allow. -/
def hashingInstruments : Instruments where
  refuses := fun attributes =>
    if attributes.any fun a => match a.2 with
      | .arr _ => true
      | .obj _ => true
      | _ => false
    then some .typeError
    else none
  takes_text := by
    intro attributes h
    rw [if_neg]
    intro hany
    obtain ⟨a, ha, hunhashable⟩ := List.any_eq_true.mp hany
    obtain ⟨s, hs⟩ := h a ha
    rw [hs] at hunhashable
    cases hunhashable

def asciiServer : Server where
  py := asciiBuiltins fun _ => ""
  loads := asciiLoads
  encodable := fun _ => true
  laxInt := fun v => match v with
    | .int n => some n
    | _ => none
  instruments := hashingInstruments

/-- One byte that begins no text in UTF-8: the error is no JSONDecodeError. -/
theorem broken_text_raises :
    ¬ ∀ (server : Server) (rawBody : List UInt8), AnswersNoContent server rawBody := by
  intro hall
  obtain ⟨effects, hanswer⟩ := hall asciiServer [0xff]
  have hraises : ingestFrontendEvent asciiServer [0xff] = .error .valueError := rfl
  rw [hraises] at hanswer
  cases hanswer

end FrontendTelemetry
