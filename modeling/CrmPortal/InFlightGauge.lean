import CrmPortal.Library.Grouping
import CrmPortal.Library.Schedule
import CrmPortal.PyValue

/-!
# The gauge of the requests in flight

`MetricsMiddleware` counts a request up under the path of its URL and counts it down
when the inner application is done with it. By then the router may have left the route
that matched in the scope, and the label of the way down is the path of that route, with
its parameters in braces. A request that raises is counted down under its URL.

The gauge is always the requests in flight, plus what the differing labels have left.
-/

namespace InFlightGauge

open PyValue UpDownCounter Schedule

/-- Route and method. -/
abbrev Label := String × String

structure Started where
  path : String
  method : String
  deriving DecidableEq

/-- An entry of the scope under "route"; `path` is `getattr(route_obj, "path", None)`. -/
structure Route where
  path : Option String

/-- How the inner application ends: with a response, and the route that the scope holds by
then, or by an exception. -/
inductive Exit where
  | returned (statusCode : Nat) (route : Option Route)
  | raised

structure RequestAttributes where
  route : String
  method : String
  statusCode : String
  statusClass : String

structure HttpMetrics where
  requestsInFlight : Counter Label
  requestsTotal : List RequestAttributes
  requestDuration : List (RequestAttributes × PyFloat)

def requestStarted (m : HttpMetrics) (route method : String) : HttpMetrics :=
  { m with requestsInFlight := add m.requestsInFlight (route, method) 1 }

def requestFinished (m : HttpMetrics) (route method : String) : HttpMetrics :=
  { m with requestsInFlight := add m.requestsInFlight (route, method) (-1) }

def requestAttributes (route method : String) (statusCode : Nat) : RequestAttributes where
  route := route
  method := method
  statusCode := toString statusCode
  statusClass := s!"{statusCode / 100}xx"

def recordRequest (m : HttpMetrics) (route method : String) (statusCode : Nat)
    (durationMs : PyFloat) : HttpMetrics :=
  let attrs := requestAttributes route method statusCode
  { m with
    requestsTotal := m.requestsTotal ++ [attrs]
    requestDuration := m.requestDuration ++ [(attrs, durationMs)] }

/-- The label with which the `finally` block counts. -/
def finishedRoute (path : String) : Exit → String
  | .returned _ (some ⟨some template⟩) => if template = "" then path else template
  | _ => path

def statusCode : Exit → Nat
  | .returned code _ => code
  | .raised => 500

structure Server where
  inFlight : List Started
  metrics : HttpMetrics

def Server.start : Server := ⟨[], ⟨[], [], []⟩⟩

/-- Requests of one path and method in flight at a time are not told apart. -/
inductive Action where
  | start (request : Started)
  | finish (request : Started) (exit : Exit) (durationMs : PyFloat)

def step (s : Server) : Action → Option Server
  | .start request =>
    some ⟨request :: s.inFlight, requestStarted s.metrics request.path request.method⟩
  | .finish request exit durationMs =>
    if request ∈ s.inFlight then
      let route := finishedRoute request.path exit
      some ⟨s.inFlight.erase request,
        recordRequest (requestFinished s.metrics route request.method) route request.method
          (statusCode exit) durationMs⟩
    else none

def Started.label (request : Started) : Label := (request.path, request.method)

/-- How many requests are in flight that were counted up under the label. -/
def carried (s : Server) (label : Label) : Nat := (s.inFlight.map Started.label).count label

/-- What a step takes from the label of the URL and from the label of the route. -/
def drift (label : Label) : Action → ℤ
  | .start _ => 0
  | .finish request exit _ =>
    (if request.label = label then 1 else 0) -
      if (finishedRoute request.path exit, request.method) = label then 1 else 0

section Account
variable {s t : Server} {a : Action}

theorem carried_erase {request : Started} (mem : request ∈ s.inFlight) (label : Label) :
    (carried s label : ℤ) = ((s.inFlight.erase request).map Started.label).count label +
      if request.label = label then 1 else 0 := by
  have hperm := (List.perm_cons_erase mem).map Started.label
  rw [carried, hperm.count_eq, List.map_cons, List.count_cons]
  simp

/-- A step moves the gauge as it moves the requests in flight, and by its drift. -/
theorem step_account (hstep : step s a = some t) (label : Label) :
    value t.metrics.requestsInFlight label - carried t label =
      value s.metrics.requestsInFlight label - carried s label + drift label a := by
  cases a with
  | start request =>
    obtain rfl := Option.some.inj hstep
    simp only [requestStarted, value_add, carried, List.map_cons, List.count_cons, drift]
    by_cases hlabel : request.label = label
    · have hpair : (request.path, request.method) = label := hlabel
      simp [hlabel, hpair]
    · have hpair : (request.path, request.method) ≠ label := hlabel
      simp [hlabel, hpair]
  | finish request exit durationMs =>
    simp only [step] at hstep
    split at hstep
    · next hmem =>
      obtain rfl := Option.some.inj hstep
      rw [carried_erase hmem label]
      simp only [recordRequest, requestFinished, value_add, carried, drift]
      split
      · omega
      · omega
    · cases hstep

/-- The gauge at any moment: the requests in flight, and the drift of the steps so far. -/
theorem run_account {schedule : List Action} (hrun : exec step Server.start schedule = some s)
    (label : Label) : value s.metrics.requestsInFlight label =
      carried s label + (schedule.map (drift label)).sum := by
  have hhistory : value s.metrics.requestsInFlight label - carried s label =
      (schedule.map (drift label)).sum := by
    refine exec_history (P := fun done t => value t.metrics.requestsInFlight label -
      carried t label = (done.map (drift label)).sum) (by rfl) ?_ hrun
    intro done t a u _ hdone hstep
    rw [step_account hstep label, hdone, List.map_append, List.sum_append]
    simp
  omega

end Account

/-- The gauge of each label is never negative, and nothing is left when no request is in
flight. -/
def Balanced (s : Server) : Prop :=
  ∀ label, 0 ≤ value s.metrics.requestsInFlight label ∧
    (s.inFlight = [] → value s.metrics.requestsInFlight label = 0)

/-- The scope of a request that ends with a response holds no route, or one without a
path, or one whose path is the path of its URL. -/
def OwnRoute : Action → Prop
  | .finish request (.returned _ (some ⟨some template⟩)) _ =>
    template = "" ∨ template = request.path
  | _ => True

theorem drift_own {a : Action} (own : OwnRoute a) (label : Label) : drift label a = 0 := by
  cases a with
  | start request => rfl
  | finish request exit durationMs =>
    have hroute : finishedRoute request.path exit = request.path := by
      rcases exit with ⟨code, _ | ⟨_ | template⟩⟩ | _
      · rfl
      · rfl
      · rcases own with rfl | rfl
        · rfl
        · exact ite_self _
      · rfl
    simp only [drift, hroute, Started.label]
    exact Int.sub_self _

/-- Whatever requests come in and however they are interleaved and end, the gauge is
balanced as long as they are counted down under their own URL. -/
theorem gauge_balanced {schedule : List Action} {s : Server}
    (hrun : exec step Server.start schedule = some s) (own : ∀ a ∈ schedule, OwnRoute a) :
    Balanced s := by
  have hdrift : ∀ label, (schedule.map (drift label)).sum = 0 := by
    intro label
    apply List.sum_eq_zero
    intro n hn
    obtain ⟨a, ha, rfl⟩ := List.mem_map.mp hn
    exact drift_own (own a ha) label
  intro label
  rw [run_account hrun label, hdrift label]
  constructor
  · omega
  · intro hidle
    simp [carried, hidle]

def customerSeven : Started := ⟨"/api/customers/7", "GET"⟩

def oneCustomer : List Action :=
  [.start customerSeven,
    .finish customerSeven (.returned 200 (some ⟨some "/api/customers/\x7bcustomer_id\x7d"⟩)) .zero]

/-- The template of the route is counted down to -1, the URL stays at 1. -/
theorem customer_page_drifts :
    ¬ ∀ schedule s, exec step Server.start schedule = some s → Balanced s := by
  intro hall
  obtain ⟨hnonneg, -⟩ := hall oneCustomer _ rfl ("/api/customers/\x7bcustomer_id\x7d", "GET")
  exact absurd hnonneg (by decide)

def twoLists : List Action :=
  [.start ⟨"/api/customers", "GET"⟩, .start ⟨"/api/customers", "GET"⟩,
    .finish ⟨"/api/customers", "GET"⟩ (.returned 200 (some ⟨some "/api/customers"⟩)) .zero,
    .finish ⟨"/api/customers", "GET"⟩ .raised .zero]

theorem gauge_balanced_lists :
    ∃ s, exec step Server.start twoLists = some s ∧ Balanced s := by
  have hrun : ∃ s, exec step Server.start twoLists = some s := ⟨_, rfl⟩
  obtain ⟨s, hrun⟩ := hrun
  refine ⟨s, hrun, gauge_balanced hrun ?_⟩
  simp [twoLists, OwnRoute]

end InFlightGauge
