import CrmPortal.CorsOrigins

/-!
# The health of the dependencies

`_dependency_health` asks the health paths of a dependency in turn. The first answer below
500 decides, also when it says that the path does not exist, and the first exception ends
the loop. Only answers of 500 and more lead to the next path.
-/

namespace DependencyHealth

open CorsOrigins

structure Settings where
  octoDroneShopUrl : Text
  mushopCloudnativeUrl : Text
  octoApmCloudnativeUrl : Text
  c22SkpUrl : Text
  controlPlaneUrl : Text
  platformBackendUrl : Text
  dnsDomain : Text
  atpOcid : Text
  atpConnectionName : Text
  databaseTargetLabel : String

/-- One entry of `_configured_dependencies`; `none` where it has no such key. -/
structure Dependency where
  name : String
  displayName : String
  type : String
  url : Text
  probeUrl : Option Text
  healthPaths : Option (List Text)
  configured : Option Bool
  drilldownProduct : String

/-- `a or b`. -/
def orElse (a b : Text) : Text := if a = [] then b else a

def dnsUrl (cfg : Settings) (subdomain scheme : String) : Text :=
  if cfg.dnsDomain = [] then []
  else scheme.toList ++ [':', '/', '/'] ++ subdomain.toList ++ '.' :: cfg.dnsDomain

def health : Text := ['/', 'h', 'e', 'a', 'l', 't', 'h']

def apiHealth : Text := ['/', 'a', 'p', 'i'] ++ health

def ready : Text := ['/', 'r', 'e', 'a', 'd', 'y']

def configuredDependencies (cfg : Settings) : List Dependency :=
  let probe := orElse (orElse cfg.platformBackendUrl cfg.controlPlaneUrl) (dnsUrl cfg "cp" "https")
  [{ name := "drone-shop-portal"
     displayName := "Drone Shop Portal"
     type := "application"
     url := orElse (orElse (orElse cfg.octoDroneShopUrl cfg.mushopCloudnativeUrl)
       cfg.octoApmCloudnativeUrl) (dnsUrl cfg "shop" "https")
     probeUrl := none
     healthPaths := some [health, ready]
     configured := none
     drilldownProduct := "APM" },
   { name := "seven-kingdoms-portal"
     displayName := "Seven Kingdoms Portal"
     type := "application"
     url := orElse cfg.c22SkpUrl (dnsUrl cfg "portal" "http")
     probeUrl := none
     healthPaths := some [health, ready]
     configured := none
     drilldownProduct := "APM / Log Analytics" },
   { name := "platform-control-plane"
     displayName := "Platform Control Plane"
     type := "backend"
     url := orElse (dnsUrl cfg "cp" "https") cfg.controlPlaneUrl
     probeUrl := some probe
     healthPaths := some [health, apiHealth, ready]
     configured := none
     drilldownProduct := "APM" },
   { name := "platform-backend"
     displayName := "Platform Backends"
     type := "backend"
     url := orElse cfg.platformBackendUrl (dnsUrl cfg "cp" "https")
     probeUrl := some probe
     healthPaths := some [health, apiHealth, ready]
     configured := none
     drilldownProduct := "Log Analytics" },
   { name := "octo-apm-atp"
     displayName := "OCTO ATP Backend"
     type := "database"
     url := []
     probeUrl := none
     healthPaths := some []
     configured := some (decide (cfg.atpOcid ≠ []) || decide (cfg.atpConnectionName ≠ []))
     drilldownProduct := "DB Management / OPSI" }]

/-- What comes of a request: a status code, or an exception of the client. -/
inductive Outcome where
  | answered (statusCode : Nat)
  | raised (error : String)

/-- The outcome of the request of this number for a URL. -/
abbrev Network := Nat → Text → Outcome

inductive Status where
  | configured
  | notConfigured
  | healthy
  | degraded
  | unhealthy
  | unreachable
  deriving DecidableEq

/-- The keys that are added to those of the dependency. -/
structure Report where
  dependency : Dependency
  configured : Bool
  status : Status
  healthUrl : Option Text := none
  statusCode : Option Nat := none
  error : Option String := none
  databaseTarget : Option String := none
  atpOcid : Option Text := none
  connectionName : Option Text := none

/-- The loop over the paths, `sent` requests after its start. -/
def probePaths (network : Network) (probeUrl : Text) (report : Report) :
    Nat → List Text → Report
  | _, [] => { report with status := .unhealthy }
  | sent, path :: rest =>
    let healthUrl := stripSlashes probeUrl ++ path
    match network sent healthUrl with
    | .raised error => { report with status := .unreachable, error := some error }
    | .answered statusCode =>
      if statusCode < 500 then
        { report with
          status := if statusCode < 400 then .healthy else .degraded
          healthUrl := some healthUrl
          statusCode := some statusCode }
      else probePaths network probeUrl report (sent + 1) rest

/-- `value or None`. -/
def orNone (value : Text) : Option Text := if value = [] then none else some value

def Dependency.target (dep : Dependency) : Text := orElse (dep.probeUrl.getD []) dep.url

def Dependency.paths (dep : Dependency) : List Text := dep.healthPaths.getD [health]

def dependencyHealth (cfg : Settings) (network : Network) (dep : Dependency) : Report :=
  if dep.name = "octo-apm-atp" then
    let configured := dep.configured.getD false
    { dependency := dep
      configured := configured
      status := if configured then .configured else .notConfigured
      databaseTarget := some cfg.databaseTargetLabel
      atpOcid := orNone cfg.atpOcid
      connectionName := orNone cfg.atpConnectionName }
  else
    let configured := decide (dep.url ≠ []) || decide (dep.target ≠ [])
    let report : Report := { dependency := dep, configured := configured, status := .notConfigured }
    if configured then probePaths network dep.target report 0 dep.paths else report

/-- The outcomes for the paths, if all of them are asked. -/
def outcomes (network : Network) (probeUrl : Text) : Nat → List Text → List Outcome
  | _, [] => []
  | sent, path :: rest =>
    network sent (stripSlashes probeUrl ++ path) :: outcomes network probeUrl (sent + 1) rest

def Dependency.outcomes (dep : Dependency) (network : Network) : List Outcome :=
  DependencyHealth.outcomes network dep.target 0 dep.paths

def Outcome.IsServerError : Outcome → Prop
  | .answered statusCode => 500 ≤ statusCode
  | .raised _ => False

/-- Some path answers with a status below 400. -/
def AnyHealthy (results : List Outcome) : Prop :=
  ∃ statusCode, Outcome.answered statusCode ∈ results ∧ statusCode < 400

/-- The first path that does not answer with a status of 500 or more answers with one
below 400. -/
def FirstHealthy (results : List Outcome) : Prop :=
  ∃ before statusCode after, results = before ++ .answered statusCode :: after ∧
    (∀ result ∈ before, result.IsServerError) ∧ statusCode < 400

theorem firstHealthy_nil : ¬ FirstHealthy [] := by
  rintro ⟨before, statusCode, after, h, -⟩
  exact absurd h (by simp)

theorem firstHealthy_cons_iff {result : Outcome} {results : List Outcome} :
    FirstHealthy (result :: results) ↔
      (∃ statusCode, result = .answered statusCode ∧ statusCode < 400) ∨
        (result.IsServerError ∧ FirstHealthy results) := by
  constructor
  · rintro ⟨before, statusCode, after, hsplit, hbefore, hlow⟩
    cases before with
    | nil =>
      obtain ⟨rfl, -⟩ := List.cons.inj hsplit
      exact Or.inl ⟨statusCode, rfl, hlow⟩
    | cons first before =>
      obtain ⟨rfl, hrest⟩ := List.cons.inj hsplit
      obtain ⟨hfirst, hbefore⟩ := List.forall_mem_cons.mp hbefore
      exact Or.inr ⟨hfirst, before, statusCode, after, hrest, hbefore, hlow⟩
  · rintro (⟨statusCode, rfl, hlow⟩ | ⟨hserver, before, statusCode, after, rfl, hbefore, hlow⟩)
    · exact ⟨[], statusCode, results, rfl, by simp, hlow⟩
    · exact ⟨result :: before, statusCode, after, rfl,
        List.forall_mem_cons.mpr ⟨hserver, hbefore⟩, hlow⟩

theorem status_probePaths_iff (network : Network) (probeUrl : Text) (report : Report)
    (sent : Nat) (paths : List Text) :
    (probePaths network probeUrl report sent paths).status = .healthy ↔
      FirstHealthy (outcomes network probeUrl sent paths) := by
  induction paths generalizing sent with
  | nil => simp [probePaths, outcomes, firstHealthy_nil]
  | cons path rest ih =>
    simp only [probePaths, outcomes, firstHealthy_cons_iff]
    cases network sent (stripSlashes probeUrl ++ path) with
    | raised error => simp [Outcome.IsServerError]
    | answered statusCode =>
      by_cases hlow : statusCode < 500
      · have hnot : ¬ 500 ≤ statusCode := Nat.not_le.mpr hlow
        by_cases hhealthy : statusCode < 400
        · simp [hlow, hhealthy]
        · simp [Outcome.IsServerError, hlow, hhealthy, hnot]
      · have hserver : 500 ≤ statusCode := Nat.not_lt.mp hlow
        have hhigh : ¬ statusCode < 400 := by omega
        simp [Outcome.IsServerError, hlow, hserver, hhigh, ih]

/-- A dependency is reported healthy if it has a URL and its first path without a server
error answers below 400. -/
theorem healthy_iff_first {cfg : Settings} {network : Network} {dep : Dependency}
    (hname : dep.name ≠ "octo-apm-atp") :
    (dependencyHealth cfg network dep).status = .healthy ↔
      (dep.url ≠ [] ∨ dep.target ≠ []) ∧ FirstHealthy (dep.outcomes network) := by
  unfold dependencyHealth
  rw [if_neg hname]
  by_cases hconfigured : dep.url ≠ [] ∨ dep.target ≠ []
  · have hdecide : (decide (dep.url ≠ []) || decide (dep.target ≠ [])) = true := by
      simpa using hconfigured
    simp only [hdecide, if_true, hconfigured, true_and]
    exact status_probePaths_iff ..
  · simp [hconfigured]

def sampleSettings : Settings where
  octoDroneShopUrl := []
  mushopCloudnativeUrl := []
  octoApmCloudnativeUrl := []
  c22SkpUrl := ['s', 'k', 'p']
  controlPlaneUrl := []
  platformBackendUrl := []
  dnsDomain := []
  atpOcid := []
  atpConnectionName := []
  databaseTargetLabel := "postgresql"

def sampleDependency : Dependency where
  name := "seven-kingdoms-portal"
  displayName := "Seven Kingdoms Portal"
  type := "application"
  url := ['s', 'k', 'p']
  probeUrl := none
  healthPaths := some [health, ready]
  configured := none
  drilldownProduct := "APM / Log Analytics"

theorem sample_configured : sampleDependency ∈ configuredDependencies sampleSettings :=
  List.mem_cons_of_mem _ List.mem_cons_self

/-- The first request has this outcome, all later ones are answered with 200. -/
def firstOutcome (first : Outcome) : Network
  | 0, _ => first
  | _ + 1, _ => .answered 200

theorem sample_healthy_iff :
    (dependencyHealth sampleSettings (firstOutcome (.answered 503)) sampleDependency).status =
      .healthy := by
  refine (healthy_iff_first (by decide)).mpr ⟨Or.inl (by decide), ?_⟩
  refine ⟨[.answered 503], 200, [], rfl, ?_, by decide⟩
  intro result hresult
  obtain rfl := List.mem_singleton.mp hresult
  show 500 ≤ 503
  decide

/-- The second path answers with 200, but the first one has decided. -/
theorem first_outcome_decides :
    sampleDependency ∈ configuredDependencies sampleSettings ∧
    (AnyHealthy (sampleDependency.outcomes (firstOutcome (.answered 404))) ∧
      (dependencyHealth sampleSettings (firstOutcome (.answered 404)) sampleDependency).status =
        .degraded) ∧
    AnyHealthy (sampleDependency.outcomes (firstOutcome (.raised "timed out"))) ∧
      (dependencyHealth sampleSettings (firstOutcome (.raised "timed out"))
        sampleDependency).status = .unreachable := by
  refine ⟨sample_configured, ⟨⟨200, ?_, by decide⟩, rfl⟩, ⟨200, ?_, by decide⟩, rfl⟩
  · exact List.mem_cons_of_mem _ List.mem_cons_self
  · exact List.mem_cons_of_mem _ List.mem_cons_self

end DependencyHealth
