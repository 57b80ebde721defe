import CrmPortal.RequestContext
import CrmPortal.MiddlewareStack

/-!
# Simulation switches

The simulation endpoints change a dictionary of the process, the database session and the
chaos middleware read settings that the process took from its environment at its start.
Only the error rate is read from the dictionary.
-/

namespace SimulationSwitches

open PyValue SessionGate CrmDatabase Transaction UnitOfWork RequestContext

inductive Flag where
  | dbLatency
  | dbDisconnect
  | memoryLeak
  | cpuSpike
  | slowQueries
  deriving DecidableEq

def Flag.field : Flag → String
  | .dbLatency => "db_latency"
  | .dbDisconnect => "db_disconnect"
  | .memoryLeak => "memory_leak"
  | .cpuSpike => "cpu_spike"
  | .slowQueries => "slow_queries"

def Flag.all : List Flag := [.dbLatency, .dbDisconnect, .memoryLeak, .cpuSpike, .slowQueries]

/-- `SIMULATE_*` of the environment, and whether a database is configured. -/
structure Settings where
  simulate : Flag → Bool
  hasSessionFactory : Bool

def Settings.db (cfg : Settings) : DbConfig := ⟨cfg.simulate .dbDisconnect, cfg.hasSessionFactory⟩

/-- `_sim_state`. -/
structure SimState where
  flag : Flag → Bool
  errorRate : PyFloat

def SimState.initial : SimState := ⟨fun _ => false, .zero⟩

/-- `SimulationConfig`; a field that is left out is a null. -/
structure SimulationConfig where
  flag : Flag → Option Bool
  errorRate : Option PyFloat

structure Change where
  field : String
  old : Json
  new : Json

def changes (config : SimulationConfig) (sim : SimState) : List Change :=
  (Flag.all.filterMap fun f =>
    (config.flag f).map fun value => ⟨f.field, .bool (sim.flag f), .bool value⟩) ++
  (config.errorRate.map fun value => ⟨"error_rate", .float sim.errorRate, .float value⟩).toList

/-- The new state, and the changes that the answer lists. -/
def configureSimulation (config : SimulationConfig) (sim : SimState) : SimState × List Change :=
  (⟨fun f => (config.flag f).getD (sim.flag f), config.errorRate.getD sim.errorRate⟩,
    changes config sim)

def resetSimulation (_ : SimState) : SimState := SimState.initial

inductive Call where
  | configure (config : SimulationConfig)
  | reset

def Call.apply (sim : SimState) : Call → SimState
  | .configure config => (configureSimulation config sim).1
  | .reset => resetSimulation sim

def afterCalls (sim : SimState) (calls : List Call) : SimState := calls.foldl Call.apply sim

/-- What `get_db` does before it opens a session. -/
structure Opening where
  slept : Option ℚ
  result : Except PyExc PUnit

def openDb (cfg : Settings) : Opening :=
  if cfg.simulate .dbDisconnect then ⟨none, .error .connectionError⟩
  else ⟨if cfg.simulate .dbLatency then some (5 / 2) else none,
    if cfg.hasSessionFactory then .ok ⟨⟩ else .error .runtimeError⟩

/-- What the chaos middleware draws for a request. -/
structure Draws where
  cpu : ℚ
  delay : ℚ
  error : ℚ

/-- What it does with the request; an error is its own answer. -/
structure Injected where
  cpuSpike : Bool
  leaked : Bool
  delay : Option ℚ
  error : Bool

def dispatch (cfg : Settings) (sim : SimState) (path : String) (draws : Draws) : Injected where
  cpuSpike := cfg.simulate .cpuSpike && decide (draws.cpu < 3 / 10)
  leaked := cfg.simulate .memoryLeak
  delay := if cfg.simulate .slowQueries && startsWith path "/api/" then some draws.delay else none
  error := PyFloat.lt .zero sim.errorRate && !startsWith path "/api/simulate" &&
    PyFloat.lt (.fin draws.error) sim.errorRate

/-- What comes before the session of `get_db`, over any block. -/
theorem getDb_opening {Sent Answer Value : Type} (cfg : Settings) (faults : Faults PyExc)
    (block : Block Db PyExc (Response Answer) Value) (w : World Sent) :
    (∀ e, (openDb cfg).result = .error e → getDb cfg.db faults block w = (.error e, w)) ∧
      ((openDb cfg).result = .ok ⟨⟩ →
        getDb cfg.db faults block w = getDb ⟨false, true⟩ faults block w) := by
  unfold openDb getDb Settings.db
  dsimp only
  cases cfg.simulate .dbDisconnect <;> cases cfg.hasSessionFactory <;> simp

/-- The value that a call gives to the flag, if it gives one. -/
def Call.sets (f : Flag) : Call → Option Bool
  | .configure config => config.flag f
  | .reset => some false

/-- The value of the last call that gives one. -/
def lastSet (initial : Bool) (f : Flag) (calls : List Call) : Bool :=
  (calls.reverse.findSome? (Call.sets f)).getD initial

theorem apply_flag (sim : SimState) (call : Call) (f : Flag) :
    (call.apply sim).flag f = (call.sets f).getD (sim.flag f) := by
  cases call with
  | configure config => rfl
  | reset => rfl

theorem afterCalls_flag (sim : SimState) (calls : List Call) (f : Flag) :
    (afterCalls sim calls).flag f = lastSet (sim.flag f) f calls := by
  unfold afterCalls lastSet
  induction calls generalizing sim with
  | nil => rfl
  | cons call rest ih =>
    rw [List.foldl_cons, ih, List.reverse_cons, List.findSome?_append, apply_flag]
    cases rest.reverse.findSome? (Call.sets f) with
    | none => simp
    | some value => rfl

/-- The faults are made as the simulation state says. -/
structure Driven (cfg : Settings) (sim : SimState) : Prop where
  disconnect : (openDb cfg).result = .error .connectionError ↔ sim.flag .dbDisconnect = true
  latency : (openDb cfg).slept.isSome = true ↔ sim.flag .dbLatency = true
  memoryLeak : ∀ path draws, (dispatch cfg sim path draws).leaked = true ↔
    sim.flag .memoryLeak = true
  slowQueries : ∀ path draws, (dispatch cfg sim path draws).delay.isSome = true ↔
    sim.flag .slowQueries = true ∧ startsWith path "/api/" = true
  errorRate : ∀ path draws, (dispatch cfg sim path draws).error = true ↔
    PyFloat.lt .zero sim.errorRate = true ∧ startsWith path "/api/simulate" = false ∧
      PyFloat.lt (.fin draws.error) sim.errorRate = true

/-- The state says what the environment said at the start; a disconnect hides the latency. -/
structure SameSwitches (cfg : Settings) (flag : Flag → Bool) : Prop where
  disconnect : cfg.simulate .dbDisconnect = flag .dbDisconnect
  latency : (cfg.simulate .dbLatency && !cfg.simulate .dbDisconnect) = flag .dbLatency
  memoryLeak : cfg.simulate .memoryLeak = flag .memoryLeak
  slowQueries : cfg.simulate .slowQueries = flag .slowQueries

theorem driven_iff (cfg : Settings) (sim : SimState) :
    Driven cfg sim ↔ SameSwitches cfg sim.flag := by
  have hdisconnect : (openDb cfg).result = .error .connectionError ↔
      cfg.simulate .dbDisconnect = true := by
    unfold openDb
    cases cfg.simulate .dbDisconnect <;> cases cfg.hasSessionFactory <;> simp
  have hlatency : (openDb cfg).slept.isSome = true ↔
      (cfg.simulate .dbLatency && !cfg.simulate .dbDisconnect) = true := by
    unfold openDb
    cases cfg.simulate .dbDisconnect <;> cases cfg.simulate .dbLatency <;> simp
  have hslow : ∀ path draws, (dispatch cfg sim path draws).delay.isSome = true ↔
      cfg.simulate .slowQueries = true ∧ startsWith path "/api/" = true := by
    intro path draws
    unfold dispatch
    cases cfg.simulate .slowQueries <;> cases startsWith path "/api/" <;> simp
  constructor
  · intro h
    refine ⟨?_, ?_, ?_, ?_⟩
    · exact Bool.eq_iff_iff.mpr (hdisconnect.symm.trans h.disconnect)
    · exact Bool.eq_iff_iff.mpr (hlatency.symm.trans h.latency)
    · exact Bool.eq_iff_iff.mpr (h.memoryLeak "/" ⟨0, 0, 0⟩)
    · have hpath : startsWith "/api/" "/api/" = true := by decide
      have hboth := (hslow "/api/" ⟨0, 0, 0⟩).symm.trans (h.slowQueries "/api/" ⟨0, 0, 0⟩)
      simp only [hpath, and_true] at hboth
      exact Bool.eq_iff_iff.mpr hboth
  · intro h
    refine ⟨?_, ?_, fun path draws => ?_, fun path draws => ?_, fun path draws => ?_⟩
    · rw [hdisconnect, h.disconnect]
    · rw [hlatency, h.latency]
    · rw [← h.memoryLeak]
      rfl
    · rw [hslow, h.slowQueries]
    · simp [dispatch, and_assoc]

/-- After any calls the faults follow the state exactly when the last calls that set the
flags set them to what the environment says. -/
theorem driven_after_iff (cfg : Settings) (sim : SimState) (calls : List Call) :
    Driven cfg (afterCalls sim calls) ↔
      SameSwitches cfg fun f => lastSet (sim.flag f) f calls := by
  have hflags : (afterCalls sim calls).flag = fun f => lastSet (sim.flag f) f calls :=
    funext fun f => afterCalls_flag sim calls f
  rw [driven_iff, hflags]

/-- A disconnect is switched on where the environment has none. -/
theorem switched_disconnect_ignored : ¬ ∀ (cfg : Settings) (calls : List Call),
    Driven cfg (afterCalls SimState.initial calls) := by
  intro hall
  have hdriven := hall ⟨fun _ => false, true⟩
    [.configure ⟨fun f => if f = .dbDisconnect then some true else none, none⟩]
  have hraised := hdriven.disconnect.mpr rfl
  cases hraised

end SimulationSwitches
