import CrmPortal.Library.Schedule
import CrmPortal.SessionLookup

/-!
# The portal over its replicas

The replicas share the tables; each has its own session cache and login attempts.
An operation is atomic and happens at one time of a clock that does not go back.
What a database statement or a read does wrong is chosen by the operation.
-/

namespace Portal

open PyValue Accounts SessionLookup UnitOfWork

def loginWindowSeconds : ℚ := 300

/-- `attempts[:] = [ts for ts in attempts if now - ts <= LOGIN_WINDOW_SECONDS]`. -/
def pruneAttempts (now : ℚ) (attempts : List ℚ) : List ℚ :=
  attempts.filter fun ts => decide (now - ts ≤ loginWindowSeconds)

def limited (server : Server) (attempts : List ℚ) : Bool :=
  decide (server.maxLoginAttempts ≤ attempts.length)

structure LoginRequest where
  username : String
  password : String
  clientIp : String

def Replica.setAttempts (rep : Replica) (clientIp : String) (attempts : Option (List ℚ)) :
    Replica :=
  { rep with loginAttempts := Function.update rep.loginAttempts clientIp attempts }

/-- A failure is recorded, a success clears the record, an exception does neither. -/
def attemptsAfter (now : ℚ) (attempts : List ℚ)
    (result : Except (Exit PyExc LoginAnswer) User) : Option (List ℚ) :=
  match result with
  | .ok _ => none
  | .error (.returned _) => some (attempts ++ [now])
  | .error (.raised _) => some attempts

def loginAnswer (ended : Ended Tables PyExc LoginAnswer User) : Except PyExc LoginAnswer :=
  match ended with
  | .committed (.inl answer) _ => .ok answer
  | .committed (.inr user) _ => .ok (.success user.id user.username user.role)
  | .rolledBack e _ => .error e

def login (server : Server) (faults : Faults PyExc) (req : LoginRequest) (sid : String) (now : ℚ)
    (db : Tables) (rep : Replica) : Except PyExc LoginAnswer × Tables × Replica :=
  let attempts := pruneAttempts now ((rep.loginAttempts req.clientIp).getD [])
  if limited server attempts then
    (.ok .rateLimited, db, Replica.setAttempts rep req.clientIp (some attempts))
  else
    let block := loginBlock server faults req.username req.password sid
    let ended := run faults Tables.rollback block db
    (loginAnswer ended, ended.state, Replica.setAttempts rep req.clientIp
      (attemptsAfter now attempts (block ⟨db, 0⟩).1))

section Login
variable {server : Server} {faults : Faults PyExc} {req : LoginRequest} {sid : String} {now : ℚ}
  {db : Tables} {rep : Replica}

theorem login_limited
    (h : limited server (pruneAttempts now ((rep.loginAttempts req.clientIp).getD [])) = true) :
    login server faults req sid now db rep = (.ok .rateLimited, db,
      Replica.setAttempts rep req.clientIp
        (some (pruneAttempts now ((rep.loginAttempts req.clientIp).getD [])))) := by
  unfold login
  rw [if_pos h]

theorem login_admitted
    (h : limited server (pruneAttempts now ((rep.loginAttempts req.clientIp).getD [])) = false) :
    login server faults req sid now db rep =
      (loginAnswer (run faults Tables.rollback
          (loginBlock server faults req.username req.password sid) db),
        (run faults Tables.rollback
          (loginBlock server faults req.username req.password sid) db).state,
        Replica.setAttempts rep req.clientIp
          (attemptsAfter now (pruneAttempts now ((rep.loginAttempts req.clientIp).getD []))
            (loginBlock server faults req.username req.password sid ⟨db, 0⟩).1)) := by
  unfold login
  rw [if_neg (by simp [h])]

end Login

def register (server : Server) (faults : Faults PyExc) (req : RegisterRequest) (db : Tables) :
    Ended Tables PyExc Empty RegisterAnswer :=
  run faults Tables.rollback (registerBlock server faults req) db

/-- Nothing is deleted for an empty cookie, and no cache is touched. -/
def logout (faults : Faults PyExc) (sessionCookie : String) (db : Tables) : Tables :=
  if sessionCookie = "" then db
  else (run faults Tables.rollback (logoutBlock faults sessionCookie) db).state

/-- Two blocks: the user is committed before the session is opened. -/
def ssoCallback (server : Server) (userFaults sessionFaults : Faults PyExc) (claims : Obj)
    (sid : String) (db : Tables) : Tables :=
  match ssoIdentity server.py claims with
  | .error _ => db
  | .ok identity =>
    match run userFaults Tables.rollback (ssoUserBlock server userFaults identity) db with
    | .committed (.inr (some user)) db =>
      (run sessionFaults Tables.rollback (ssoSessionBlock sessionFaults user sid) db).state
    | ended => ended.state

/-- What the guards see of the user that the gate found. -/
def requestOf (user : Option SessionData) : RequestContext.Request where
  currentUser := user.map fun data => ⟨some data.userId, some data.role⟩
  clientHost := none
  userAgent := ""
  correlationId := ""

/-- The role that a permitted request asks for. -/
def requestedRole (server : Server) (user : Option SessionData) (body : Json) :
    Except PyExc String := do
  let _ ← RequestContext.requireAdminUser server.py (requestOf user)
  let fields ← body.asDict
  let role := newRole server.py fields
  if role ∈ allowedRoles then return role else .error (.httpException 400)

def changeUserRole (server : Server) (faults : Faults PyExc) (user : Option SessionData)
    (userId : Int) (body : Json) (db : Tables) : Tables :=
  match requestedRole server user body with
  | .error _ => db
  | .ok role => (run faults Tables.rollback (changeRoleBlock faults userId role) db).state

def bootstrapDatabase (server : Server) (faults : Faults PyExc) (passwordHash : String)
    (db : Tables) : Tables :=
  (run faults Tables.rollback (bootstrapBlock server faults passwordHash) db).state

structure State (ι : Type) where
  db : Tables
  replica : ι → Replica
  now : ℚ

/-- `replica` is the process that serves the request. -/
inductive Op (ι : Type) where
  | bootstrapDatabase (passwordHash : String) (faults : Faults PyExc)
  | register (req : RegisterRequest) (faults : Faults PyExc)
  | login (replica : ι) (req : LoginRequest) (sid : String) (faults : Faults PyExc)
  | ssoCallback (claims : Obj) (sid : String) (userFaults sessionFaults : Faults PyExc)
  | logout (sessionCookie : String) (faults : Faults PyExc)
  | getCurrentUser (replica : ι) (sid : String) (failure : Option DbError)
  | changeUserRole (replica : ι) (sid : String) (failure : Option DbError) (userId : Int)
      (body : Json) (faults : Faults PyExc)

structure Action (ι : Type) where
  op : Op ι
  time : ℚ

section Step
variable {ι : Type}

/-- The read of the row, unless it fails. -/
def readSession (db : Tables) (sid : String) (failure : Option DbError) :
    Except DbError (Option UserSession) :=
  match failure with
  | some e => .error e
  | none => .ok (db.session sid)

/-- `get_current_user` on a replica, with its one time. -/
def currentUser (s : State ι) (replica : ι) (sid : String) (failure : Option DbError) (now : ℚ) :
    LookupResult × Replica :=
  getCurrentUser sid ⟨now, now⟩ (readSession s.db sid failure) (s.replica replica)

/-- The user that the gate hands on: none where it answers itself. -/
def gateUser (result : LookupResult) : Option SessionData :=
  match result with
  | .ok user => user
  | .error _ => none

/-- The processes have just been started. -/
def start (db : Tables) (now : ℚ) : State ι := ⟨db, fun _ => Replica.started, now⟩

variable [DecidableEq ι]

def State.setReplica (s : State ι) (replica : ι) (rep : Replica) : State ι :=
  { s with replica := Function.update s.replica replica rep }

def perform (server : Server) (op : Op ι) (now : ℚ) (s : State ι) : State ι :=
  match op with
  | .bootstrapDatabase passwordHash faults =>
    { s with db := bootstrapDatabase server faults passwordHash s.db }
  | .register req faults => { s with db := (register server faults req s.db).state }
  | .login replica req sid faults =>
    let result := login server faults req sid now s.db (s.replica replica)
    { s with db := result.2.1 }.setReplica replica result.2.2
  | .ssoCallback claims sid userFaults sessionFaults =>
    { s with db := ssoCallback server userFaults sessionFaults claims sid s.db }
  | .logout sessionCookie faults => { s with db := logout faults sessionCookie s.db }
  | .getCurrentUser replica sid failure =>
    s.setReplica replica (currentUser s replica sid failure now).2
  | .changeUserRole replica sid failure userId body faults =>
    let result := currentUser s replica sid failure now
    { s with db := changeUserRole server faults (gateUser result.1) userId body s.db }.setReplica
      replica result.2

def step (server : Server) (s : State ι) (a : Action ι) : Option (State ι) :=
  if s.now ≤ a.time then some { perform server a.op a.time s with now := a.time } else none

theorem step_eq_some_iff {server : Server} {s t : State ι} {a : Action ι} :
    step server s a = some t ↔
      s.now ≤ a.time ∧ t = { perform server a.op a.time s with now := a.time } := by
  unfold step
  split
  · rename_i htime
    constructor
    · intro h
      exact ⟨htime, (Option.some.inj h).symm⟩
    · rintro ⟨-, rfl⟩
      rfl
  · rename_i htime
    constructor
    · intro h
      cases h
    · rintro ⟨h, -⟩
      exact absurd h htime

end Step

/-- No statement fails. -/
def noFaults : Faults PyExc := fun _ => none

end Portal
