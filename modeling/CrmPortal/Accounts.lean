import Mathlib.Data.List.MinMax
import Mathlib.Data.Prod.Lex
import CrmPortal.Library.UnitOfWork
import CrmPortal.RequestContext

/-!
# Users, sessions and the handlers that write them

`login`, `register`, `logout`, the provisioning part of `sso_callback`,
`change_user_role` and the users part of `bootstrap_database`. Each `get_db` block
is a `Block` over the two tables, and a refused `get_db` is a fault of its first
statement. A session row carries a copy of the role that the user had at login.
-/

namespace Accounts

open PyValue IdentityTable Transaction UnitOfWork CrmDatabase

structure User where
  id : Nat
  username : String
  email : String
  passwordHash : String
  role : Option String
  deriving DecidableEq

structure UserTable where
  rows : List User
  next : Nat
  positive : 0 < next
  issued : ∀ u ∈ rows, u.id < next
  ids : (rows.map User.id).Nodup
  usernames : (rows.map User.username).Nodup
  emails : (rows.map User.email).Nodup

structure UserSession where
  sessionId : String
  userId : Nat
  username : String
  role : String
  authMethod : String
  deriving DecidableEq

def UserSession.key (s : UserSession) : Option String := some s.sessionId

abbrev SessionTable := Table UserSession UserSession.key

structure Tables where
  users : UserTable
  sessions : SessionTable

namespace UserTable

def empty : UserTable := ⟨[], 1, by omega, by simp, by simp, by simp, by simp⟩

theorem eq_of_id (t : UserTable) {u v : User} (hu : u ∈ t.rows) (hv : v ∈ t.rows)
    (h : u.id = v.id) : u = v := List.inj_on_of_nodup_map t.ids hu hv h

theorem eq_of_username (t : UserTable) {u v : User} (hu : u ∈ t.rows) (hv : v ∈ t.rows)
    (h : u.username = v.username) : u = v := List.inj_on_of_nodup_map t.usernames hu hv h

/-- The two UNIQUE constraints. -/
def Free (t : UserTable) (username email : String) : Prop :=
  username ∉ t.rows.map User.username ∧ email ∉ t.rows.map User.email

instance (t : UserTable) (username email : String) : Decidable (t.Free username email) :=
  inferInstanceAs (Decidable (_ ∧ _))

def append (t : UserTable) (username email passwordHash : String) (role : Option String)
    (free : t.Free username email) : UserTable where
  rows := t.rows ++ [⟨t.next, username, email, passwordHash, role⟩]
  next := t.next + 1
  positive := by omega
  issued := by
    intro u hu
    rcases List.mem_append.mp hu with old | new
    · have hlt := t.issued u old
      omega
    · obtain rfl := List.mem_singleton.mp new
      exact Nat.lt_succ_self t.next
  ids := by
    rw [List.map_append, List.map_singleton]
    refine List.Nodup.append t.ids (List.nodup_singleton _) ?_
    intro i hi hnew
    obtain ⟨u, hu, rfl⟩ := List.mem_map.mp hi
    have hlt := t.issued u hu
    have heq : u.id = t.next := List.mem_singleton.mp hnew
    omega
  usernames := by
    rw [List.map_append, List.map_singleton]
    refine List.Nodup.append t.usernames (List.nodup_singleton _) ?_
    intro name hold hnew
    have heq : name = username := List.mem_singleton.mp hnew
    exact free.1 (heq ▸ hold)
  emails := by
    rw [List.map_append, List.map_singleton]
    refine List.Nodup.append t.emails (List.nodup_singleton _) ?_
    intro address hold hnew
    have heq : address = email := List.mem_singleton.mp hnew
    exact free.2 (heq ▸ hold)

/-- INSERT: the row gets the next identity, or a constraint refuses it. -/
def insert (t : UserTable) (username email passwordHash : String) (role : Option String) :
    Option UserTable :=
  if free : t.Free username email then some (t.append username email passwordHash role free)
  else none

/-- UPDATE of the password and the role, the columns without a constraint. -/
def assign (selects : User → Bool) (passwordHash : User → String) (role : Option String)
    (u : User) : User :=
  if selects u then { u with passwordHash := passwordHash u, role := role } else u

section Assign
variable (selects : User → Bool) (passwordHash : User → String) (role : Option String)

@[simp] theorem assign_id (u : User) : (assign selects passwordHash role u).id = u.id := by
  unfold assign
  split <;> rfl

@[simp] theorem assign_username (u : User) :
    (assign selects passwordHash role u).username = u.username := by
  unfold assign
  split <;> rfl

@[simp] theorem assign_email (u : User) :
    (assign selects passwordHash role u).email = u.email := by
  unfold assign
  split <;> rfl

theorem map_assign {Column : Type} {column : User → Column}
    (keeps : ∀ u, column (assign selects passwordHash role u) = column u) (rows : List User) :
    (rows.map (assign selects passwordHash role)).map column = rows.map column := by
  rw [List.map_map]
  exact List.map_congr_left fun u _ => keeps u

def update (t : UserTable) : UserTable where
  rows := t.rows.map (assign selects passwordHash role)
  next := t.next
  positive := t.positive
  issued := by
    intro u hu
    obtain ⟨v, hv, rfl⟩ := List.mem_map.mp hu
    have hlt := t.issued v hv
    simpa using hlt
  ids := by
    rw [map_assign _ _ _ (by simp)]
    exact t.ids
  usernames := by
    rw [map_assign _ _ _ (by simp)]
    exact t.usernames
  emails := by
    rw [map_assign _ _ _ (by simp)]
    exact t.emails

end Assign

/-- The rows of `t` come back; the identities `later` handed out stay used. -/
def rollback (t later : UserTable) : UserTable where
  rows := t.rows
  next := max t.next later.next
  positive := by have hpos := t.positive; omega
  issued := by
    intro u hu
    have hlt := t.issued u hu
    omega
  ids := t.ids
  usernames := t.usernames
  emails := t.emails

end UserTable

namespace Tables

def empty : Tables := ⟨UserTable.empty, Table.empty⟩

def rollback (db later : Tables) : Tables where
  users := db.users.rollback later.users
  sessions := db.sessions.rollback later.sessions

/-- `SELECT ... FROM user_sessions WHERE session_id = :sid`. -/
def session (db : Tables) (sid : String) : Option UserSession := db.sessions.get sid

end Tables

def allowedRoles : List String := ["admin", "manager", "viewer", "user", "chaos-operator"]

/-- Unordered results give any of their rows; `lowerSql` is `LOWER` of the server,
`saysUnique` tells whether the text of an exception reads like a unique violation. -/
structure Server where
  py : Builtins
  backend : Backend
  maxLoginAttempts : Int
  checkBcrypt : String → String → Bool
  lowerSql : String → String
  anyRow : List User → Option User
  saysUnique : PyExc → Bool
  plainWords : ∀ word ∈ allowedRoles, py.lower (py.strip word) = word
  anyRow_mem : ∀ rows u, anyRow rows = some u → u ∈ rows
  anyRow_none : ∀ rows, anyRow rows = none → rows = []

/-- ASCII texts, PostgreSQL, rows in the order of their identities, and a password
hash that can be read back. -/
def asciiServer : Server where
  py := asciiBuiltins fun _ => ""
  backend := postgres
  maxLoginAttempts := 5
  checkBcrypt := fun password hash => decide (hash = "bcrypt:" ++ password)
  lowerSql := Ascii.lower
  anyRow := List.head?
  saysUnique := fun e => decide (e = .integrityError)
  plainWords := by decide
  anyRow_mem := fun _ _ h => List.mem_of_head? h
  anyRow_none := fun _ h => List.head?_eq_none_iff.mp h

section Handlers
variable (server : Server) (faults : Faults PyExc) {Return : Type}

/-- INSERT INTO users. -/
def insertUser (username email passwordHash : String) (role : Option String) :
    Block Tables PyExc Return PUnit := do
  demand .dataError (server.backend.takesStr (.varchar 100) username &&
    server.backend.takesStr (.varchar 200) email &&
    server.backend.takesStr (.varchar 300) passwordHash)
  execute faults fun db =>
    match db.users.insert username email passwordHash role with
    | some users => .ok { db with users := users }
    | none => .error .integrityError

/-- INSERT INTO user_sessions; the role column is NOT NULL. -/
def insertSession (user : User) (sid authMethod : String) : Block Tables PyExc Return PUnit :=
  execute faults fun db =>
    match user.role with
    | none => .error .integrityError
    | some role =>
      match db.sessions.insert ⟨sid, user.id, user.username, role, authMethod⟩ with
      | some (_, sessions) => .ok { db with sessions := sessions }
      | none => .error .integrityError

/-- `email LIKE '%@crm-enterprise.local'`. -/
def crmEmail (email : String) : Bool := "@crm-enterprise.local".toList.isSuffixOf email.toList

def crmOwned (u : User) : Bool := crmEmail u.email

def loginMatches (name : String) (u : User) : Bool :=
  decide (u.username = name) || decide (u.username = "crm-" ++ name) || decide (u.email = name)

/-- The two CASE expressions of the ORDER BY clause. -/
def loginRank (name : String) (u : User) : ℕ ×ₗ ℕ :=
  toLex (if crmOwned u then 0 else 1,
    if u.username = name then 0 else if u.username = "crm-" ++ name then 1 else 2)

def lookupForLogin (users : UserTable) (name : String) : Option User :=
  (users.rows.filter (loginMatches name)).argmin (loginRank name)

inductive LoginAnswer where
  | rateLimited
  | invalidCredentials
  | success (id : Nat) (username : String) (role : Option String)
  deriving DecidableEq

/-- The user lookup and the password check: none for invalid credentials. -/
def verifyCredentials (username password : String) : Block Tables PyExc LoginAnswer User := do
  let found ← query faults fun db => lookupForLogin db.users username
  let user ← orReturn .invalidCredentials found
  ensure .invalidCredentials (server.checkBcrypt password user.passwordHash)
  return user

def loginBlock (username password sid : String) : Block Tables PyExc LoginAnswer User := do
  let user ← verifyCredentials server faults username password
  insertSession faults user sid "password"
  return user

structure RegisterRequest where
  username : String
  email : String
  passwordHash : String
  body : Obj

structure RegisterAnswer where
  username : String
  role : String
  ignoredRole : Option String

/-- The requested role is reported when it is not the fixed one, and never stored. -/
def ignoredRole (py : Builtins) (body : Obj) : Option String :=
  let requested := py.lower (py.strip ((body.getD "role" (.str "")).toStr py))
  if requested ≠ "" ∧ requested ≠ "user" then some requested else none

def registerBlock (req : RegisterRequest) : Block Tables PyExc Empty RegisterAnswer := do
  insertUser server faults req.username req.email req.passwordHash (some "user")
  return ⟨req.username, "user", ignoredRole server.py req.body⟩

def deleteSession (db : Tables) (sid : String) : Tables :=
  match db.sessions.find sid with
  | some i => { db with sessions := db.sessions.delete i }
  | none => db

def logoutBlock (sid : String) : Block Tables PyExc Empty PUnit :=
  execute faults fun db => .ok (deleteSession db sid)

/-- `text.split("@")[0]`. -/
def beforeAt (text : String) : String := String.ofList (text.toList.takeWhile (· ≠ '@'))

/-- `text.replace(" ", ".")`. -/
def dotted (text : String) : String :=
  String.ofList (text.toList.map fun c => if c = ' ' then '.' else c)

structure SsoIdentity where
  email : String
  baseUsername : String
  placeholderHash : String

def ssoIdentity (py : Builtins) (claims : Obj) : Except PyExc SsoIdentity := do
  let emailRaw ← (((claims.get "email").or (claims.get "sub")).or (.str "")).asStr
  let email := py.lower (py.strip emailRaw)
  let displayName := ((claims.get "name").or (claims.get "preferred_username")).or
    (.str (beforeAt email))
  let name ← (displayName.or (.str "")).asStr
  let username := dotted (py.lower name)
  return ⟨email, if username = "" then beforeAt email else username,
    "sso:" ++ (claims.getD "sub" (.str "")).toStr py⟩

def selectByLowerEmail (users : UserTable) (email : String) : Option User :=
  server.anyRow (users.rows.filter fun u => decide (server.lowerSql u.email = email))

/-- A second try with the prefixed name after a unique violation, and after no
other exception. -/
def provisionUser (identity : SsoIdentity) : Block Tables PyExc Return PUnit :=
  exceptRaised
    (insertUser server faults identity.baseUsername identity.email identity.placeholderHash
      (some "user"))
    fun e => do
      demand e (decide (e = .integrityError) || server.saysUnique e)
      insertUser server faults ("crm-" ++ identity.baseUsername) identity.email
        identity.placeholderHash (some "user")

def ssoUserBlock (identity : SsoIdentity) : Block Tables PyExc Empty (Option User) := do
  let found ← query faults fun db => selectByLowerEmail server db.users identity.email
  match found with
  | some user => return some user
  | none => do
    provisionUser server faults identity
    query faults fun db => selectByLowerEmail server db.users identity.email

def ssoSessionBlock (user : User) (sid : String) : Block Tables PyExc Empty PUnit :=
  insertSession faults user sid "sso"

def newRole (py : Builtins) (body : Obj) : String :=
  let role := py.lower (py.strip ((body.getD "role" (.str "user")).toStr py))
  if role = "" then "user" else role

def changeRoleBlock (userId : Int) (role : String) : Block Tables PyExc Empty PUnit :=
  execute faults fun db => .ok { db with
    users := db.users.update (fun u => decide ((u.id : Int) = userId)) User.passwordHash
      (some role) }

def adminEmail : String := "admin@crm-enterprise.local"

/-- The first statement of the session that gives rows: `existing_user` is an id,
and an id 0 would count as no user. -/
def bootstrapBlock (passwordHash : String) : Block Tables PyExc Empty PUnit := do
  let existing ← query faults fun db => server.anyRow db.users.rows
  if (existing.map User.id).getD 0 ≠ 0 then
    let row ← query faults fun db => db.users.rows.find? fun u => decide (u.email = adminEmail)
    match row with
    | some _ =>
      execute faults fun db => .ok { db with
        users := db.users.update (fun u => decide (u.email = adminEmail))
          (fun _ => passwordHash) (some "admin") }
    | none =>
      let existingName ← query faults fun db =>
        db.users.rows.find? fun u => decide (u.username = "admin")
      let actualUsername := if existingName.isSome then "crm-" ++ "admin" else "admin"
      insertUser server faults actualUsername adminEmail passwordHash (some "admin")
  else insertUser server faults "admin" adminEmail passwordHash (some "admin")

end Handlers
end Accounts
