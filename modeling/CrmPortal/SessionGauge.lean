import CrmPortal.LoginResolution
import CrmPortal.Library.Grouping

/-!
# The gauge of the active sessions

The handlers that open and close sessions count them in `crm.business.sessions.active` as
well as in the table `user_sessions`. A password login counts inside its block, before the
commit; an SSO login counts after the commit of its own; a logout counts whenever its
cookie is not empty, whatever the DELETE has found.

The series of all replicas are taken together.
-/

namespace Portal

open PyValue IdentityTable Accounts SessionLookup Transaction UnitOfWork Schedule UpDownCounter

/-- `activeSessions` has the label "method" for logins and none for logouts. -/
structure BusinessMetrics where
  authLogin : Counter (String × String)
  authLoginFailed : Counter String
  activeSessions : Counter (Option String)

def recordLoginSuccess (m : BusinessMetrics) (method role : String) : BusinessMetrics :=
  { m with
    authLogin := add m.authLogin (method, role) 1
    activeSessions := add m.activeSessions (some method) 1 }

def recordLoginFailure (m : BusinessMetrics) (reason : String) : BusinessMetrics :=
  { m with authLoginFailed := add m.authLoginFailed reason 1 }

def recordLogout (m : BusinessMetrics) : BusinessMetrics :=
  { m with activeSessions := add m.activeSessions none (-1) }

/-- `user.role or "user"`. -/
def roleLabel (role : Option String) : String :=
  match role with
  | some role => if role = "" then "user" else role
  | none => "user"

def failureReason (users : UserTable) (username : String) : String :=
  match lookupForLogin users username with
  | none => "user_not_found"
  | some _ => "invalid_password"

/-- The block of the login has counted by the time it ends. -/
def loginMetrics (server : Server) (faults : Faults PyExc) (req : LoginRequest) (sid : String)
    (now : ℚ) (db : Tables) (rep : Replica) (m : BusinessMetrics) : BusinessMetrics :=
  if limited server (pruneAttempts now ((rep.loginAttempts req.clientIp).getD [])) then m
  else match (loginBlock server faults req.username req.password sid ⟨db, 0⟩).1 with
    | .ok user => recordLoginSuccess m "password" (roleLabel user.role)
    | .error (.returned _) => recordLoginFailure m (failureReason db.users req.username)
    | .error (.raised _) => m

def ssoMetrics (server : Server) (userFaults sessionFaults : Faults PyExc) (claims : Obj)
    (sid : String) (db : Tables) (m : BusinessMetrics) : BusinessMetrics :=
  match ssoIdentity server.py claims with
  | .error _ => m
  | .ok identity =>
    match run userFaults Tables.rollback (ssoUserBlock server userFaults identity) db with
    | .committed (.inr (some user)) db =>
      match run sessionFaults Tables.rollback (ssoSessionBlock sessionFaults user sid) db with
      | .committed _ _ => recordLoginSuccess m "sso" (roleLabel user.role)
      | .rolledBack _ _ => m
    | _ => m

def logoutMetrics (faults : Faults PyExc) (sessionCookie : String) (db : Tables)
    (m : BusinessMetrics) : BusinessMetrics :=
  if sessionCookie = "" then m
  else match run faults Tables.rollback (logoutBlock faults sessionCookie) db with
    | .committed _ _ => recordLogout m
    | .rolledBack _ _ => m

structure Metered (ι : Type) where
  portal : State ι
  metrics : BusinessMetrics

section Step
variable {ι : Type} [DecidableEq ι] (server : Server)

def meter (a : Action ι) (s : Metered ι) : BusinessMetrics :=
  match a.op with
  | .login replica req sid faults =>
    loginMetrics server faults req sid a.time s.portal.db (s.portal.replica replica) s.metrics
  | .ssoCallback claims sid userFaults sessionFaults =>
    ssoMetrics server userFaults sessionFaults claims sid s.portal.db s.metrics
  | .logout sessionCookie faults => logoutMetrics faults sessionCookie s.portal.db s.metrics
  | _ => s.metrics

def meteredStep (s : Metered ι) (a : Action ι) : Option (Metered ι) :=
  (step server s.portal a).map fun portal => ⟨portal, meter server a s⟩

end Step

def meteredStart {ι : Type} (db : Tables) (now : ℚ) : Metered ι := ⟨start db now, ⟨[], [], []⟩⟩

def rowCount {ι : Type} (s : Metered ι) : ℤ := s.portal.db.sessions.count

/-- How far the gauge is ahead of the table. -/
def lead {ι : Type} (s : Metered ι) : ℤ := total s.metrics.activeSessions - rowCount s

/-- The gauge shows what the operations have left in the table, which had `before` rows. -/
def GaugeMatches {ι : Type} (before : Tables) (s : Metered ι) : Prop :=
  total s.metrics.activeSessions = rowCount s - before.sessions.count

/-- A password login for which a row is inserted. -/
structure InsertsSession (server : Server) (attempt : Attempt) (now : ℚ) (db : Tables) : Prop where
  unlimited : attempt.limitedAt server now = false
  select : attempt.faults 0 = none
  insert : attempt.faults 1 = none
  stored : ∃ user role i rest, lookupForLogin db.users attempt.req.username = some user ∧
    server.checkBcrypt attempt.req.password user.passwordHash = true ∧ user.role = some role ∧
    db.sessions.insert ⟨attempt.sid, user.id, user.username, role, "password"⟩ = some (i, rest)

/-- A login that inserts its row commits it, and a logout whose statements succeed finds
a row under its cookie. -/
def InStep {ι : Type} (server : Server) (s : Metered ι) (a : Action ι) : Prop :=
  match a.op with
  | .login replica req sid faults =>
    InsertsSession server ⟨req, sid, faults, s.portal.replica replica⟩ a.time s.portal.db →
      faults 2 = none
  | .logout sessionCookie faults => sessionCookie ≠ "" → faults 0 = none → faults 1 = none →
      (s.portal.db.session sessionCookie).isSome
  | _ => True

section Lead
variable {ι : Type} {server : Server} {db t : Tables} {m : BusinessMetrics}

theorem session_keyed (row : UserSession) : (UserSession.key row).isSome := rfl

theorem count_of_sessions (same : ∀ sid, t.session sid = db.session sid) :
    t.sessions.count = db.sessions.count :=
  Table.count_congr session_keyed same

/-- The block of a login runs to its end just in case it inserts its row. -/
theorem loginBlock_ok_of_inserts {attempt : Attempt} {now : ℚ}
    (h : InsertsSession server attempt now db) :
    ∃ user w, loginBlock server attempt.faults attempt.req.username attempt.req.password
      attempt.sid ⟨db, 0⟩ = (.ok user, w) := by
  obtain ⟨user, role, i, rest, hlookup, hcheck, hrole, hinsert⟩ := h.stored
  exact ⟨user, _, loginBlock_ok_iff.mpr ⟨h.select, h.insert, hlookup, hcheck, role, i, rest,
    hrole, hinsert, rfl⟩⟩

theorem loginBlock_refused_count {faults : Faults PyExc} {username password sid : String}
    (refused : ∀ user w, loginBlock server faults username password sid ⟨db, 0⟩ ≠ (.ok user, w)) :
    (run faults Tables.rollback (loginBlock server faults username password sid)
      db).state.sessions.count = db.sessions.count := by
  rcases run_atomic faults Tables.rollback (loginBlock_leaves faults username password sid) db with
    ⟨user, w, hok, -⟩ | ⟨r, -, hrun⟩ | ⟨e, reached, hrun⟩
  · exact absurd hok (refused user w)
  · rw [hrun]
    rfl
  · rw [hrun]
    exact count_of_sessions (rollback_same db reached).session

theorem loginBlock_stored_count {faults : Faults PyExc} {username password sid : String}
    {user : User} {w : Work Tables}
    (stored : loginBlock server faults username password sid ⟨db, 0⟩ = (.ok user, w)) :
    (run faults Tables.rollback (loginBlock server faults username password sid)
      db).state.sessions.count = db.sessions.count + if faults 2 = none then 1 else 0 := by
  obtain ⟨-, -, -, -, role, i, rest, -, hinsert, rfl⟩ := loginBlock_ok_iff.mp stored
  unfold run commit
  rw [stored]
  dsimp only
  rcases hcommit : faults 2 with _ | e
  · exact Table.count_insert session_keyed hinsert
  · exact count_of_sessions (rollback_same db _).session

/-- A login moves the gauge as it moves the table, unless its row is taken back. -/
theorem login_lead (faults : Faults PyExc) (req : LoginRequest) (sid : String) (now : ℚ)
    (rep : Replica) :
    total (loginMetrics server faults req sid now db rep m).activeSessions -
        ((login server faults req sid now db rep).2.1.sessions.count : ℤ) =
      total m.activeSessions - (db.sessions.count : ℤ) ↔
    (InsertsSession server ⟨req, sid, faults, rep⟩ now db → faults 2 = none) := by
  cases hlimited : limited server
      (pruneAttempts now ((rep.loginAttempts req.clientIp).getD [])) with
  | true =>
    rw [login_limited hlimited, loginMetrics, if_pos hlimited]
    refine ⟨fun _ hinserts => ?_, fun _ => rfl⟩
    have hunlimited := hinserts.unlimited
    rw [Attempt.limitedAt, hlimited] at hunlimited
    cases hunlimited
  | false =>
    rw [login_admitted hlimited, loginMetrics, if_neg (by simp [hlimited])]
    rcases hblock : loginBlock server faults req.username req.password sid ⟨db, 0⟩ with
      ⟨refusal | user, w⟩
    · have hrefused : ∀ user w,
          loginBlock server faults req.username req.password sid ⟨db, 0⟩ ≠ (.ok user, w) := by
        intro user w hok
        rw [hblock] at hok
        cases hok
      have hinserts : ¬ InsertsSession server ⟨req, sid, faults, rep⟩ now db := by
        intro h
        obtain ⟨user, w, hok⟩ := loginBlock_ok_of_inserts h
        exact hrefused user w hok
      dsimp only
      rw [loginBlock_refused_count hrefused]
      refine ⟨fun _ h => absurd h hinserts, fun _ => ?_⟩
      rcases refusal with e | a
      · rfl
      · rfl
    · have hinserts : InsertsSession server ⟨req, sid, faults, rep⟩ now db := by
        obtain ⟨hselect, hinsert, hlookup, hcheck, role, i, rest, hrole, hrow, -⟩ :=
          loginBlock_ok_iff.mp hblock
        exact ⟨hlimited, hselect, hinsert, user, role, i, rest, hlookup, hcheck, hrole, hrow⟩
      dsimp only
      rw [loginBlock_stored_count hblock, recordLoginSuccess, total_add]
      constructor
      · intro heq _
        by_contra hfault
        rw [if_neg hfault] at heq
        push_cast at heq
        omega
      · intro hcommit
        rw [if_pos (hcommit hinserts)]
        push_cast
        omega

theorem ssoSessionBlock_count (faults : Faults PyExc) (user : User) (sid : String) (db : Tables) :
    (∃ t, run faults Tables.rollback (ssoSessionBlock faults user sid) db =
        .committed (.inr ⟨⟩) t ∧ t.sessions.count = db.sessions.count + 1) ∨
    ∃ e t, run faults Tables.rollback (ssoSessionBlock faults user sid) db = .rolledBack e t ∧
      t.sessions.count = db.sessions.count := by
  unfold ssoSessionBlock insertSession
  rcases run_execute faults Tables.rollback _ db with
    ⟨t, -, -, ht, hrun⟩ | ⟨-, e, reached, -, hrun⟩
  · refine .inl ⟨t, hrun, ?_⟩
    split at ht
    · cases ht
    · split at ht
      · next id sessions hinsert =>
        obtain rfl := Except.ok.inj ht
        exact Table.count_insert session_keyed hinsert
      · cases ht
  · exact .inr ⟨e, _, hrun, count_of_sessions (rollback_same db reached).session⟩

/-- An SSO login counts what it has committed. -/
theorem sso_lead (userFaults sessionFaults : Faults PyExc) (claims : Obj) (sid : String) :
    total (ssoMetrics server userFaults sessionFaults claims sid db m).activeSessions -
        ((ssoCallback server userFaults sessionFaults claims sid db).sessions.count : ℤ) =
      total m.activeSessions - (db.sessions.count : ℤ) := by
  unfold ssoMetrics ssoCallback
  rcases ssoIdentity server.py claims with e | identity
  · rfl
  · have hgrew : Grew "user" db
        (run userFaults Tables.rollback (ssoUserBlock server userFaults identity) db).state :=
      run_moves (fun t later => (rollback_same t later).grew "user") (ssoUserBlock_grew identity) db
    have hcount := count_of_sessions hgrew.session
    rcases hrun : run userFaults Tables.rollback (ssoUserBlock server userFaults identity) db with
      ⟨r | _ | user, middle⟩ | ⟨e, t⟩
    · cases r
    · rw [hrun] at hcount
      simp only [hrun]
      rw [hcount]
    · rw [hrun] at hcount
      have hmiddle : middle.sessions.count = db.sessions.count := hcount
      rcases ssoSessionBlock_count sessionFaults user sid middle with
        ⟨t, hsession, ht⟩ | ⟨e, t, hsession, ht⟩
      · simp only [hrun, hsession, Ended.state, recordLoginSuccess, total_add]
        omega
      · simp only [hrun, hsession, Ended.state]
        omega
    · rw [hrun] at hcount
      simp only [hrun]
      rw [hcount]

theorem deleteSession_count (sid : String) :
    ((deleteSession db sid).sessions.count : ℤ) =
      db.sessions.count - if (db.session sid).isSome then 1 else 0 := by
  unfold deleteSession
  rcases hfind : db.sessions.find sid with _ | i
  · have hnone : db.session sid = none := by
      rw [Tables.session, Table.get, hfind]
      rfl
    simp [hnone]
  · obtain ⟨row, hrow, hkey⟩ := (db.sessions.find_eq_some_iff sid i).mp hfind
    have hsome : db.session sid = some row := Table.get_eq_some_iff.mpr ⟨i, hrow, hkey⟩
    have hdelete := Table.count_delete session_keyed hfind
    simp only [hsome, Option.isSome_some, if_true]
    omega

theorem logoutBlock_count (faults : Faults PyExc) (sid : String) (db : Tables) :
    (faults 0 = none ∧ faults 1 = none ∧
      run faults Tables.rollback (logoutBlock faults sid) db =
        .committed (.inr ⟨⟩) (deleteSession db sid)) ∨
    (faults 0 = none → faults 1 ≠ none) ∧
      ∃ e t, run faults Tables.rollback (logoutBlock faults sid) db = .rolledBack e t ∧
        t.sessions.count = db.sessions.count := by
  unfold logoutBlock
  rcases run_execute faults Tables.rollback (fun db => .ok (deleteSession db sid)) db with
    ⟨t, hsent, hcommit, ht, hrun⟩ | ⟨hfault, e, reached, -, hrun⟩
  · obtain rfl := Except.ok.inj ht
    exact .inl ⟨hsent, hcommit, hrun⟩
  · refine .inr ⟨fun hsent => ?_, e, _, hrun, count_of_sessions (rollback_same db reached).session⟩
    rcases hfault with hfault | hfault | ⟨e, he⟩
    · exact absurd hsent hfault
    · exact hfault
    · cases he

/-- A logout counts down by one, and the table too if the session is there. -/
theorem logout_lead (faults : Faults PyExc) (sessionCookie : String) :
    total (logoutMetrics faults sessionCookie db m).activeSessions -
        ((logout faults sessionCookie db).sessions.count : ℤ) =
      total m.activeSessions - (db.sessions.count : ℤ) ↔
    (sessionCookie ≠ "" → faults 0 = none → faults 1 = none →
      (db.session sessionCookie).isSome) := by
  unfold logoutMetrics logout
  by_cases hempty : sessionCookie = ""
  · rw [if_pos hempty, if_pos hempty]
    exact ⟨fun _ h => absurd hempty h, fun _ => rfl⟩
  · rw [if_neg hempty, if_neg hempty]
    rcases logoutBlock_count faults sessionCookie db with
      ⟨hsent, hcommit, hrun⟩ | ⟨hfault, e, t, hrun, ht⟩
    · simp only [hrun, Ended.state, recordLogout, total_add, deleteSession_count]
      constructor
      · intro heq _ _ _
        by_contra habsent
        rw [if_neg habsent] at heq
        omega
      · intro hpresent
        rw [if_pos (hpresent hempty hsent hcommit)]
        omega
    · simp only [hrun, Ended.state, ht]
      exact ⟨fun _ _ hsent hcommit => absurd hcommit (hfault hsent), fun _ => trivial⟩

theorem register_count (faults : Faults PyExc) (req : RegisterRequest) :
    (register server faults req db).state.sessions.count = db.sessions.count := by
  have hgrew : Grew "user" db (register server faults req db).state :=
    run_moves (fun t later => (rollback_same t later).grew "user") (registerBlock_grew req) db
  exact count_of_sessions hgrew.session

theorem bootstrapDatabase_count (faults : Faults PyExc) (passwordHash : String) :
    (bootstrapDatabase server faults passwordHash db).sessions.count = db.sessions.count := by
  have hrun : Bootstrapped passwordHash db (bootstrapDatabase server faults passwordHash db) :=
    run_moves (R := Bootstrapped passwordHash)
      (fun t later => Or.inl ((rollback_same t later).grew "admin"))
      (bootstrapBlock_bootstrapped passwordHash) db
  rcases hrun with grew | assigned
  · exact count_of_sessions grew.session
  · exact count_of_sessions assigned.session

variable [DecidableEq ι]

/-- Every operation of the portal keeps the lead, a login and a logout if they are in
step. -/
theorem step_lead {s t : Metered ι} {a : Action ι} (hstep : meteredStep server s a = some t) :
    lead t = lead s ↔ InStep server s a := by
  obtain ⟨portal, hportal, rfl⟩ := Option.map_eq_some_iff.mp hstep
  obtain ⟨-, rfl⟩ := step_eq_some_iff.mp hportal
  rcases a with ⟨op, time⟩
  cases op with
  | login replica req sid faults =>
    exact login_lead faults req sid time (s.portal.replica replica)
  | ssoCallback claims sid userFaults sessionFaults =>
    exact ⟨fun _ => trivial, fun _ => sso_lead userFaults sessionFaults claims sid⟩
  | logout sessionCookie faults => exact logout_lead faults sessionCookie
  | register req faults =>
    refine ⟨fun _ => trivial, fun _ => ?_⟩
    exact congrArg (total s.metrics.activeSessions - Nat.cast ·) (register_count faults req)
  | bootstrapDatabase passwordHash faults =>
    refine ⟨fun _ => trivial, fun _ => ?_⟩
    exact congrArg (total s.metrics.activeSessions - Nat.cast ·)
      (bootstrapDatabase_count faults passwordHash)
  | getCurrentUser replica sid failure => exact ⟨fun _ => trivial, fun _ => rfl⟩
  | changeUserRole replica sid failure userId body faults =>
    refine ⟨fun _ => trivial, fun _ => ?_⟩
    exact congrArg (total s.metrics.activeSessions - Nat.cast ·)
      (count_of_sessions (changeUserRole_session faults _ userId body s.portal.db))

end Lead

/-- The gauge matches the table at every moment of a run just in case each of its
operations is in step. -/
theorem gauge_matches_iff {ι : Type} [DecidableEq ι] {server : Server} {db : Tables} {now : ℚ}
    {schedule : List (Action ι)} {s : Metered ι}
    (hrun : exec (meteredStep server) (meteredStart db now) schedule = some s) :
    (∀ done, done <+: schedule → ∀ t,
      exec (meteredStep server) (meteredStart db now) done = some t →
        GaugeMatches db t) ↔
      Along (InStep server) (meteredStep server) (meteredStart db now) schedule := by
  have hconstant := along_iff_constant (q := lead) (fun _ _ _ => step_lead) hrun
  have hmatches : ∀ t : Metered ι, GaugeMatches db t ↔
      lead t = lead (meteredStart db now : Metered ι) := by
    intro t
    have hstart : lead (meteredStart db now : Metered ι) = -(db.sessions.count : ℤ) := by
      simp [lead, meteredStart, rowCount, start]
    rw [hstart, GaugeMatches, lead]
    constructor
    · intro h
      omega
    · intro h
      omega
  simp only [hmatches]
  exact hconstant

/-- Somebody logs out who never logged in. -/
def strayLogout : List (Action Unit) := [⟨.logout "never-issued" noFaults, 1⟩]

theorem stray_logout_counts_down :
    ¬ ∀ (schedule : List (Action Unit)) s,
      exec (meteredStep asciiServer) (meteredStart Tables.empty 0) schedule = some s →
        GaugeMatches Tables.empty s := by
  intro hall
  obtain ⟨s, hrun, hoff⟩ := (Option.any_eq_true
    (fun s : Metered Unit => decide (total s.metrics.activeSessions ≠ rowCount s -
      Tables.empty.sessions.count))
    (exec (meteredStep asciiServer) (meteredStart Tables.empty 0) strayLogout)).mp
    (by decide +kernel)
  exact of_decide_eq_true hoff (hall strayLogout s hrun)

def annLogin : Action Unit := ⟨.login () ⟨"ann", "pw", "10.0.0.1"⟩ "s1" noFaults, 1⟩

def annLogout : Action Unit := ⟨.logout "s1" noFaults, 2⟩

/-- Ann comes and goes once, and the gauge goes with her. -/
theorem gauge_matches_ann :
    ∃ s, exec (meteredStep asciiServer) (meteredStart annTables 0) [annLogin, annLogout] = some s ∧
      ∀ done, done <+: [annLogin, annLogout] → ∀ t,
        exec (meteredStep asciiServer) (meteredStart annTables 0) done = some t →
          GaugeMatches annTables t := by
  obtain ⟨s, hrun, -⟩ := (Option.any_eq_true (fun _ : Metered Unit => true)
    (exec (meteredStep asciiServer) (meteredStart annTables 0) [annLogin, annLogout])).mp
    (by decide +kernel)
  have hopened : (meteredStep asciiServer (meteredStart annTables 0) annLogin).all
      (fun t => (t.portal.db.session "s1").isSome) = true := by decide +kernel
  refine ⟨s, hrun, (gauge_matches_iff hrun).mpr
    ⟨fun _ => rfl, fun t ht => ⟨?_, fun _ _ => trivial⟩⟩⟩
  intro _ _ _
  rw [ht] at hopened
  exact hopened

end Portal
