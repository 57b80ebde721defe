import CrmPortal.PortalSpec

/-!
# Whom a name signs in

The lookup of `login` matches three columns and puts addresses of the CRM domain
before an exact user name. An account whose owner has another address can be
outranked by a new account with an address of that domain, under the prefixed
name or with the name as its address; no other registration changes the outcome.
-/

namespace Portal

open PyValue Accounts SessionLookup Schedule Transaction UnitOfWork

variable {server : Server}

/-- The owner of the name is first unless an address of the CRM domain matches and
his is none. -/
theorem lookupForLogin_self_iff {users : UserTable} {u : User} (hu : u ∈ users.rows) :
    lookupForLogin users u.username = some u ↔
      crmOwned u = true ∨
        ∀ v ∈ users.rows, loginMatches u.username v = true → crmOwned v = false := by
  have hself : u ∈ users.rows.filter (loginMatches u.username) := by
    simp [List.mem_filter, hu, loginMatches]
  constructor
  · intro h
    by_cases hown : crmOwned u = true
    · exact Or.inl hown
    refine Or.inr ?_
    intro v hv hmatches
    by_contra hv'
    have hvown : crmOwned v = true := by simpa using hv'
    have hle := List.le_of_mem_argmin (List.mem_filter.mpr ⟨hv, hmatches⟩) h
    rw [loginRank, loginRank, Prod.Lex.toLex_le_toLex] at hle
    simp [hown, hvown] at hle
  · intro h
    unfold lookupForLogin
    cases hfirst : (users.rows.filter (loginMatches u.username)).argmin (loginRank u.username) with
    | none =>
      rw [List.argmin_eq_none] at hfirst
      rw [hfirst] at hself
      cases hself
    | some m =>
      obtain ⟨hm, hmatches⟩ := List.mem_filter.mp (List.argmin_mem hfirst)
      have hle := List.le_of_mem_argmin hself hfirst
      rw [loginRank, loginRank, Prod.Lex.toLex_le_toLex] at hle
      have hname : m.username = u.username := by
        by_contra hne
        have hrank : ¬ (if m.username = u.username then 0
            else if m.username = "crm-" ++ u.username then 1 else 2) ≤ 0 := by
          rw [if_neg hne]
          split <;> omega
        have hfst :
            (if crmOwned m = true then 0 else 1) < (if crmOwned u = true then 0 else 1) := by
          rcases hle with hlt | ⟨-, hsnd⟩
          · exact hlt
          · rw [if_pos (rfl : u.username = u.username)] at hsnd
            exact absurd hsnd hrank
        rcases h with hown | hothers
        · rw [if_pos hown] at hfst
          omega
        · rw [if_neg (by simp [hothers m hm hmatches])] at hfst
          split at hfst <;> omega
      exact congrArg some (users.eq_of_username hm hu hname)

/-- One login: what it brings, and the process and the time at which it comes. -/
structure Attempt where
  req : LoginRequest
  sid : String
  faults : Faults PyExc
  replica : Replica

def Attempt.limitedAt (server : Server) (attempt : Attempt) (now : ℚ) : Bool :=
  limited server
    (pruneAttempts now ((attempt.replica.loginAttempts attempt.req.clientIp).getD []))

def Attempt.run (server : Server) (attempt : Attempt) (now : ℚ) (db : Tables) :
    Except PyExc LoginAnswer × Tables × Replica :=
  login server attempt.faults attempt.req attempt.sid now db attempt.replica

/-- The login answers with the account `u`, and there is a session of it. -/
structure OpensSession (server : Server) (attempt : Attempt) (now : ℚ) (db : Tables) (u : User) :
    Prop where
  account : u ∈ db.users.rows
  answer : (attempt.run server now db).1 = .ok (.success u.id u.username u.role)
  session : ∃ row, (attempt.run server now db).2.1.session attempt.sid = some row ∧
    row.userId = u.id ∧ row.username = u.username

/-- What has to hold besides the lookup. -/
structure Admits (server : Server) (attempt : Attempt) (now : ℚ) (sessions : SessionTable)
    (u : User) : Prop where
  unlimited : attempt.limitedAt server now = false
  select : attempt.faults 0 = none
  insert : attempt.faults 1 = none
  commit : attempt.faults 2 = none
  password : server.checkBcrypt attempt.req.password u.passwordHash = true
  stored : ∃ role i rest, u.role = some role ∧
    sessions.insert ⟨attempt.sid, u.id, u.username, role, "password"⟩ = some (i, rest)

theorem insertSession_ok_iff {faults : Faults PyExc} {Return : Type} {user : User}
    {sid authMethod : String} {w t : Work Tables} {a : PUnit} :
    (insertSession faults user sid authMethod : Block Tables PyExc Return PUnit) w = (.ok a, t) ↔
      faults w.statements = none ∧ ∃ role i rest, user.role = some role ∧
        w.state.sessions.insert ⟨sid, user.id, user.username, role, authMethod⟩ = some (i, rest) ∧
        t = ⟨{ w.state with sessions := rest }, w.statements + 1⟩ := by
  unfold insertSession
  rw [execute_ok_iff]
  constructor
  · rintro ⟨hfault, s, hs, rfl⟩
    refine ⟨hfault, ?_⟩
    rcases hrole : user.role with _ | role
    · simp only [hrole] at hs
      cases hs
    · simp only [hrole] at hs
      rcases hinsert : w.state.sessions.insert ⟨sid, user.id, user.username, role, authMethod⟩ with
        _ | ⟨i, rest⟩
      · simp only [hinsert] at hs
        cases hs
      · simp only [hinsert] at hs
        cases hs
        exact ⟨role, i, rest, rfl, hinsert, rfl⟩
  · rintro ⟨hfault, role, i, rest, hrole, hinsert, rfl⟩
    exact ⟨hfault, { w.state with sessions := rest }, by simp [hrole, hinsert], rfl⟩

theorem loginBlock_ok_iff {faults : Faults PyExc} {username password sid : String} {db : Tables}
    {t : Work Tables} {user : User} :
    loginBlock server faults username password sid ⟨db, 0⟩ = (.ok user, t) ↔
      faults 0 = none ∧ faults 1 = none ∧ lookupForLogin db.users username = some user ∧
        server.checkBcrypt password user.passwordHash = true ∧
        ∃ role i rest, user.role = some role ∧
          db.sessions.insert ⟨sid, user.id, user.username, role, "password"⟩ = some (i, rest) ∧
          t = ⟨{ db with sessions := rest }, 2⟩ := by
  unfold loginBlock
  simp only [Tx.bind_ok_iff, verifyCredentials_ok_iff, insertSession_ok_iff, Tx.pure_ok_iff]
  constructor
  · rintro ⟨u, m, ⟨hselect, hlookup, hcheck, rfl⟩, _, n, ⟨hinsert, role, i, rest, hrole, hrow, rfl⟩,
      rfl, rfl⟩
    exact ⟨hselect, hinsert, hlookup, hcheck, role, i, rest, hrole, hrow, rfl⟩
  · rintro ⟨hselect, hinsert, hlookup, hcheck, role, i, rest, hrole, hrow, rfl⟩
    exact ⟨user, _, ⟨hselect, hlookup, hcheck, rfl⟩, ⟨⟩, _,
      ⟨hinsert, role, i, rest, hrole, hrow, rfl⟩, rfl, rfl⟩

/-- A login answers with a user only when its block ran to the end and was committed. -/
theorem loginAnswer_success {faults : Faults PyExc} {block : Block Tables PyExc LoginAnswer User}
    {db : Tables} {id : Nat} {username : String} {role : Option String}
    (h : loginAnswer (run faults Tables.rollback block db) = .ok (.success id username role))
    (returns : ∀ a w, block ⟨db, 0⟩ = (.error (.returned a), w) → a = .invalidCredentials) :
    ∃ user w, block ⟨db, 0⟩ = (.ok user, w) ∧ faults w.statements = none ∧ user.id = id := by
  unfold run commit at h
  rcases hblock : block ⟨db, 0⟩ with ⟨(⟨e⟩ | ⟨a⟩) | user, w⟩
  · rw [hblock] at h
    cases h
  · obtain rfl := returns a w hblock
    rw [hblock] at h
    dsimp only at h
    split at h <;> cases h
  · rw [hblock] at h
    dsimp only at h
    split at h
    · cases h
    · rename_i hfault
      cases h
      exact ⟨user, w, rfl, hfault, rfl⟩

/-- The block is left early with one answer only, before anything is written. -/
theorem loginBlock_leaves (faults : Faults PyExc) (username password sid : String) :
    Leaves (fun a => a = .invalidCredentials)
      (loginBlock server faults username password sid) := by
  have hverify : Leaves (fun a => a = .invalidCredentials)
      (verifyCredentials server faults username password) := by
    refine leaves_bind (reads_query _) (leaves_query _) fun found => ?_
    refine leaves_bind (reads_orReturn _ _) ?_ fun user => ?_
    · exact leaves_orReturn (P := fun a => a = LoginAnswer.invalidCredentials) rfl found
    refine leaves_bind (reads_ensure _ _) ?_ fun _ => leaves_pure user
    exact leaves_ensure (P := fun a => a = LoginAnswer.invalidCredentials) rfl _
  have hinsert : ∀ user : User, Leaves (fun a : LoginAnswer => a = .invalidCredentials)
      (insertSession faults user sid "password" >>= fun _ => pure user) :=
    fun user => (proceeds_bind (proceeds_execute _) fun _ => proceeds_pure user).leaves
  exact leaves_bind (verifyCredentials_reads username password) hverify hinsert

theorem loginBlock_returned {faults : Faults PyExc} {username password sid : String}
    {w t : Work Tables} {a : LoginAnswer}
    (h : loginBlock server faults username password sid w = (.error (.returned a), t)) :
    a = .invalidCredentials :=
  (loginBlock_leaves faults username password sid w a t h).1

theorem opensSession_iff {attempt : Attempt} {now : ℚ} {db : Tables} {u : User} :
    OpensSession server attempt now db u ↔
      Admits server attempt now db.sessions u ∧
        lookupForLogin db.users attempt.req.username = some u := by
  constructor
  · rintro ⟨haccount, hanswer, -⟩
    have hunlimited : attempt.limitedAt server now = false := by
      cases hlimited : attempt.limitedAt server now with
      | false => rfl
      | true =>
        rw [Attempt.run, login_limited hlimited] at hanswer
        cases hanswer
    rw [Attempt.run, login_admitted hunlimited] at hanswer
    obtain ⟨user, w, hblock, hcommit, hid⟩ :=
      loginAnswer_success hanswer fun a w h => loginBlock_returned h
    obtain ⟨hselect, hinsert, hlookup, hcheck, role, i, rest, hrole, hrow, rfl⟩ :=
      loginBlock_ok_iff.mp hblock
    obtain rfl : user = u := db.users.eq_of_id (lookupForLogin_mem hlookup) haccount hid
    exact ⟨⟨hunlimited, hselect, hinsert, hcommit, hcheck, role, i, rest, hrole, hrow⟩, hlookup⟩
  · rintro ⟨⟨hunlimited, hselect, hinsert, hcommit, hcheck, role, i, rest, hrole, hrow⟩, hlookup⟩
    have hblock := loginBlock_ok_iff.mpr
      ⟨hselect, hinsert, hlookup, hcheck, role, i, rest, hrole, hrow, rfl⟩
    have hrun : run attempt.faults Tables.rollback
        (loginBlock server attempt.faults attempt.req.username attempt.req.password attempt.sid)
        db = .committed (.inr u) { db with sessions := rest } := by
      unfold run commit
      rw [hblock]
      dsimp only
      rw [hcommit]
    refine ⟨lookupForLogin_mem hlookup, ?_, ?_⟩
    · rw [Attempt.run, login_admitted hunlimited, hrun]
      rfl
    · rw [Attempt.run, login_admitted hunlimited, hrun]
      refine ⟨⟨attempt.sid, u.id, u.username, role, "password"⟩, ?_, rfl, rfl⟩
      exact (IdentityTable.Table.get_insert hrow rfl).trans (if_pos rfl)

/-- A successful call of `register`, with the faults of its block. -/
def registerStep (server : Server) (db : Tables) (call : RegisterRequest × Faults PyExc) :
    Option Tables :=
  match register server call.2 call.1 db with
  | .committed (.inr _) t => some t
  | _ => none

theorem insertUser_ok {faults : Faults PyExc} {Return : Type}
    {username email passwordHash : String} {role : Option String} {w t : Work Tables} {a : PUnit}
    (h : (insertUser server faults username email passwordHash role :
      Block Tables PyExc Return PUnit) w = (.ok a, t)) :
    t.state.sessions = w.state.sessions ∧ ∃ id, t.state.users.rows =
      w.state.users.rows ++ [⟨id, username, email, passwordHash, role⟩] := by
  unfold insertUser at h
  obtain ⟨_, m, hdemand, hexecute⟩ := Tx.bind_ok_iff.mp h
  obtain ⟨-, hm⟩ := demand_ok_iff.mp hdemand
  subst hm
  obtain ⟨-, s, hs, rfl⟩ := execute_ok_iff.mp hexecute
  rcases hinsert : m.state.users.insert username email passwordHash role with _ | users
  · simp only [hinsert] at hs
    cases hs
  · simp only [hinsert] at hs
    cases hs
    unfold UserTable.insert at hinsert
    split at hinsert
    · obtain rfl := Option.some.inj hinsert
      exact ⟨rfl, m.state.users.next, rfl⟩
    · cases hinsert

theorem registerStep_some {db t : Tables} {call : RegisterRequest × Faults PyExc}
    (h : registerStep server db call = some t) :
    t.sessions = db.sessions ∧ ∃ id, t.users.rows = db.users.rows ++
      [⟨id, call.1.username, call.1.email, call.1.passwordHash, some "user"⟩] := by
  unfold registerStep register at h
  split at h
  · rename_i answer t' hrun
    obtain rfl := Option.some.inj h
    obtain ⟨w, hblock, rfl⟩ := run_committed hrun
    unfold registerBlock at hblock
    obtain ⟨_, m, hinsert, hpure⟩ := Tx.bind_ok_iff.mp hblock
    obtain ⟨-, rfl⟩ := Tx.pure_ok_iff.mp hpure
    exact insertUser_ok hinsert
  · cases h

/-- Registrations add their accounts and nothing else. -/
theorem exec_registerStep {db t : Tables} {calls : List (RegisterRequest × Faults PyExc)}
    (h : exec (registerStep server) db calls = some t) :
    t.sessions = db.sessions ∧ (∀ v ∈ db.users.rows, v ∈ t.users.rows) ∧
      (∀ v ∈ t.users.rows, v ∈ db.users.rows ∨
        ∃ call ∈ calls, v.username = call.1.username ∧ v.email = call.1.email) ∧
      ∀ call ∈ calls, ∃ v ∈ t.users.rows,
        v.username = call.1.username ∧ v.email = call.1.email := by
  induction calls generalizing db with
  | nil =>
    obtain rfl := Option.some.inj h
    exact ⟨rfl, fun v hv => hv, fun v hv => Or.inl hv, by simp⟩
  | cons call rest ih =>
    obtain ⟨m, hm, hrest⟩ := exec_cons_iff.mp h
    obtain ⟨hsessions, id, hrows⟩ := registerStep_some hm
    obtain ⟨ihsessions, ihkept, ihadded, ihnew⟩ := ih hrest
    have hkept : ∀ v ∈ db.users.rows, v ∈ m.users.rows := by
      intro v hv
      rw [hrows]
      exact List.mem_append_left _ hv
    have hadded : (⟨id, call.1.username, call.1.email, call.1.passwordHash, some "user"⟩ : User) ∈
        m.users.rows := by
      rw [hrows]
      exact List.mem_append_right _ (List.mem_singleton_self _)
    refine ⟨ihsessions.trans hsessions, fun v hv => ihkept v (hkept v hv), ?_, ?_⟩
    · intro v hv
      rcases ihadded v hv with hv | ⟨c, hc, hnames⟩
      · rw [hrows] at hv
        rcases List.mem_append.mp hv with old | new
        · exact Or.inl old
        · obtain rfl := List.mem_singleton.mp new
          exact Or.inr ⟨call, List.mem_cons_self, rfl, rfl⟩
      · exact Or.inr ⟨c, List.mem_cons_of_mem call hc, hnames⟩
    · intro c hc
      rcases List.mem_cons.mp hc with rfl | hc
      · exact ⟨_, ihkept _ hadded, rfl, rfl⟩
      · exact ihnew c hc

/-- The new account has an address of the CRM domain, and is found under the name. -/
def Captures (name : String) (req : RegisterRequest) : Prop :=
  crmEmail req.email = true ∧ (req.username = "crm-" ++ name ∨ req.email = name)

instance (name : String) (req : RegisterRequest) : Decidable (Captures name req) :=
  inferInstanceAs (Decidable (_ ∧ _))

/-- Time only lets go of recorded failures. -/
theorem limitedAt_mono {attempt : Attempt} {now later : ℚ} (h : now ≤ later)
    (free : attempt.limitedAt server now = false) : attempt.limitedAt server later = false := by
  have hsub : ∀ attempts : List ℚ,
      (pruneAttempts later attempts).length ≤ (pruneAttempts now attempts).length := by
    intro attempts
    unfold pruneAttempts
    refine (List.monotone_filter_right attempts ?_).length_le
    intro ts hts
    have hle : later - ts ≤ loginWindowSeconds := of_decide_eq_true hts
    exact decide_eq_true (by linarith)
  have hle := hsub ((attempt.replica.loginAttempts attempt.req.clientIp).getD [])
  unfold Attempt.limitedAt limited at free ⊢
  have hlt := of_decide_eq_false free
  apply decide_eq_false
  omega

/-- A login that opened a session for the owner of the name still does so after
registrations of other accounts, exactly unless one of them captures the name. -/
theorem login_resolution_iff (attempt : Attempt) (now later : ℚ) (db db' : Tables) (u : User)
    (calls : List (RegisterRequest × Faults PyExc)) (hname : attempt.req.username = u.username)
    (before : OpensSession server attempt now db u)
    (registers : exec (registerStep server) db calls = some db') (hlater : now ≤ later) :
    OpensSession server attempt later db' u ↔
      crmOwned u = true ∨ ∀ call ∈ calls, ¬ Captures u.username call.1 := by
  obtain ⟨hadmits, hlookup⟩ := opensSession_iff.mp before
  obtain ⟨hsessions, hkept, hadded, hnew⟩ := exec_registerStep registers
  have hu : u ∈ db.users.rows := before.account
  have hadmits' : Admits server attempt later db'.sessions u :=
    { hadmits with
      unlimited := limitedAt_mono hlater hadmits.unlimited
      stored := hsessions ▸ hadmits.stored }
  rw [hname, lookupForLogin_self_iff hu] at hlookup
  rw [opensSession_iff, hname, lookupForLogin_self_iff (hkept u hu)]
  constructor
  · rintro ⟨-, hown | hothers⟩
    · exact Or.inl hown
    · refine Or.inr ?_
      rintro call hcall ⟨hcrm, hfound⟩
      obtain ⟨v, hv, husername, hemail⟩ := hnew call hcall
      have hmatches : loginMatches u.username v = true := by
        unfold loginMatches
        rw [husername, hemail]
        rcases hfound with hfound | hfound <;> simp [hfound]
      have hno : crmOwned v = false := hothers v hv hmatches
      rw [crmOwned, hemail, hcrm] at hno
      cases hno
  · intro h
    refine ⟨hadmits', ?_⟩
    rcases h with hown | hcalls
    · exact Or.inl hown
    by_cases hown : crmOwned u = true
    · exact Or.inl hown
    refine Or.inr ?_
    intro v hv hmatches
    rcases hadded v hv with old | ⟨call, hcall, husername, hemail⟩
    · rcases hlookup with hown' | hothers
      · exact absurd hown' hown
      · exact hothers v old hmatches
    · by_contra hcrm
      have hcrm' : crmEmail call.1.email = true := by
        rw [← hemail]
        simpa [crmOwned] using hcrm
      have hne : v.username ≠ u.username := by
        intro heq
        obtain rfl := db'.users.eq_of_username hv (hkept u hu) heq
        exact hown (by simpa using hcrm)
      have hfound : v.username = "crm-" ++ u.username ∨ v.email = u.username := by
        simpa [loginMatches, hne] using hmatches
      exact hcalls call hcall ⟨hcrm', husername ▸ hemail ▸ hfound⟩

def ann : User := ⟨1, "ann", "ann@example.com", "bcrypt:pw", some "user"⟩

def annTables : Tables :=
  ⟨UserTable.empty.append "ann" "ann@example.com" "bcrypt:pw" (some "user") (by decide),
    IdentityTable.Table.empty⟩

def annAttempt : Attempt :=
  ⟨⟨"ann", "pw", "10.0.0.1"⟩, "s1", noFaults, Replica.started⟩

theorem ann_opensSession : OpensSession asciiServer annAttempt 1 annTables ann :=
  opensSession_iff.mpr ⟨⟨by decide, rfl, rfl, rfl, by decide, "user", _, _, rfl, rfl⟩, by decide⟩

/-- Bob changes nothing for Ann. -/
theorem login_resolution_bob :
    ∃ t, exec (registerStep asciiServer) annTables
        [(⟨"bob", "bob@crm-enterprise.local", "bcrypt:b", []⟩, noFaults)] = some t ∧
      OpensSession asciiServer annAttempt 2 t ann := by
  obtain ⟨t, hregisters, -⟩ := (Option.any_eq_true (fun _ : Tables => true) (exec
    (registerStep asciiServer) annTables
      [(⟨"bob", "bob@crm-enterprise.local", "bcrypt:b", []⟩, noFaults)])).mp (by decide +kernel)
  exact ⟨t, hregisters, (login_resolution_iff annAttempt 1 2 annTables t ann _ rfl ann_opensSession
    hregisters (by norm_num)).mpr (Or.inr (by decide))⟩

/-- Somebody registers the prefixed name with an address of the CRM domain, and
Ann's name and password open no session for her any more. -/
theorem registration_takes_name :
    OpensSession asciiServer annAttempt 1 annTables ann ∧
      ∃ t, exec (registerStep asciiServer) annTables
          [(⟨"crm-ann", "eve@crm-enterprise.local", "bcrypt:e", []⟩, noFaults)] = some t ∧
        ¬ OpensSession asciiServer annAttempt 1 t ann := by
  refine ⟨ann_opensSession, ?_⟩
  obtain ⟨t, hregisters, hlookup⟩ := (Option.any_eq_true
    (fun t : Tables => decide (lookupForLogin t.users "ann" ≠ some ann)) (exec
      (registerStep asciiServer) annTables
      [(⟨"crm-ann", "eve@crm-enterprise.local", "bcrypt:e", []⟩, noFaults)])).mp (by decide +kernel)
  refine ⟨t, hregisters, ?_⟩
  intro hopens
  exact of_decide_eq_true hlookup (opensSession_iff.mp hopens).2

end Portal
