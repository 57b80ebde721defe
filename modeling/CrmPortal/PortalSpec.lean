import CrmPortal.AccountsSpec
import CrmPortal.Portal

/-!
# What one operation of the portal does

`Effect` says once what an operation can do to the tables. From it: where a
session row comes from, where a role comes from, and where an entry of a session
cache comes from.
-/

namespace Portal

open PyValue Accounts SessionLookup Transaction UnitOfWork

section Effects
variable {ι : Type} {server : Server}

/-- The operation opens its session under `sid`. -/
def Op.SignsIn (op : Op ι) (sid : String) : Prop :=
  match op with
  | .login _ _ newSid _ => newSid = sid
  | .ssoCallback _ newSid _ _ => newSid = sid
  | _ => False

/-- The operation, carried out in `s`, may give the user `id` the role. -/
def Grants (server : Server) (s : State ι) (op : Op ι) (now : ℚ) (id : Nat) (role : String) :
    Prop :=
  match op with
  | .bootstrapDatabase _ _ => role = "admin"
  | .changeUserRole replica sid failure userId body _ => userId = id ∧
      requestedRole server (gateUser (currentUser s replica sid failure now).1) body = .ok role
  | _ => False

inductive Effect (server : Server) (s : State ι) (op : Op ι) (now : ℚ) (t : Tables) : Prop where
  | grew (h : Grew "user" s.db t)
  | opened (middle : Tables) (user : User) (sid authMethod : String) (signsIn : op.SignsIn sid)
      (first : Grew "user" s.db middle) (known : user ∈ middle.users.rows)
      (h : Opened user sid authMethod middle t)
  | closed (sid : String) (users : t.users = s.db.users)
      (session : ∀ k, t.session k = if k = sid then none else s.db.session k)
  | granted (selects : User → Bool) (passwordHash : User → String) (role : String)
      (grants : ∀ u, selects u = true → Grants server s op now u.id role)
      (h : Assigned selects passwordHash role s.db t)
  | administrator (grants : ∀ id, Grants server s op now id "admin") (h : Grew "admin" s.db t)

theorem login_effect (faults : Faults PyExc) (replica : ι) (req : LoginRequest) (sid : String)
    (now : ℚ) (s : State ι) :
    Effect server s (.login replica req sid faults) now
      (login server faults req sid now s.db (s.replica replica)).2.1 := by
  cases hlimited : limited server
      (pruneAttempts now (((s.replica replica).loginAttempts req.clientIp).getD [])) with
  | true =>
    rw [login_limited hlimited]
    exact .grew (Grew.refl "user" s.db)
  | false =>
    rw [login_admitted hlimited]
    have hrun : SignedIn sid "password" s.db (run faults Tables.rollback
        (loginBlock server faults req.username req.password sid) s.db).state :=
      run_moves (R := SignedIn sid "password") (fun t later => Or.inl (rollback_same t later))
        (loginBlock_signedIn _ _ _) s.db
    rcases hrun with same | ⟨user, huser, opened⟩
    · exact .grew (same.grew "user")
    · exact .opened s.db user sid "password" rfl (Grew.refl "user" s.db) huser opened

theorem ssoCallback_effect (claims : Obj) (sid : String) (userFaults sessionFaults : Faults PyExc)
    (now : ℚ) (s : State ι) :
    Effect server s (.ssoCallback claims sid userFaults sessionFaults) now
      (ssoCallback server userFaults sessionFaults claims sid s.db) := by
  unfold ssoCallback
  split
  · exact .grew (Grew.refl "user" s.db)
  · rename_i identity _
    have first : Grew "user" s.db
        (run userFaults Tables.rollback (ssoUserBlock server userFaults identity) s.db).state :=
      run_moves (fun t later => (rollback_same t later).grew "user") (ssoUserBlock_grew identity)
        s.db
    split
    · rename_i user middle hrun
      rw [hrun] at first
      obtain ⟨w, hblock, hstate⟩ := run_committed hrun
      have huser : user ∈ middle.users.rows := hstate ▸ ssoUserBlock_user hblock
      rcases ssoSessionBlock_signedIn sessionFaults huser sid with same | ⟨u, hu, opened⟩
      · exact .grew (first.trans (same.grew "user"))
      · exact .opened middle u sid "sso" rfl first hu opened
    · exact .grew first

theorem logout_effect (sessionCookie : String) (faults : Faults PyExc) (now : ℚ) (s : State ι) :
    Effect server s (.logout sessionCookie faults) now (logout faults sessionCookie s.db) := by
  unfold logout
  split
  · exact .grew (Grew.refl "user" s.db)
  · rcases run_state faults Tables.rollback (logoutBlock faults sessionCookie) s.db with hrun | hrun
    · rw [hrun]
      rcases logoutBlock_state faults sessionCookie ⟨s.db, 0⟩ with same | deleted
      · rw [same]
        exact .grew (Grew.refl "user" s.db)
      · rw [deleted]
        exact .closed sessionCookie (deleteSession_users s.db sessionCookie)
          (deleteSession_session s.db sessionCookie)
    · rw [hrun]
      exact .grew ((rollback_same s.db _).grew "user")

theorem changeUserRole_effect (replica : ι) (sid : String) (failure : Option DbError) (userId : Int)
    (body : Json) (faults : Faults PyExc) (now : ℚ) (s : State ι) :
    Effect server s (.changeUserRole replica sid failure userId body faults) now
      (changeUserRole server faults (gateUser (currentUser s replica sid failure now).1) userId
        body s.db) := by
  unfold changeUserRole
  split
  · exact .grew (Grew.refl "user" s.db)
  · rename_i role hrole
    have hrun : RoleChanged userId role s.db
        (run faults Tables.rollback (changeRoleBlock faults userId role) s.db).state :=
      run_moves (R := RoleChanged userId role) (fun t later => Or.inl (rollback_same t later))
        (changeRoleBlock_changed _ _) s.db
    rcases hrun with same | assigned
    · exact .grew (same.grew "user")
    · refine .granted _ _ role ?_ assigned
      intro u hu
      exact ⟨(of_decide_eq_true hu).symm, hrole⟩

theorem bootstrapDatabase_effect (passwordHash : String) (faults : Faults PyExc) (now : ℚ)
    (s : State ι) :
    Effect server s (.bootstrapDatabase passwordHash faults) now
      (bootstrapDatabase server faults passwordHash s.db) := by
  have hrun : Bootstrapped passwordHash s.db (bootstrapDatabase server faults passwordHash s.db) :=
    run_moves (R := Bootstrapped passwordHash)
      (fun t later => Or.inl ((rollback_same t later).grew "admin"))
      (bootstrapBlock_bootstrapped passwordHash) s.db
  rcases hrun with grew | assigned
  · exact .administrator (fun _ => rfl) grew
  · exact .granted _ _ "admin" (fun _ _ => rfl) assigned

theorem perform_effect [DecidableEq ι] (server : Server) (op : Op ι) (now : ℚ) (s : State ι) :
    Effect server s op now (perform server op now s).db := by
  cases op with
  | bootstrapDatabase passwordHash faults =>
    exact bootstrapDatabase_effect passwordHash faults now s
  | register req faults =>
    exact .grew (run_moves (fun t later => (rollback_same t later).grew "user")
      (registerBlock_grew req) s.db)
  | login replica req sid faults => exact login_effect faults replica req sid now s
  | ssoCallback claims sid userFaults sessionFaults =>
    exact ssoCallback_effect claims sid userFaults sessionFaults now s
  | logout sessionCookie faults => exact logout_effect sessionCookie faults now s
  | getCurrentUser replica sid failure => exact .grew (Grew.refl "user" s.db)
  | changeUserRole replica sid failure userId body faults =>
    exact changeUserRole_effect replica sid failure userId body faults now s

end Effects

section Guards
variable {server : Server}

/-- A guard is one check of the role. -/
theorem guard_iff {allowed : Bool} (user : RequestContext.User) {e : PyExc} :
    (∃ u, (if allowed then Except.ok user else .error e) = .ok u) ↔ allowed = true := by
  cases allowed with
  | true => simp
  | false => simp

/-- The user of a session is let in when its role is an administrator's. -/
theorem requireAdminUser_iff (data : SessionData) :
    (∃ user, RequestContext.requireAdminUser server.py (requestOf (some data)) = .ok user) ↔
      RequestContext.isAdmin server.py (some data.role) = true :=
  guard_iff ⟨some data.userId, some data.role⟩

theorem requireManagementUser_iff (data : SessionData) :
    (∃ user, RequestContext.requireManagementUser server.py (requestOf (some data)) = .ok user) ↔
      RequestContext.canManageCatalog server.py (some data.role) = true :=
  guard_iff ⟨some data.userId, some data.role⟩

end Guards

section Origins
variable {ι : Type} [DecidableEq ι] {server : Server} {op : Op ι} {now : ℚ} {s : State ι}

/-- A session row was there before, or was just opened for a user that has its role. -/
theorem session_origin {sid : String} {row : UserSession}
    (h : (perform server op now s).db.session sid = some row) :
    s.db.session sid = some row ∨ (op.SignsIn sid ∧ ∃ u ∈ (perform server op now s).db.users.rows,
      u.id = row.userId ∧ u.username = row.username ∧ u.role = some row.role) := by
  cases perform_effect server op now s with
  | grew grew => exact Or.inl ((grew.session sid).symm.trans h)
  | opened middle user newSid authMethod signsIn first known opened =>
    obtain ⟨role, hrole, hsession⟩ := opened.session
    rw [hsession] at h
    by_cases hsid : sid = newSid
    · rw [if_pos hsid] at h
      obtain rfl := Option.some.inj h
      exact Or.inr ⟨hsid ▸ signsIn, user, opened.users.symm ▸ known, rfl, rfl, hrole⟩
    · rw [if_neg hsid] at h
      exact Or.inl ((first.session sid).symm.trans h)
  | closed oldSid users session =>
    rw [session] at h
    by_cases hsid : sid = oldSid
    · rw [if_pos hsid] at h
      cases h
    · rw [if_neg hsid] at h
      exact Or.inl h
  | granted selects passwordHash role grants assigned =>
    exact Or.inl ((assigned.session sid).symm.trans h)
  | administrator grants grew => exact Or.inl ((grew.session sid).symm.trans h)

/-- The role of a user is the old one, that of a new account, or granted. -/
theorem role_origin {u : User} (h : u ∈ (perform server op now s).db.users.rows) :
    (∃ v ∈ s.db.users.rows, v.id = u.id ∧ v.role = u.role) ∨
      (s.db.users.next ≤ u.id ∧ u.role = some "user") ∨
      ∃ role, u.role = some role ∧ Grants server s op now u.id role := by
  cases perform_effect server op now s with
  | grew grew =>
    rcases grew.added u h with old | ⟨hid, hrole⟩
    · exact Or.inl ⟨u, old, rfl, rfl⟩
    · exact Or.inr (Or.inl ⟨hid, hrole⟩)
  | opened middle user newSid authMethod signsIn first known opened =>
    rw [opened.users] at h
    rcases first.added u h with old | ⟨hid, hrole⟩
    · exact Or.inl ⟨u, old, rfl, rfl⟩
    · exact Or.inr (Or.inl ⟨hid, hrole⟩)
  | closed oldSid users session => exact Or.inl ⟨u, users ▸ h, rfl, rfl⟩
  | granted selects passwordHash role grants assigned =>
    rw [assigned.users] at h
    obtain ⟨v, hv, rfl⟩ := List.mem_map.mp h
    by_cases hselects : selects v = true
    · refine Or.inr (Or.inr ⟨role, ?_, ?_⟩)
      · simp [UserTable.assign, hselects]
      · rw [UserTable.assign_id]
        exact grants v hselects
    · refine Or.inl ⟨v, hv, ?_, ?_⟩
      · rw [UserTable.assign_id]
      · simp [UserTable.assign, hselects]
  | administrator grants grew =>
    rcases grew.added u h with old | ⟨-, hrole⟩
    · exact Or.inl ⟨u, old, rfl, rfl⟩
    · exact Or.inr (Or.inr ⟨"admin", hrole, grants u.id⟩)

theorem step_session_origin {t : State ι} {a : Action ι} (hstep : step server s a = some t)
    {sid : String} {row : UserSession} (h : t.db.session sid = some row) :
    s.db.session sid = some row ∨ (a.op.SignsIn sid ∧ ∃ u ∈ t.db.users.rows,
      u.id = row.userId ∧ u.username = row.username ∧ u.role = some row.role) := by
  obtain ⟨-, rfl⟩ := step_eq_some_iff.mp hstep
  exact session_origin h

theorem step_role_origin {t : State ι} {a : Action ι} (hstep : step server s a = some t) {u : User}
    (h : u ∈ t.db.users.rows) :
    (∃ v ∈ s.db.users.rows, v.id = u.id ∧ v.role = u.role) ∨
      (s.db.users.next ≤ u.id ∧ u.role = some "user") ∨
      ∃ role, u.role = some role ∧ Grants server s a.op a.time u.id role := by
  obtain ⟨-, rfl⟩ := step_eq_some_iff.mp hstep
  exact role_origin h

/-- Identities are never handed out again. -/
theorem perform_next : s.db.users.next ≤ (perform server op now s).db.users.next := by
  cases perform_effect server op now s with
  | grew grew => exact grew.next
  | opened middle user newSid authMethod signsIn first known opened =>
    exact Nat.le_trans first.next opened.next
  | closed oldSid users session => rw [users]
  | granted selects passwordHash role grants assigned => rw [assigned.next]
  | administrator grants grew => exact grew.next

theorem step_next {t : State ι} {a : Action ι} (hstep : step server s a = some t) :
    s.db.users.next ≤ t.db.users.next := by
  obtain ⟨-, rfl⟩ := step_eq_some_iff.mp hstep
  exact perform_next

omit [DecidableEq ι] in
theorem changeUserRole_session (faults : Faults PyExc) (user : Option SessionData) (userId : Int)
    (body : Json) (t : Tables) (sid : String) :
    (changeUserRole server faults user userId body t).session sid = t.session sid := by
  unfold changeUserRole
  split
  · rfl
  · rename_i role _
    have hrun : RoleChanged userId role t
        (run faults Tables.rollback (changeRoleBlock faults userId role) t).state :=
      run_moves (R := RoleChanged userId role) (fun t later => Or.inl (rollback_same t later))
        (changeRoleBlock_changed _ _) t
    rcases hrun with same | assigned
    · exact same.session sid
    · exact assigned.session sid

/-- Only a read that did not fail finds a row. -/
theorem readSession_found {t : Tables} {sid : String} {failure : Option DbError} {row : UserSession}
    (h : readSession t sid failure = .ok (some row)) : t.session sid = some row := by
  cases failure with
  | none => exact Except.ok.inj h
  | some e => cases h

omit [DecidableEq ι] in
/-- An entry was in the cache, or holds the row that is in the table now. -/
theorem currentUser_cache {replica : ι} {sid k : String} {failure : Option DbError} {ts : ℚ}
    {data : SessionData}
    (h : (currentUser s replica sid failure now).2.sessionCache k = some (ts, data)) :
    (s.replica replica).sessionCache k = some (ts, data) ∨
      (ts = now ∧ ∃ row, s.db.session k = some row ∧ SessionData.ofRow row = data) := by
  unfold currentUser at h
  rcases getCurrentUser_cases sid ⟨now, now⟩ (readSession s.db sid failure) (s.replica replica) with
    ⟨-, heq⟩ | ⟨hit, -, -, heq⟩ | ⟨row, -, -, hread, heq⟩ | ⟨-, -, -, heq⟩ | ⟨e, -, -, -, heq⟩
  · rw [heq] at h
    exact Or.inl h
  · rw [heq] at h
    exact Or.inl h
  · rw [heq] at h
    by_cases hk : k = sid
    · subst hk
      have hentry : some (now, SessionData.ofRow row) = some (ts, data) := by
        simpa [Replica.cache] using h
      obtain ⟨rfl, rfl⟩ := Prod.mk.inj (Option.some.inj hentry)
      exact Or.inr ⟨rfl, row, readSession_found hread, rfl⟩
    · exact Or.inl (by simpa [Replica.cache, hk] using h)
  · rw [heq] at h
    by_cases hk : k = sid
    · simp [Replica.cache, hk] at h
    · exact Or.inl (by simpa [Replica.cache, hk] using h)
  · rw [heq] at h
    exact Or.inl (by simpa using h)

theorem cache_origin {replica : ι} {k : String} {ts : ℚ} {data : SessionData}
    (h : ((perform server op now s).replica replica).sessionCache k = some (ts, data)) :
    (s.replica replica).sessionCache k = some (ts, data) ∨
      (ts = now ∧ ∃ row, (perform server op now s).db.session k = some row ∧
        SessionData.ofRow row = data) := by
  cases op with
  | bootstrapDatabase passwordHash faults => exact Or.inl h
  | register req faults => exact Or.inl h
  | ssoCallback claims sid userFaults sessionFaults => exact Or.inl h
  | logout sessionCookie faults => exact Or.inl h
  | login at_ req sid faults =>
    by_cases hreplica : replica = at_
    · subst hreplica
      refine Or.inl ?_
      cases hlimited : limited server
          (pruneAttempts now (((s.replica replica).loginAttempts req.clientIp).getD [])) with
      | true =>
        simpa [perform, State.setReplica, login_limited hlimited, Replica.setAttempts] using h
      | false =>
        simpa [perform, State.setReplica, login_admitted hlimited, Replica.setAttempts] using h
    · exact Or.inl (by simpa [perform, State.setReplica, hreplica] using h)
  | getCurrentUser at_ sid failure =>
    by_cases hreplica : replica = at_
    · subst hreplica
      exact currentUser_cache (by simpa [perform, State.setReplica] using h)
    · exact Or.inl (by simpa [perform, State.setReplica, hreplica] using h)
  | changeUserRole at_ sid failure userId body faults =>
    by_cases hreplica : replica = at_
    · subst hreplica
      have hcache : (currentUser s replica sid failure now).2.sessionCache k = some (ts, data) := by
        simpa [perform, State.setReplica] using h
      rcases currentUser_cache hcache with old | ⟨hts, row, hrow, hdata⟩
      · exact Or.inl old
      · exact Or.inr ⟨hts, row, (changeUserRole_session _ _ _ _ _ _).trans hrow, hdata⟩
    · exact Or.inl (by simpa [perform, State.setReplica, hreplica] using h)

end Origins
end Portal
