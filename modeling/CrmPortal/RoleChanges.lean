import CrmPortal.SessionFreshness

/-!
# What a role change reaches

`change_user_role` writes the users table. A session keeps the role that its user
had when it was opened, for as long as it lives, and the guards see no other one:
a change governs the sessions that are opened after it.
-/

namespace Portal

open PyValue Accounts SessionLookup Schedule RequestContext

variable {ι : Type} [DecidableEq ι] {server : Server} {s₀ : State ι}

/-- After the steps `earlier` the run opened a session under `sid`, for a user that
had the role then. -/
def SignedInAfter (server : Server) (s₀ : State ι) (schedule : List (Action ι)) (sid : String)
    (data : SessionData) (earlier : List (Action ι)) : Prop :=
  ∃ a later m m', schedule = earlier ++ a :: later ∧
    exec (step server) s₀ earlier = some m ∧ step server m a = some m' ∧ a.op.SignsIn sid ∧
    ∃ u ∈ m'.db.users.rows, u.id = data.userId ∧ u.username = data.username ∧
      u.role = some data.role

theorem SignedInAfter.extend {schedule more earlier : List (Action ι)} {sid : String}
    {data : SessionData} (h : SignedInAfter server s₀ schedule sid data earlier) :
    SignedInAfter server s₀ (schedule ++ more) sid data earlier := by
  obtain ⟨a, later, m, m', hsplit, hexec, hstep, hsigns, hu⟩ := h
  refine ⟨a, later ++ more, m, m', ?_, hexec, hstep, hsigns, hu⟩
  rw [hsplit, List.append_assoc, List.cons_append]

/-- Every session in the table was opened in the run. -/
def SessionsOpened (server : Server) (s₀ : State ι) (schedule : List (Action ι)) (s : State ι) :
    Prop :=
  ∀ sid row, s.db.session sid = some row →
    ∃ earlier, SignedInAfter server s₀ schedule sid (SessionData.ofRow row) earlier

theorem exec_sessionsOpened (empty : ∀ sid, s₀.db.session sid = none) {schedule : List (Action ι)}
    {s : State ι} (run : exec (step server) s₀ schedule = some s) :
    SessionsOpened server s₀ schedule s := by
  refine exec_history (P := SessionsOpened server s₀) ?_ ?_ run
  · intro sid row hrow
    rw [empty] at hrow
    cases hrow
  · intro done t a u hdone hopened hstep sid row hrow
    rcases step_session_origin hstep hrow with old | ⟨hsigns, hv⟩
    · obtain ⟨earlier, hsigned⟩ := hopened sid row old
      exact ⟨earlier, hsigned.extend⟩
    · exact ⟨done, a, [], t, u, rfl, hdone, hstep, hsigns, hv⟩

/-- The user data of a request is that of a sign-in of the run. -/
theorem returned_signedIn (users : UserTable) (t₀ : ℚ) {schedule : List (Action ι)} {s : State ι}
    (run : exec (step server) (start ⟨users, IdentityTable.Table.empty⟩ t₀) schedule = some s)
    {replica : ι} {sid : String} {failure : Option DbError} {now : ℚ} (hnow : s.now ≤ now)
    {data : SessionData} (returned : (currentUser s replica sid failure now).1 = .ok (some data)) :
    ∃ earlier, SignedInAfter server (start ⟨users, IdentityTable.Table.empty⟩ t₀) schedule sid data
      earlier := by
  obtain ⟨τ, -, -, first, rest, m, hsplit, hexec, -, -, row, hrow, hdata⟩ :=
    session_data_fresh _ t₀ schedule s run replica sid failure now hnow data returned
  have empty : ∀ k, (start (ι := ι) ⟨users, IdentityTable.Table.empty⟩ t₀).db.session k = none := by
    intro k
    rfl
  obtain ⟨earlier, hsigned⟩ := exec_sessionsOpened empty hexec sid row hrow
  rw [hdata] at hsigned
  exact ⟨earlier, hsplit ▸ hsigned.extend⟩

/-- The operation may write the role of the user. -/
def Op.WritesRole (op : Op ι) (id : Nat) : Prop :=
  match op with
  | .bootstrapDatabase _ _ => True
  | .changeUserRole _ _ _ userId _ _ => userId = id
  | _ => False

omit [DecidableEq ι] in
theorem Grants.writesRole {s : State ι} {op : Op ι} {now : ℚ} {id : Nat} {role : String}
    (h : Grants server s op now id role) : op.WritesRole id := by
  cases op with
  | bootstrapDatabase passwordHash faults => trivial
  | changeUserRole replica sid failure userId body faults => exact h.1
  | register req faults => exact h
  | login replica req sid faults => exact h
  | ssoCallback claims sid userFaults sessionFaults => exact h
  | logout sessionCookie faults => exact h
  | getCurrentUser replica sid failure => exact h

omit [DecidableEq ι] in
theorem Op.SignsIn.not_writesRole {op : Op ι} {sid : String} (h : op.SignsIn sid) (id : Nat) :
    ¬ op.WritesRole id := by
  intro hwrites
  cases op with
  | login replica req newSid faults => exact hwrites
  | ssoCallback claims newSid userFaults sessionFaults => exact hwrites
  | bootstrapDatabase passwordHash faults => exact h
  | changeUserRole replica oldSid failure userId body faults => exact h
  | register req faults => exact h
  | logout sessionCookie faults => exact h
  | getCurrentUser replica oldSid failure => exact h

/-- The user is known, and its rows have this role. -/
def HasRole (t : Tables) (id : Nat) (role : String) : Prop :=
  id < t.users.next ∧ ∀ u ∈ t.users.rows, u.id = id → u.role = some role

theorem step_hasRole {s t : State ι} {a : Action ι} {id : Nat} {role : String}
    (hstep : step server s a = some t) (keeps : ¬ a.op.WritesRole id) (h : HasRole s.db id role) :
    HasRole t.db id role := by
  refine ⟨Nat.lt_of_lt_of_le h.1 (step_next hstep), ?_⟩
  intro u hu hid
  rcases step_role_origin hstep hu with ⟨v, hv, hvid, hvrole⟩ | ⟨hnew, -⟩ | ⟨granted, -, hgrants⟩
  · exact hvrole ▸ h.2 v hv (hvid.trans hid)
  · have hlt := h.1
    omega
  · exact absurd (hid ▸ hgrants.writesRole) keeps

theorem exec_hasRole {s t : State ι} {schedule : List (Action ι)} {id : Nat} {role : String}
    (run : exec (step server) s schedule = some t) (keeps : ∀ a ∈ schedule, ¬ a.op.WritesRole id)
    (h : HasRole s.db id role) : HasRole t.db id role := by
  induction schedule generalizing s with
  | nil =>
    obtain rfl := Option.some.inj run
    exact h
  | cons a rest ih =>
    obtain ⟨m, hm, hrest⟩ := exec_cons_iff.mp run
    exact ih hrest (fun b hb => keeps b (List.mem_cons_of_mem a hb))
      (step_hasRole hm (keeps a List.mem_cons_self) h)

/-- The last step of the run that may have written the role of the user is a
`change_user_role` to `role`, which was committed at `time`. -/
def LastChange (server : Server) (s₀ : State ι) (schedule : List (Action ι)) (id : Nat)
    (role : String) (time : ℚ) : Prop :=
  ∃ first change later m m', schedule = first ++ change :: later ∧
    exec (step server) s₀ first = some m ∧ step server m change = some m' ∧ change.time = time ∧
    (∃ replica sid failure body faults,
      change.op = .changeUserRole replica sid failure id body faults ∧
      requestedRole server (gateUser (currentUser m replica sid failure time).1) body = .ok role) ∧
    (∃ v ∈ m'.db.users.rows, v.id = id ∧ v.role = some role) ∧
    ∀ b ∈ later, ¬ b.op.WritesRole id

theorem hasRole_of_mem {t : Tables} {u : Accounts.User} {role : String} (hu : u ∈ t.users.rows)
    (hrole : u.role = some role) : HasRole t u.id role :=
  ⟨t.users.issued u hu, fun _ hv hid => (t.users.eq_of_id hv hu hid).symm ▸ hrole⟩

/-- After the last change the rows of the user keep its role. -/
theorem LastChange.hasRole {schedule : List (Action ι)} {s : State ι} {id : Nat} {role : String}
    {time : ℚ} (h : LastChange server s₀ schedule id role time)
    (run : exec (step server) s₀ schedule = some s) : HasRole s.db id role := by
  obtain ⟨first, change, later, m, m', rfl, hexec, hstep, -, -, ⟨v, hv, rfl, hrole⟩, hkeeps⟩ := h
  obtain ⟨n, hn, hrest⟩ := exec_append_iff.mp run
  obtain rfl : m = n := Option.some.inj (hexec.symm.trans hn)
  obtain ⟨n', hn', hlater⟩ := exec_cons_iff.mp hrest
  obtain rfl : m' = n' := Option.some.inj (hstep.symm.trans hn')
  exact exec_hasRole hlater hkeeps (hasRole_of_mem hv hrole)

/-- The guards decide by this role. -/
def AuthorisedAs (server : Server) (data : SessionData) (role : String) : Prop :=
  ((∃ user, requireAdminUser server.py (requestOf (some data)) = .ok user) ↔
    isAdmin server.py (some role) = true) ∧
  ((∃ user, requireManagementUser server.py (requestOf (some data)) = .ok user) ↔
    canManageCatalog server.py (some role) = true)

/-- In every run: a request on a session is authorised as the role that the row of
its user held when the session was opened, which is the role of the last change
before that. -/
theorem authorised_as_signed_in (users : UserTable) (t₀ : ℚ) (schedule : List (Action ι))
    (s : State ι)
    (run : exec (step server) (start ⟨users, IdentityTable.Table.empty⟩ t₀) schedule = some s)
    (replica : ι) (sid : String) (failure : Option DbError) (now : ℚ) (hnow : s.now ≤ now)
    (data : SessionData) (returned : (currentUser s replica sid failure now).1 = .ok (some data)) :
    ∃ earlier, SignedInAfter server (start ⟨users, IdentityTable.Table.empty⟩ t₀) schedule sid data
        earlier ∧
      AuthorisedAs server data data.role ∧
      ∀ role time, LastChange server (start ⟨users, IdentityTable.Table.empty⟩ t₀) earlier
        data.userId role time → AuthorisedAs server data role := by
  obtain ⟨earlier, hsigned⟩ := returned_signedIn users t₀ run hnow returned
  have hdata : AuthorisedAs server data data.role :=
    ⟨requireAdminUser_iff data, requireManagementUser_iff data⟩
  refine ⟨earlier, hsigned, hdata, ?_⟩
  intro role time hchange
  obtain ⟨a, later, m, m', hsplit, hexec, hstep, hsigns, u, hu, hid, -, hrole⟩ := hsigned
  have hold : HasRole m.db data.userId role := hchange.hasRole hexec
  have hnew : HasRole m'.db data.userId role :=
    step_hasRole hstep (hsigns.not_writesRole data.userId) hold
  have hsame : some data.role = some role := hrole.symm.trans (hnew.2 u hu hid)
  exact Option.some.inj hsame ▸ hdata

/-- The administrator signs in and makes himself a plain user. -/
def beforeDemotion : List (Action Nat) :=
  [⟨.bootstrapDatabase "bcrypt:pw" noFaults, 1⟩,
    ⟨.login 0 ⟨"admin", "pw", "10.0.0.1"⟩ "s1" noFaults, 2⟩]

def demotion : Action Nat :=
  ⟨.changeUserRole 0 "s1" none 1 (.obj [("role", .str "user")]) noFaults, 3⟩

/-- A session that is opened after the change has the new role. -/
theorem authorised_as_signed_in_demoted :
    ∃ s, exec (step asciiServer) (start Tables.empty 0)
        (beforeDemotion ++ [demotion, ⟨.login 1 ⟨"admin", "pw", "10.0.0.1"⟩ "s2" noFaults, 4⟩]) =
          some s ∧
      AuthorisedAs asciiServer ⟨1, "admin", "user"⟩ "user" := by
  obtain ⟨s, hrun, hanswer⟩ := (Option.any_eq_true
    (fun s : State Nat => decide (s.now ≤ 50) &&
      decide ((currentUser s 1 "s2" none 50).1 = .ok (some ⟨1, "admin", "user"⟩)))
    (exec (step asciiServer) (start Tables.empty 0)
      (beforeDemotion ++ [demotion, ⟨.login 1 ⟨"admin", "pw", "10.0.0.1"⟩ "s2" noFaults, 4⟩]))).mp
    (by decide +kernel)
  have hboth := Bool.and_eq_true_iff.mp hanswer
  obtain ⟨earlier, -, hauthorised, -⟩ := authorised_as_signed_in UserTable.empty 0 _ s hrun 1 "s2"
    none 50 (of_decide_eq_true hboth.1) ⟨1, "admin", "user"⟩ (of_decide_eq_true hboth.2)
  exact ⟨s, hrun, hauthorised⟩

/-- The last change of a user's role governs every session of the user as soon as
the caches have forgotten what they knew before. -/
def ChangesGovern (server : Server) (s₀ : State ι) : Prop :=
  ∀ schedule s, exec (step server) s₀ schedule = some s →
    ∀ id role time, LastChange server s₀ schedule id role time →
      ∀ now, s.now ≤ now → time + 30 < now →
        ∀ replica sid failure data, (currentUser s replica sid failure now).1 = .ok (some data) →
          data.userId = id → AuthorisedAs server data role

/-- The session that was opened before the change stays an administrator's. -/
theorem open_session_keeps_role :
    ¬ ChangesGovern asciiServer (start Tables.empty 0 : State Nat) := by
  intro governs
  obtain ⟨m, hm, hlast⟩ := (Option.any_eq_true
    (fun m : State Nat =>
      decide (requestedRole asciiServer (gateUser (currentUser m 0 "s1" none 3).1)
        (.obj [("role", .str "user")]) = .ok "user") &&
      (step asciiServer m demotion).any fun s : State Nat =>
        decide (∃ v ∈ s.db.users.rows, v.id = 1 ∧ v.role = some "user") &&
        decide (s.now ≤ 100) &&
        decide ((currentUser s 0 "s1" none 100).1 = .ok (some ⟨1, "admin", "admin"⟩)))
    (exec (step asciiServer) (start Tables.empty 0) beforeDemotion)).mp (by decide +kernel)
  obtain ⟨hrequested, hstep⟩ := Bool.and_eq_true_iff.mp hlast
  obtain ⟨s, hs, hafter⟩ := (Option.any_eq_true _ _).mp hstep
  obtain ⟨hbefore, hreturned⟩ := Bool.and_eq_true_iff.mp hafter
  obtain ⟨hrow, hnow⟩ := Bool.and_eq_true_iff.mp hbefore
  have hrun : exec (step asciiServer) (start Tables.empty 0) (beforeDemotion ++ [demotion]) =
    some s :=
    exec_append_iff.mpr ⟨m, hm, exec_cons_iff.mpr ⟨s, hs, rfl⟩⟩
  have hchange : LastChange asciiServer (start Tables.empty 0) (beforeDemotion ++ [demotion]) 1
      "user" 3 :=
    ⟨beforeDemotion, demotion, [], m, s, rfl, hm, hs, rfl,
      ⟨0, "s1", none, _, _, rfl, of_decide_eq_true hrequested⟩, of_decide_eq_true hrow, by simp⟩
  have hplain := governs _ s hrun 1 "user" 3 hchange 100 (of_decide_eq_true hnow) (by norm_num) 0
    "s1" none ⟨1, "admin", "admin"⟩ (of_decide_eq_true hreturned) rfl
  have hadmin : ∃ user, requireAdminUser asciiServer.py
      (requestOf (some ⟨1, "admin", "admin"⟩)) = .ok user :=
    (requireAdminUser_iff _).mpr (by decide)
  have hno : isAdmin asciiServer.py (some "user") = false := by decide
  rw [hplain.1.mp hadmin] at hno
  cases hno

end Portal
