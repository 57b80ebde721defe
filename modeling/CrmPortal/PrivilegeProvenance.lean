import CrmPortal.SessionFreshness

/-!
# Where a privilege comes from

From empty tables: roles other than `user` come from the bootstrap, or from an
administrator. Accounts are created as `user` whatever the request says, sessions
copy the role of their user, and `change_user_role` asks for a session whose role
is `admin`, as it was in the table less than 30 seconds before.
-/

namespace Portal

open PyValue Accounts SessionLookup Schedule RequestContext

variable {ι : Type} {server : Server}

/-- Only a session of an administrator asks for a role, and for one of the list. -/
theorem requestedRole_ok {user : Option SessionData} {body : Json} {role : String}
    (h : requestedRole server user body = .ok role) :
    role ∈ allowedRoles ∧ ∃ data, user = some data ∧ isAdmin server.py (some data.role) = true := by
  unfold requestedRole at h
  obtain ⟨actor, hactor, h⟩ := bind_ok_iff.mp h
  obtain ⟨fields, -, h⟩ := bind_ok_iff.mp h
  have hrole : role ∈ allowedRoles := by
    dsimp only at h
    split at h
    · rename_i hmem
      cases h
      exact hmem
    · cases h
  cases user with
  | none => cases hactor
  | some data =>
    exact ⟨hrole, data, rfl, (requireAdminUser_iff data).mp ⟨actor, hactor⟩⟩

/-- Stripping and lowering make no other word of the list an administrator's. -/
theorem admin_of_isAdmin {role : String} (known : role ∈ allowedRoles)
    (h : isAdmin server.py (some role) = true) : role = "admin" := by
  have hmem : server.py.lower (server.py.strip role) ∈ adminRoles := of_decide_eq_true h
  rw [server.plainWords role known] at hmem
  exact List.mem_singleton.mp hmem

variable [DecidableEq ι] {s₀ : State ι}

structure KnownRoles (t : Tables) : Prop where
  users : ∀ u ∈ t.users.rows, ∃ role ∈ allowedRoles, u.role = some role
  sessions : ∀ sid row, t.session sid = some row → row.role ∈ allowedRoles

omit [DecidableEq ι] in
theorem Grants.known {s : State ι} {op : Op ι} {now : ℚ} {id : Nat} {role : String}
    (h : Grants server s op now id role) : role ∈ allowedRoles := by
  cases op with
  | bootstrapDatabase passwordHash faults =>
    obtain rfl : role = "admin" := h
    decide
  | changeUserRole replica sid failure userId body faults => exact (requestedRole_ok h.2).1
  | register req faults => exact False.elim h
  | login replica req sid faults => exact False.elim h
  | ssoCallback claims sid userFaults sessionFaults => exact False.elim h
  | logout sessionCookie faults => exact False.elim h
  | getCurrentUser replica sid failure => exact False.elim h

theorem step_knownRoles {s t : State ι} {a : Action ι} (known : KnownRoles s.db)
    (hstep : step server s a = some t) : KnownRoles t.db := by
  have husers : ∀ u ∈ t.db.users.rows, ∃ role ∈ allowedRoles, u.role = some role := by
    intro u hu
    rcases step_role_origin hstep hu with ⟨v, hv, -, hrole⟩ | ⟨-, hrole⟩ | ⟨role, hrole, hgrants⟩
    · exact hrole ▸ known.users v hv
    · exact ⟨"user", by decide, hrole⟩
    · exact ⟨role, hgrants.known, hrole⟩
  refine ⟨husers, ?_⟩
  intro sid row hrow
  rcases step_session_origin hstep hrow with old | ⟨-, u, hu, -, -, hrole⟩
  · exact known.sessions sid row old
  · obtain ⟨role, hmem, hsome⟩ := husers u hu
    obtain rfl : role = row.role := Option.some.inj (hsome.symm.trans hrole)
    exact hmem

theorem knownRoles_empty : KnownRoles Tables.empty := by
  refine ⟨?_, ?_⟩
  · intro u hu
    cases hu
  · intro sid row hrow
    cases hrow

theorem exec_knownRoles {t₀ : ℚ} {schedule : List (Action ι)} {s : State ι}
    (run : exec (step server) (start Tables.empty t₀) schedule = some s) : KnownRoles s.db :=
  exec_invariant (P := fun s : State ι => KnownRoles s.db)
    (fun _ _ _ known hstep => step_knownRoles known hstep) run knownRoles_empty

/-- A step, taken after the run `earlier`, by which an authority gives the role. -/
def GrantedBy (server : Server) (s₀ : State ι) (earlier : List (Action ι)) (m : State ι)
    (a : Action ι) (id : Nat) (role : String) : Prop :=
  match a.op with
  | .bootstrapDatabase _ _ => role = "admin"
  | .changeUserRole replica sid failure userId body _ => userId = id ∧
      ∃ actor : SessionData, (currentUser m replica sid failure a.time).1 = .ok (some actor) ∧
        actor.role = "admin" ∧ requestedRole server (some actor) body = .ok role ∧
        ∃ τ, a.time - 30 < τ ∧ τ ≤ a.time ∧ ExistedAt server s₀ earlier τ sid actor
  | _ => False

/-- The user has the role now and did not have it before. -/
def Gains (before after : Tables) (id : Nat) (role : String) : Prop :=
  (∃ u ∈ after.users.rows, u.id = id ∧ u.role = some role) ∧
    ∀ u ∈ before.users.rows, u.id = id → u.role ≠ some role

/-- A step of the run by which the user gained the role was one of the bootstrap or
of an administrator. -/
def Granted (server : Server) (s₀ : State ι) (schedule : List (Action ι)) (id : Nat)
    (role : String) : Prop :=
  ∃ earlier a later m m', schedule = earlier ++ a :: later ∧
    exec (step server) s₀ earlier = some m ∧ step server m a = some m' ∧
    Gains m.db m'.db id role ∧ GrantedBy server s₀ earlier m a id role

theorem Granted.extend {schedule : List (Action ι)} {b : Action ι} {id : Nat} {role : String}
    (h : Granted server s₀ schedule id role) : Granted server s₀ (schedule ++ [b]) id role := by
  obtain ⟨earlier, a, later, m, m', hsplit, hexec, hstep, hgains, hby⟩ := h
  refine ⟨earlier, a, later ++ [b], m, m', ?_, hexec, hstep, hgains, hby⟩
  rw [hsplit, List.append_assoc, List.cons_append]

/-- Whoever is let in to change a role is an administrator in the table. -/
theorem Grants.grantedBy {t₀ : ℚ} {done : List (Action ι)} {s t : State ι} {a : Action ι}
    (run : exec (step server) (start Tables.empty t₀) done = some s)
    (hstep : step server s a = some t) {id : Nat} {role : String}
    (h : Grants server s a.op a.time id role) :
    GrantedBy server (start Tables.empty t₀) done s a id role := by
  have htime := (step_eq_some_iff.mp hstep).1
  unfold GrantedBy
  cases hop : a.op with
  | bootstrapDatabase passwordHash faults =>
    rw [hop] at h
    exact h
  | changeUserRole replica sid failure userId body faults =>
    rw [hop] at h
    obtain ⟨hid, hrequested⟩ := h
    obtain ⟨-, actor, hactor, hadmin⟩ := requestedRole_ok hrequested
    have hreturned : (currentUser s replica sid failure a.time).1 = .ok (some actor) := by
      unfold gateUser at hactor
      split at hactor
      · rename_i user heq
        rw [heq, hactor]
      · cases hactor
    obtain ⟨τ, hyoung, hτ, hexisted⟩ :=
      session_data_fresh Tables.empty t₀ done s run replica sid failure a.time htime actor hreturned
    have hknown : actor.role ∈ allowedRoles := by
      obtain ⟨first, rest, m, -, hexec, -, -, row, hrow, hdata⟩ := hexisted
      exact hdata ▸ (exec_knownRoles hexec).sessions sid row hrow
    rw [hactor] at hrequested
    exact ⟨hid, actor, hreturned, admin_of_isAdmin hknown hadmin, hrequested, τ, hyoung, hτ,
      hexisted⟩
  | register req faults => rw [hop] at h; exact h
  | login replica req sid faults => rw [hop] at h; exact h
  | ssoCallback claims sid userFaults sessionFaults => rw [hop] at h; exact h
  | logout sessionCookie faults => rw [hop] at h; exact h
  | getCurrentUser replica sid failure => rw [hop] at h; exact h

/-- Roles other than `user` have been granted. -/
structure Provenance (server : Server) (s₀ : State ι) (schedule : List (Action ι)) (s : State ι) :
    Prop where
  users : ∀ u ∈ s.db.users.rows, ∀ role, u.role = some role → role ≠ "user" →
    Granted server s₀ schedule u.id role
  sessions : ∀ sid row, s.db.session sid = some row → row.role ≠ "user" →
    Granted server s₀ schedule row.userId row.role

theorem step_provenance {t₀ : ℚ} {done : List (Action ι)} {s t : State ι} {a : Action ι}
    (run : exec (step server) (start Tables.empty t₀) done = some s)
    (provenance : Provenance server (start Tables.empty t₀) done s)
    (hstep : step server s a = some t) :
    Provenance server (start Tables.empty t₀) (done ++ [a]) t := by
  have husers : ∀ u ∈ t.db.users.rows, ∀ role, u.role = some role → role ≠ "user" →
      Granted server (start Tables.empty t₀) (done ++ [a]) u.id role := by
    intro u hu role hrole hne
    rcases step_role_origin hstep hu with ⟨v, hv, hid, hsame⟩ | ⟨-, hplain⟩ |
      ⟨granted, hgranted, hgrants⟩
    · exact hid ▸ (provenance.users v hv role (hsame.trans hrole) hne).extend
    · exact absurd (Option.some.inj (hrole.symm.trans hplain)) hne
    · obtain rfl : granted = role := Option.some.inj (hgranted.symm.trans hrole)
      by_cases had : ∃ v ∈ s.db.users.rows, v.id = u.id ∧ v.role = some granted
      · obtain ⟨v, hv, hid, hold⟩ := had
        exact hid ▸ (provenance.users v hv granted hold hne).extend
      · have hgains : Gains s.db t.db u.id granted :=
          ⟨⟨u, hu, rfl, hrole⟩, fun v hv hid hold => had ⟨v, hv, hid, hold⟩⟩
        exact ⟨done, a, [], s, t, rfl, run, hstep, hgains, hgrants.grantedBy run hstep⟩
  refine ⟨husers, ?_⟩
  intro sid row hrow hne
  rcases step_session_origin hstep hrow with old | ⟨-, u, hu, hid, -, hrole⟩
  · exact (provenance.sessions sid row old hne).extend
  · exact hid ▸ husers u hu row.role hrole hne

theorem exec_provenance {t₀ : ℚ} {schedule : List (Action ι)} {s : State ι}
    (run : exec (step server) (start Tables.empty t₀) schedule = some s) :
    Provenance server (start Tables.empty t₀) schedule s := by
  refine exec_history (P := Provenance server (start Tables.empty t₀)) ?_ ?_ run
  · refine ⟨?_, ?_⟩
    · intro u hu
      cases hu
    · intro sid row hrow
      cases hrow
  · intro done t a u hdone hprovenance hstep
    exact step_provenance hdone hprovenance hstep

/-- In every run from empty tables: a user or a session has another role than
`user` only if the bootstrap gave it, or a `change_user_role` under a session of an
administrator. -/
theorem no_privilege_escalation (t₀ : ℚ) (schedule : List (Action ι)) (s : State ι)
    (run : exec (step server) (start Tables.empty t₀) schedule = some s) :
    (∀ u ∈ s.db.users.rows, u.role ≠ some "user" → ∃ role, u.role = some role ∧
      Granted server (start Tables.empty t₀) schedule u.id role) ∧
    (∀ sid row, s.db.session sid = some row → row.role ≠ "user" →
      Granted server (start Tables.empty t₀) schedule row.userId row.role) := by
  refine ⟨?_, (exec_provenance run).sessions⟩
  intro u hu hne
  obtain ⟨role, -, hrole⟩ := (exec_knownRoles run).users u hu
  refine ⟨role, hrole, (exec_provenance run).users u hu role hrole ?_⟩
  rintro rfl
  exact hne hrole

/-- The administrator makes Ann a manager, and she asks for more when she registers. -/
def promotion : List (Action Nat) :=
  [⟨.bootstrapDatabase "bcrypt:pw" noFaults, 1⟩,
    ⟨.register ⟨"ann", "ann@example.com", "bcrypt:pw", [("role", .str "admin")]⟩ noFaults, 2⟩,
    ⟨.login 0 ⟨"admin", "pw", "10.0.0.1"⟩ "s1" noFaults, 3⟩,
    ⟨.changeUserRole 0 "s1" none 2 (.obj [("role", .str "manager")]) noFaults, 4⟩]

theorem no_privilege_escalation_promotion :
    Granted asciiServer (start Tables.empty 0) promotion 2 "manager" := by
  obtain ⟨s, hrun, hrow⟩ := (Option.any_eq_true
    (fun s : State Nat => decide (∃ u ∈ s.db.users.rows, u.id = 2 ∧ u.role = some "manager"))
    (exec (step asciiServer) (start Tables.empty 0) promotion)).mp (by decide +kernel)
  obtain ⟨u, hu, hid, hrole⟩ := of_decide_eq_true hrow
  obtain ⟨role, hsome, hgranted⟩ := (no_privilege_escalation 0 promotion s hrun).1 u hu
    (by rw [hrole]; decide)
  obtain rfl : role = "manager" := Option.some.inj (hsome.symm.trans hrole)
  exact hid ▸ hgranted

end Portal
