import CrmPortal.Accounts

/-!
# What the account handlers do to the tables

Each block leaves the rows as they were, or makes one of four changes: users are
added with one role, a session is opened for a user, a session is removed, or
roles are assigned. A rollback and a refused statement leave the rows alone.
-/

namespace Accounts

open PyValue IdentityTable Transaction UnitOfWork CrmDatabase

/-- The same rows; only unused identities may differ. -/
structure Same (t t' : Tables) : Prop where
  users : t'.users.rows = t.users.rows
  next : t.users.next ≤ t'.users.next
  session : ∀ sid, t'.session sid = t.session sid

theorem Same.refl (t : Tables) : Same t t := ⟨rfl, Nat.le_refl _, fun _ => rfl⟩

theorem rollback_same (t later : Tables) : Same t (t.rollback later) where
  users := rfl
  next := Nat.le_max_left _ _
  session := fun _ => Table.get_congr fun _ => rfl

/-- New users have the role `role` and identities that were not used. -/
structure Grew (role : String) (t t' : Tables) : Prop where
  kept : ∀ u ∈ t.users.rows, u ∈ t'.users.rows
  added : ∀ u ∈ t'.users.rows, u ∈ t.users.rows ∨ (t.users.next ≤ u.id ∧ u.role = some role)
  next : t.users.next ≤ t'.users.next
  session : ∀ sid, t'.session sid = t.session sid

theorem Same.grew {t t' : Tables} (h : Same t t') (role : String) : Grew role t t' where
  kept := fun _ hu => h.users ▸ hu
  added := fun _ hu => Or.inl (h.users ▸ hu)
  next := h.next
  session := h.session

theorem Grew.refl (role : String) (t : Tables) : Grew role t t := (Same.refl t).grew role

theorem Grew.trans {role : String} {t u v : Tables} (h : Grew role t u) (k : Grew role u v) :
    Grew role t v where
  kept := fun x hx => k.kept x (h.kept x hx)
  added := by
    intro x hx
    rcases k.added x hx with old | ⟨hid, hrole⟩
    · exact h.added x old
    · exact Or.inr ⟨Nat.le_trans h.next hid, hrole⟩
  next := Nat.le_trans h.next k.next
  session := fun sid => (k.session sid).trans (h.session sid)

/-- A session of `user` is opened under `sid`, with the role that the user has. -/
structure Opened (user : User) (sid authMethod : String) (t t' : Tables) : Prop where
  users : t'.users.rows = t.users.rows
  next : t.users.next ≤ t'.users.next
  session : ∃ role, user.role = some role ∧ ∀ k, t'.session k =
    if k = sid then some ⟨sid, user.id, user.username, role, authMethod⟩ else t.session k

/-- Password and role are assigned to the users that `selects` names. -/
structure Assigned (selects : User → Bool) (passwordHash : User → String) (role : String)
    (t t' : Tables) : Prop where
  users : t'.users.rows = t.users.rows.map (UserTable.assign selects passwordHash (some role))
  next : t'.users.next = t.users.next
  session : ∀ sid, t'.session sid = t.session sid

section Statements
variable {server : Server} {faults : Faults PyExc} {Return : Type}

/-- A statement that writes leaves the state alone or writes what it says. -/
theorem execute_state (faults : Faults PyExc) (Return : Type) (f : Tables → Except PyExc Tables)
    (w : Work Tables) :
    ((execute faults f : Block Tables PyExc Return PUnit) w).2.state = w.state ∨
      ∃ t, f w.state = .ok t ∧
        ((execute faults f : Block Tables PyExc Return PUnit) w).2.state = t := by
  rcases execute_cases faults f w with ⟨s, t, hs, ht, hrun⟩ | ⟨e, t, hsame, hrun⟩
  · rw [hrun]
    exact Or.inr ⟨s, hs, ht⟩
  · rw [hrun]
    exact Or.inl hsame

theorem insert_grew {t : Tables} {users : UserTable} {username email passwordHash role : String}
    (h : t.users.insert username email passwordHash (some role) = some users) :
    Grew role t { t with users := users } := by
  unfold UserTable.insert at h
  split at h
  · obtain rfl := Option.some.inj h
    refine ⟨fun u hu => List.mem_append_left _ hu, ?_, Nat.le_succ _, fun _ => rfl⟩
    intro u hu
    rcases List.mem_append.mp hu with old | new
    · exact Or.inl old
    · obtain rfl := List.mem_singleton.mp new
      exact Or.inr ⟨Nat.le_refl _, rfl⟩
  · cases h

theorem insertUser_grew (username email passwordHash role : String) :
    Tx.Moves (fun w t : Work Tables => Grew role w.state t.state)
      (insertUser server faults username email passwordHash (some role) :
        Block Tables PyExc Return PUnit) := by
  unfold insertUser
  refine Tx.moves_bind (fun _ _ _ h k => h.trans k) ((reads_demand _ _).moves (Grew.refl role)) ?_
  intro _
  refine moves_execute (Grew.refl role) ?_
  intro t t' h
  rcases hinsert : t.users.insert username email passwordHash (some role) with _ | users
  · simp only [hinsert] at h
    cases h
  · simp only [hinsert] at h
    cases h
    exact insert_grew hinsert

theorem insertSession_opened (faults : Faults PyExc) (Return : Type) (user : User)
    (sid authMethod : String) (w : Work Tables) :
    ((insertSession faults user sid authMethod : Block Tables PyExc Return PUnit) w).2.state =
        w.state ∨
      Opened user sid authMethod w.state
        ((insertSession faults user sid authMethod :
          Block Tables PyExc Return PUnit) w).2.state := by
  unfold insertSession
  rcases execute_state faults Return _ w with same | ⟨t, ht, hstate⟩
  · exact Or.inl same
  · rw [hstate]
    rcases hrole : user.role with _ | role
    · simp only [hrole] at ht
      cases ht
    · simp only [hrole] at ht
      rcases hinsert : w.state.sessions.insert ⟨sid, user.id, user.username, role, authMethod⟩ with
        _ | ⟨i, sessions⟩
      · simp only [hinsert] at ht
        cases ht
      · simp only [hinsert] at ht
        cases ht
        exact Or.inr ⟨rfl, Nat.le_refl _, role, hrole, fun k => Table.get_insert hinsert rfl⟩

theorem deleteSession_session (t : Tables) (sid k : String) :
    (deleteSession t sid).session k = if k = sid then none else t.session k := by
  unfold deleteSession
  rcases hfind : t.sessions.find sid with _ | i
  · by_cases hk : k = sid
    · subst hk
      rw [if_pos rfl]
      unfold Tables.session Table.get
      rw [hfind]
      rfl
    · rw [if_neg hk]
  · exact Table.get_delete hfind

theorem deleteSession_users (t : Tables) (sid : String) :
    (deleteSession t sid).users = t.users := by
  unfold deleteSession
  split <;> rfl

end Statements

section Blocks
variable {server : Server} {faults : Faults PyExc}

theorem lookupForLogin_mem {users : UserTable} {name : String} {u : User}
    (h : lookupForLogin users name = some u) : u ∈ users.rows :=
  (List.mem_filter.mp (List.argmin_mem h)).1

theorem verifyCredentials_ok_iff {username password : String} {w t : Work Tables} {user : User} :
    verifyCredentials server faults username password w = (.ok user, t) ↔
      faults w.statements = none ∧ lookupForLogin w.state.users username = some user ∧
        server.checkBcrypt password user.passwordHash = true ∧ t = w.next := by
  unfold verifyCredentials
  simp only [Tx.bind_ok_iff, query_ok_iff, orReturn_ok_iff, ensure_ok_iff, Tx.pure_ok_iff]
  constructor
  · rintro ⟨_, m, ⟨h, rfl, rfl⟩, u, m, ⟨hu, rfl⟩, _, m, ⟨hcheck, rfl⟩, rfl, rfl⟩
    exact ⟨h, hu, hcheck, rfl⟩
  · rintro ⟨h, hu, hcheck, rfl⟩
    exact ⟨_, _, ⟨h, rfl, rfl⟩, user, _, ⟨hu, rfl⟩, ⟨⟩, _, ⟨hcheck, rfl⟩, rfl, rfl⟩

theorem verifyCredentials_reads (username password : String) :
    Reads (verifyCredentials server faults username password) :=
  reads_bind (reads_query _) fun _ => reads_bind (reads_orReturn _ _) fun _ =>
    reads_bind (reads_ensure _ _) fun _ => reads_pure _

/-- A login leaves the tables as they are, or opens one session for a user. -/
def SignedIn (sid authMethod : String) (t t' : Tables) : Prop :=
  Same t t' ∨ ∃ user ∈ t.users.rows, Opened user sid authMethod t t'

theorem loginBlock_signedIn (username password sid : String) :
    Tx.Moves (fun w t : Work Tables => SignedIn sid "password" w.state t.state)
      (loginBlock server faults username password sid) := by
  intro w
  have hreads : Reads (verifyCredentials server faults username password) :=
    verifyCredentials_reads username password
  unfold loginBlock
  refine Tx.bind_reaches (P := fun t : Work Tables => SignedIn sid "password" w.state t.state) ?_ ?_
  · have hstate := hreads w
    exact Or.inl (hstate.symm ▸ Same.refl w.state)
  · intro user m hm
    have huser := lookupForLogin_mem (verifyCredentials_ok_iff.mp hm).2.1
    have hstate : m.state = w.state := hreads.state hm
    rw [Tx.bind_pure_state (insertSession faults user sid "password") (fun _ => user) m]
    rcases insertSession_opened faults LoginAnswer user sid "password" m with same | opened
    · rw [same, hstate]
      exact Or.inl (Same.refl _)
    · rw [hstate] at opened
      exact Or.inr ⟨user, huser, opened⟩

theorem ssoSessionBlock_signedIn (faults : Faults PyExc) {user : User} {t : Tables}
    (huser : user ∈ t.users.rows) (sid : String) :
    SignedIn sid "sso" t
      (run faults Tables.rollback (ssoSessionBlock faults user sid) t).state := by
  rcases run_state faults Tables.rollback (ssoSessionBlock faults user sid) t with hrun | hrun
  · rw [hrun]
    rcases insertSession_opened faults Empty user sid "sso" ⟨t, 0⟩ with same | opened
    · exact Or.inl (same.symm ▸ Same.refl t)
    · exact Or.inr ⟨user, huser, opened⟩
  · rw [hrun]
    exact Or.inl (rollback_same t _)

theorem registerBlock_grew (req : RegisterRequest) :
    Tx.Moves (fun w t : Work Tables => Grew "user" w.state t.state)
      (registerBlock server faults req) := by
  intro w
  unfold registerBlock
  rw [Tx.bind_pure_state]
  exact insertUser_grew _ _ _ _ w

theorem selectByLowerEmail_mem {users : UserTable} {email : String} {u : User}
    (h : selectByLowerEmail server users email = some u) : u ∈ users.rows :=
  (List.mem_filter.mp (server.anyRow_mem _ u h)).1

theorem provisionUser_grew (identity : SsoIdentity) :
    Tx.Moves (fun w t : Work Tables => Grew "user" w.state t.state)
      (provisionUser server faults identity : Block Tables PyExc Empty PUnit) := by
  unfold provisionUser
  apply moves_exceptRaised (fun _ _ _ h k => h.trans k)
  · exact insertUser_grew _ _ _ _
  · intro e
    exact Reads.moves_bind (Grew.refl "user") (reads_demand _ _) fun _ => insertUser_grew _ _ _ _

theorem ssoUserBlock_grew (identity : SsoIdentity) :
    Tx.Moves (fun w t : Work Tables => Grew "user" w.state t.state)
      (ssoUserBlock server faults identity) := by
  unfold ssoUserBlock
  apply Reads.moves_bind (Grew.refl "user") (reads_query _)
  intro found
  rcases found with _ | user
  · exact Tx.moves_bind (fun _ _ _ h k => h.trans k) (provisionUser_grew identity) fun _ =>
      (reads_query _).moves (Grew.refl "user")
  · exact (reads_pure _).moves (Grew.refl "user")

/-- The user that the callback goes on with is a row that is there at the end. -/
theorem ssoUserBlock_user {identity : SsoIdentity} {w t : Work Tables} {user : User}
    (h : ssoUserBlock server faults identity w = (.ok (some user), t)) :
    user ∈ t.state.users.rows := by
  unfold ssoUserBlock at h
  obtain ⟨found, m, hquery, h⟩ := Tx.bind_ok_iff.mp h
  obtain ⟨-, hfound, hm⟩ := query_ok_iff.mp hquery
  rcases found with _ | u
  · obtain ⟨_, n, -, h⟩ := Tx.bind_ok_iff.mp h
    obtain ⟨-, hselect, ht⟩ := query_ok_iff.mp h
    rw [ht]
    exact selectByLowerEmail_mem hselect.symm
  · obtain ⟨hu, ht⟩ := Tx.pure_ok_iff.mp h
    obtain rfl := Option.some.inj hu
    rw [ht, hm]
    exact selectByLowerEmail_mem hfound.symm

/-- The row of the user gets the role, if it is written at all. -/
def RoleChanged (userId : Int) (role : String) (t t' : Tables) : Prop :=
  Same t t' ∨ Assigned (fun u => decide ((u.id : Int) = userId)) User.passwordHash role t t'

theorem changeRoleBlock_changed (userId : Int) (role : String) :
    Tx.Moves (fun w t : Work Tables => RoleChanged userId role w.state t.state)
      (changeRoleBlock faults userId role) := by
  unfold changeRoleBlock
  apply moves_execute (R := RoleChanged userId role) (fun t => Or.inl (Same.refl t))
  intro t t' h
  cases h
  exact Or.inr ⟨rfl, rfl, fun _ => rfl⟩

/-- The administrator of the configuration is added, or given back his role. -/
def Bootstrapped (passwordHash : String) (t t' : Tables) : Prop :=
  Grew "admin" t t' ∨
    Assigned (fun u => decide (u.email = adminEmail)) (fun _ => passwordHash) "admin" t t'

theorem bootstrapBlock_bootstrapped (passwordHash : String) :
    Tx.Moves (fun w t : Work Tables => Bootstrapped passwordHash w.state t.state)
      (bootstrapBlock server faults passwordHash) := by
  have refl : ∀ t, Bootstrapped passwordHash t t := fun t => Or.inl (Grew.refl "admin" t)
  have added : ∀ username, Tx.Moves (fun w t : Work Tables =>
      Bootstrapped passwordHash w.state t.state)
      (insertUser server faults username adminEmail passwordHash (some "admin") :
        Block Tables PyExc Empty PUnit) :=
    fun username w => Or.inl (insertUser_grew _ _ _ _ w)
  unfold bootstrapBlock
  apply Reads.moves_bind refl (reads_query _)
  intro existing
  split
  · apply Reads.moves_bind refl (reads_query _)
    intro row
    rcases row with _ | u
    · exact Reads.moves_bind refl (reads_query _) fun _ => added _
    · refine moves_execute refl ?_
      intro t t' h
      cases h
      exact Or.inr ⟨rfl, rfl, fun _ => rfl⟩
  · exact added "admin"

theorem logoutBlock_state (faults : Faults PyExc) (sid : String) (w : Work Tables) :
    (logoutBlock faults sid w).2.state = w.state ∨
      (logoutBlock faults sid w).2.state = deleteSession w.state sid := by
  rcases execute_state faults Empty (fun db => .ok (deleteSession db sid)) w
    with same | ⟨t, ht, hstate⟩
  · exact Or.inl same
  · cases ht
    exact Or.inr hstate

end Blocks
end Accounts
