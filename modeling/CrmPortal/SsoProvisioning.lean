import CrmPortal.BootstrapAdmin

/-!
# Whom single sign-on signs in

`sso_callback` looks the account up by its address and adds it if there is none, under a
name taken from the display name: that name, or the same name with `crm-` in front.
Whoever comes third with a display name finds both taken.
-/

namespace SsoProvisioning

open PyValue IdentityTable Transaction UnitOfWork Schedule Accounts Portal
open BootstrapAdmin (insertUser_run)

variable {server : Server}

/-- No two addresses are the same ignoring case. -/
def UniqueEmails (server : Server) (users : UserTable) : Prop :=
  (users.rows.map fun u => server.lowerSql u.email).Nodup

def Absent (server : Server) (users : UserTable) (email : String) : Prop :=
  ∀ u ∈ users.rows, server.lowerSql u.email ≠ email

theorem select_cases (server : Server) (users : UserTable) (email : String) :
    (∃ u ∈ users.rows, server.lowerSql u.email = email ∧
      selectByLowerEmail server users email = some u) ∨
    (Absent server users email ∧ selectByLowerEmail server users email = none) := by
  unfold selectByLowerEmail
  rcases hrow : server.anyRow (users.rows.filter fun u => decide (server.lowerSql u.email = email))
    with _ | u
  · have hnil := server.anyRow_none _ hrow
    refine Or.inr ⟨fun u hu heq => ?_, rfl⟩
    exact absurd (decide_eq_true heq) (List.filter_eq_nil_iff.mp hnil u hu)
  · obtain ⟨hu, heq⟩ := List.mem_filter.mp (server.anyRow_mem _ u hrow)
    exact Or.inl ⟨u, hu, of_decide_eq_true heq, rfl⟩

/-- The columns take the new row. -/
def Fits (server : Server) (identity : SsoIdentity) (username : String) : Prop :=
  server.backend.takesStr (.varchar 100) username = true ∧
    server.backend.takesStr (.varchar 200) identity.email = true ∧
    server.backend.takesStr (.varchar 300) identity.placeholderHash = true

/-- And nobody has the name. -/
def Insertable (server : Server) (users : UserTable) (identity : SsoIdentity)
    (username : String) : Prop :=
  Fits server identity username ∧ username ∉ users.rows.map User.username

/-- The first name can be had, or the second after a failure that reads like a taken name. -/
def Provisionable (server : Server) (users : UserTable) (identity : SsoIdentity) : Prop :=
  Insertable server users identity identity.baseUsername ∨
    ((Fits server identity identity.baseUsername ∨ server.saysUnique .dataError = true) ∧
      Insertable server users identity ("crm-" ++ identity.baseUsername))

/-- One row more, of an ordinary user. -/
structure UserAdded (users users' : UserTable) (email : String) (u : User) : Prop where
  rows : users'.rows = users.rows ++ [u]
  email : u.email = email
  role : u.role = some "user"

section Insert
variable {identity : SsoIdentity} {username : String}

theorem insertUser_fails (w : Work Tables)
    (h : ¬ Insertable server w.state.users identity username) :
    ∃ e t, insertUser server noFaults username identity.email identity.placeholderHash
        (some "user") w = ((.error (.raised e), t) : Except (Exit PyExc Empty) PUnit × _) ∧
      t.state = w.state ∧
      (Fits server identity username → e = .integrityError) ∧
      (¬ Fits server identity username → e = .dataError) := by
  by_cases hfits : Fits server identity username
  · refine ⟨.integrityError, ⟨w.state, w.statements + 1⟩, ?_, rfl, fun _ => rfl, absurd hfits⟩
    rw [insertUser_run w hfits.1 hfits.2.1 hfits.2.2]
    have htaken : ¬ w.state.users.Free username identity.email := fun hfree => h ⟨hfits, hfree.1⟩
    unfold UserTable.insert
    rw [dif_neg htaken]
    rfl
  · refine ⟨.dataError, w, ?_, rfl, fun hno => absurd hno hfits, fun _ => rfl⟩
    have hrefused : (server.backend.takesStr (.varchar 100) username &&
        server.backend.takesStr (.varchar 200) identity.email &&
        server.backend.takesStr (.varchar 300) identity.placeholderHash) = false := by
      rw [Bool.eq_false_iff]
      intro hall
      rw [Bool.and_eq_true, Bool.and_eq_true] at hall
      exact hfits ⟨hall.1.1, hall.1.2, hall.2⟩
    unfold insertUser
    rw [hrefused]
    rfl

theorem insertUser_adds (w : Work Tables)
    (absent : Absent server w.state.users identity.email)
    (lowered : server.lowerSql identity.email = identity.email)
    (h : Insertable server w.state.users identity username) :
    ∃ u t, insertUser server noFaults username identity.email identity.placeholderHash
        (some "user") w = ((.ok ⟨⟩, t) : Except (Exit PyExc Empty) PUnit × _) ∧
      t.state.sessions = w.state.sessions ∧
      UserAdded w.state.users t.state.users identity.email u := by
  have hfree : w.state.users.Free username identity.email := by
    refine ⟨h.2, fun hmem => ?_⟩
    obtain ⟨v, hv, heq⟩ := List.mem_map.mp hmem
    exact absent v hv (heq ▸ lowered)
  have hinsert : w.state.users.insert username identity.email identity.placeholderHash
      (some "user") = some (w.state.users.append _ _ _ _ hfree) := dif_pos hfree
  have hrun : insertUser server noFaults username identity.email identity.placeholderHash
      (some "user") w = _ := insertUser_run w h.1.1 h.1.2.1 h.1.2.2
  rw [hinsert] at hrun
  exact ⟨_, _, hrun, rfl, rfl, rfl, rfl⟩

theorem provisionUser_fails (w : Work Tables)
    (h : ¬ Provisionable server w.state.users identity) :
    ∃ e t, provisionUser server noFaults identity w =
        ((.error (.raised e), t) : Except (Exit PyExc Empty) PUnit × _) ∧ t.state = w.state := by
  obtain ⟨e, t, hfirst, hstate, hfits, hlong⟩ := insertUser_fails w fun hins => h (Or.inl hins)
  unfold provisionUser exceptRaised
  rw [hfirst]
  by_cases hretry : (decide (e = .integrityError) || server.saysUnique e) = true
  · have hsecond : ¬ Insertable server t.state.users identity
      ("crm-" ++ identity.baseUsername) := by
      rw [hstate]
      intro hins
      refine h (Or.inr ⟨?_, hins⟩)
      by_cases hbase : Fits server identity identity.baseUsername
      · exact Or.inl hbase
      · rw [hlong hbase] at hretry
        simp at hretry
        exact Or.inr hretry
    obtain ⟨e', t', hrun, hstate', -⟩ := insertUser_fails t hsecond
    have hdemand : (demand e (decide (e = .integrityError) || server.saysUnique e) :
        Block Tables PyExc Empty PUnit) t = (.ok ⟨⟩, t) := demand_ok_iff.mpr ⟨hretry, rfl⟩
    refine ⟨e', t', ?_, hstate'.trans hstate⟩
    dsimp only
    rw [Tx.bind_of_ok _ hdemand]
    exact hrun
  · refine ⟨e, t, ?_, hstate⟩
    rw [Bool.not_eq_true] at hretry
    dsimp only
    rw [hretry]
    rfl

theorem provisionUser_adds (w : Work Tables)
    (absent : Absent server w.state.users identity.email)
    (lowered : server.lowerSql identity.email = identity.email)
    (h : Provisionable server w.state.users identity) :
    ∃ u t, provisionUser server noFaults identity w =
        ((.ok ⟨⟩, t) : Except (Exit PyExc Empty) PUnit × _) ∧
      t.state.sessions = w.state.sessions ∧
      UserAdded w.state.users t.state.users identity.email u := by
  unfold provisionUser exceptRaised
  by_cases hbase : Insertable server w.state.users identity identity.baseUsername
  · obtain ⟨u, t, hrun, hadded⟩ := insertUser_adds w absent lowered hbase
    refine ⟨u, t, ?_, hadded⟩
    rw [hrun]
  obtain ⟨hretry, hprefixed⟩ := h.resolve_left hbase
  obtain ⟨e, t, hfirst, hstate, hfits, hlong⟩ := insertUser_fails w hbase
  have hdemand : (demand e (decide (e = .integrityError) || server.saysUnique e) :
      Block Tables PyExc Empty PUnit) t = (.ok ⟨⟩, t) := by
    refine demand_ok_iff.mpr ⟨?_, rfl⟩
    by_cases hcolumns : Fits server identity identity.baseUsername
    · rw [hfits hcolumns]
      rfl
    · rw [hlong hcolumns, hretry.resolve_left hcolumns]
      rfl
  rw [← hstate] at absent hprefixed ⊢
  obtain ⟨u, t', hrun, hadded⟩ := insertUser_adds t absent lowered hprefixed
  refine ⟨u, t', ?_, hadded⟩
  rw [hfirst]
  dsimp only
  rw [Tx.bind_of_ok _ hdemand]
  exact hrun

end Insert

/-- `sso_callback` with verified claims, on a database that does not fail. -/
structure Callback where
  claims : Obj
  email : String
  sid : String

def Callback.address (server : Server) (call : Callback) : String :=
  server.py.lower (server.py.strip call.email)

/-- The claims carry the address, and it is not empty. -/
structure Callback.Carries (call : Callback) : Prop where
  email : call.claims.get "email" = .str call.email
  nonempty : call.email ≠ ""

def callback (server : Server) (db : Tables) (call : Callback) : Tables :=
  ssoCallback server noFaults noFaults call.claims call.sid db

/-- There is a session for the owner of the address, and a row was added only if there was
none. -/
structure SignsIn (server : Server) (db : Tables) (call : Callback) : Prop where
  session : ∃ u ∈ (callback server db call).users.rows,
    server.lowerSql u.email = call.address server ∧ ∃ role,
      (callback server db call).session call.sid = some ⟨call.sid, u.id, u.username, role, "sso"⟩
  users : (callback server db call).users.rows = db.users.rows ∨
    (Absent server db.users (call.address server) ∧ ∃ u, u.role = some "user" ∧
      (callback server db call).users.rows = db.users.rows ++ [u])

/-- The account is there with a role, or can be added. -/
def Served (server : Server) (db : Tables) (call : Callback) : Prop :=
  ∃ identity, ssoIdentity server.py call.claims = .ok identity ∧
    ((∃ u ∈ db.users.rows, server.lowerSql u.email = call.address server ∧ u.role.isSome) ∨
      (Absent server db.users (call.address server) ∧ Provisionable server db.users identity))

section Callbacks
variable {db : Tables} {call : Callback}

theorem ssoIdentity_email (carries : call.Carries) {identity : SsoIdentity}
    (h : ssoIdentity server.py call.claims = .ok identity) :
    identity.email = call.address server := by
  have htruthy : (call.claims.get "email").truthy = true := by
    rw [carries.email]
    exact decide_eq_true carries.nonempty
  unfold ssoIdentity at h
  rw [Json.or_of_truthy (a := call.claims.get "email") htruthy,
    Json.or_of_truthy htruthy, carries.email] at h
  obtain ⟨raw, hraw, h⟩ := bind_ok_iff.mp h
  obtain rfl : call.email = raw := Except.ok.inj hraw
  obtain ⟨name, -, h⟩ := bind_ok_iff.mp h
  obtain rfl := Except.ok.inj h
  rfl

/-- The second block opens the session of a user with a role. -/
theorem sessionBlock_opens {user : User} {sid role : String} (hrole : user.role = some role)
    (fresh : db.session sid = none) :
    Opened user sid "sso" db
      (run noFaults Tables.rollback (ssoSessionBlock noFaults user sid) db).state := by
  have hfind : db.sessions.find sid = none := by
    cases hfound : db.sessions.find sid with
    | none => rfl
    | some i =>
      obtain ⟨row, hrow, hkey⟩ := (db.sessions.find_eq_some_iff sid i).mp hfound
      have hget : db.sessions.get sid = some row := Table.get_eq_some_iff.mpr ⟨i, hrow, hkey⟩
      exact absurd (fresh.symm.trans hget) (by simp)
  have hsome : (db.sessions.insert ⟨sid, user.id, user.username, role, "sso"⟩).isSome := by
    rw [Table.insert_isSome_iff]
    intro k hk
    obtain rfl := Option.some.inj hk
    exact hfind
  obtain ⟨⟨i, rest⟩, hinsert⟩ := Option.isSome_iff_exists.mp hsome
  have hblock : ssoSessionBlock noFaults user sid ⟨db, 0⟩ =
      (.ok ⟨⟩, ⟨{ db with sessions := rest }, 1⟩) :=
    insertSession_ok_iff.mpr ⟨rfl, role, i, rest, hrole, hinsert, rfl⟩
  have hrun : run noFaults Tables.rollback (ssoSessionBlock noFaults user sid) db =
      .committed (.inr ⟨⟩) { db with sessions := rest } := by
    unfold run
    rw [hblock]
    rfl
  rw [hrun]
  exact ⟨rfl, Nat.le_refl _, role, hrole, fun k => Table.get_insert hinsert rfl⟩

/-- And is rolled back for a user without one. -/
theorem sessionBlock_fails {user : User} {sid : String} (hrole : user.role = none) :
    Same db (run noFaults Tables.rollback (ssoSessionBlock noFaults user sid) db).state := by
  rcases run_state noFaults Tables.rollback (ssoSessionBlock noFaults user sid) db with hrun | hrun
  · rw [hrun]
    rcases insertSession_opened noFaults Empty user sid "sso" ⟨db, 0⟩ with same | opened
    · exact same.symm ▸ Same.refl db
    · obtain ⟨role, hsome, -⟩ := opened.session
      exact absurd (hrole.symm.trans hsome) (by simp)
  · rw [hrun]
    exact rollback_same db _

theorem callback_unreadable {e : PyExc} (h : ssoIdentity server.py call.claims = .error e) :
    callback server db call = db := by
  unfold callback ssoCallback
  rw [h]

theorem callback_found {identity : SsoIdentity}
    (hid : ssoIdentity server.py call.claims = .ok identity) {user : User}
    (hfound : selectByLowerEmail server db.users identity.email = some user) :
    callback server db call =
      (run noFaults Tables.rollback (ssoSessionBlock noFaults user call.sid) db).state := by
  have hblock : run noFaults Tables.rollback (ssoUserBlock server noFaults identity) db =
      .committed (.inr (some user)) db := by
    unfold run ssoUserBlock
    have hquery : (query noFaults fun db => selectByLowerEmail server db.users identity.email :
        Block Tables PyExc Empty (Option User)) ⟨db, 0⟩ = (.ok (some user), ⟨db, 1⟩) :=
      query_ok_iff.mpr ⟨rfl, hfound.symm, rfl⟩
    rw [Tx.bind_of_ok _ hquery]
    rfl
  unfold callback ssoCallback
  rw [hid]
  dsimp only
  rw [hblock]

theorem callback_refused {identity : SsoIdentity}
    (hid : ssoIdentity server.py call.claims = .ok identity)
    (hfound : selectByLowerEmail server db.users identity.email = none)
    (hrefused : ¬ Provisionable server db.users identity) : Same db (callback server db call) := by
  have hquery : (query noFaults fun db => selectByLowerEmail server db.users identity.email :
      Block Tables PyExc Empty (Option User)) ⟨db, 0⟩ = (.ok none, ⟨db, 1⟩) :=
    query_ok_iff.mpr ⟨rfl, hfound.symm, rfl⟩
  obtain ⟨e, t, hprovision, hstate⟩ := provisionUser_fails ⟨db, 1⟩ hrefused
  have hblock : run noFaults Tables.rollback (ssoUserBlock server noFaults identity) db =
      .rolledBack e (db.rollback t.state) := by
    unfold run ssoUserBlock
    rw [Tx.bind_of_ok _ hquery]
    dsimp only
    rw [Tx.bind_of_error _ hprovision]
  unfold callback ssoCallback
  rw [hid]
  dsimp only
  rw [hblock]
  exact rollback_same db t.state

theorem callback_adds {identity : SsoIdentity}
    (hid : ssoIdentity server.py call.claims = .ok identity)
    (absent : Absent server db.users identity.email)
    (lowered : server.lowerSql identity.email = identity.email)
    (hfound : selectByLowerEmail server db.users identity.email = none)
    (h : Provisionable server db.users identity) :
    ∃ u middle, middle.sessions = db.sessions ∧
      UserAdded db.users middle.users identity.email u ∧
      callback server db call =
        (run noFaults Tables.rollback (ssoSessionBlock noFaults u call.sid) middle).state := by
  have hquery : (query noFaults fun db => selectByLowerEmail server db.users identity.email :
      Block Tables PyExc Empty (Option User)) ⟨db, 0⟩ = (.ok none, ⟨db, 1⟩) :=
    query_ok_iff.mpr ⟨rfl, hfound.symm, rfl⟩
  obtain ⟨u, t, hprovision, hsessions, hadded⟩ := provisionUser_adds ⟨db, 1⟩ absent lowered h
  have hselect : selectByLowerEmail server t.state.users identity.email = some u := by
    rcases select_cases server t.state.users identity.email with ⟨v, hv, howns, hselect⟩ |
      ⟨habsent, -⟩
    · rw [hadded.rows] at hv
      rcases List.mem_append.mp hv with old | new
      · exact absurd howns (absent v old)
      · rw [hselect, List.mem_singleton.mp new]
    · refine absurd ?_ (habsent u ?_)
      · rw [hadded.email, lowered]
      · rw [hadded.rows]
        exact List.mem_append_right _ (List.mem_singleton_self u)
  have hagain : (query noFaults fun db => selectByLowerEmail server db.users identity.email :
      Block Tables PyExc Empty (Option User)) t = (.ok (some u), t.next) :=
    query_ok_iff.mpr ⟨rfl, hselect.symm, rfl⟩
  have hblock : run noFaults Tables.rollback (ssoUserBlock server noFaults identity) db =
      .committed (.inr (some u)) t.state := by
    unfold run ssoUserBlock
    rw [Tx.bind_of_ok _ hquery]
    dsimp only
    rw [Tx.bind_of_ok _ hprovision, hagain]
    rfl
  refine ⟨u, t.state, hsessions, hadded, ?_⟩
  unfold callback ssoCallback
  rw [hid]
  dsimp only
  rw [hblock]

/-- An account that is there has to have a role. -/
theorem served_known_iff {identity : SsoIdentity}
    (hid : ssoIdentity server.py call.claims = .ok identity)
    (unique : UniqueEmails server db.users) {u : User} (hu : u ∈ db.users.rows)
    (howns : server.lowerSql u.email = call.address server) :
    Served server db call ↔ u.role.isSome := by
  constructor
  · rintro ⟨_, -, ⟨v, hv, hsame, hsome⟩ | ⟨hnone, -⟩⟩
    · rw [List.inj_on_of_nodup_map unique hv hu (hsame.trans howns.symm)] at hsome
      exact hsome
    · exact absurd howns (hnone u hu)
  · intro hsome
    exact ⟨identity, hid, Or.inl ⟨u, hu, howns, hsome⟩⟩

theorem served_absent_iff {identity : SsoIdentity}
    (hid : ssoIdentity server.py call.claims = .ok identity)
    (habsent : Absent server db.users (call.address server)) :
    Served server db call ↔ Provisionable server db.users identity := by
  constructor
  · rintro ⟨other, hother, ⟨v, hv, howns, -⟩ | ⟨-, hprov⟩⟩
    · exact absurd howns (habsent v hv)
    · obtain rfl := Except.ok.inj (hid.symm.trans hother)
      exact hprov
  · intro hprov
    exact ⟨identity, hid, Or.inr ⟨habsent, hprov⟩⟩

/-- A callback that is served finds the account or adds it, and opens the session; any other
leaves the tables as they were. -/
theorem callback_cases (lowered : ∀ s, server.lowerSql (server.py.lower s) = server.py.lower s)
    (unique : UniqueEmails server db.users) (fresh : db.session call.sid = none)
    (carries : call.Carries) :
    (¬ Served server db call ∧ Same db (callback server db call)) ∨
    (Served server db call ∧ ∃ u middle, middle.sessions = db.sessions ∧
      server.lowerSql u.email = call.address server ∧
      (middle = db ∧ u ∈ db.users.rows ∨ Absent server db.users (call.address server) ∧
        UserAdded db.users middle.users (call.address server) u) ∧
      Opened u call.sid "sso" middle (callback server db call)) := by
  rcases hid : ssoIdentity server.py call.claims with e | identity
  · refine Or.inl ⟨?_, ?_⟩
    · rintro ⟨identity, hok, -⟩
      cases hid.symm.trans hok
    · rw [callback_unreadable hid]
      exact Same.refl db
  have hemail := ssoIdentity_email carries hid
  rcases select_cases server db.users identity.email with
    ⟨u, hu, howns, hselect⟩ | ⟨habsent, hselect⟩
  · have hcallback := callback_found hid hselect
    rw [hemail] at howns
    rw [served_known_iff hid unique hu howns, hcallback]
    cases hrole : u.role with
    | none => exact Or.inl ⟨by simp, sessionBlock_fails hrole⟩
    | some role =>
      exact Or.inr ⟨rfl, u, db, rfl, howns, Or.inl ⟨rfl, hu⟩, sessionBlock_opens hrole fresh⟩
  · have hserved := served_absent_iff hid (hemail ▸ habsent)
    by_cases hprovisionable : Provisionable server db.users identity
    · have hfixed : server.lowerSql identity.email = identity.email := by
        rw [hemail]
        exact lowered _
      obtain ⟨u, middle, hsessions, hadded, hcallback⟩ :=
        callback_adds hid habsent hfixed hselect hprovisionable
      rw [hemail] at habsent hadded hfixed
      have hnew : middle.session call.sid = none := by
        unfold Tables.session
        rw [hsessions]
        exact fresh
      refine Or.inr ⟨hserved.mpr hprovisionable, u, middle, hsessions, ?_,
        Or.inr ⟨habsent, hadded⟩, ?_⟩
      · rw [hadded.email, hfixed]
      · rw [hcallback]
        exact sessionBlock_opens hadded.role hnew
    · exact Or.inl ⟨fun h => hprovisionable (hserved.mp h),
        callback_refused hid hselect hprovisionable⟩

theorem signsIn_iff (lowered : ∀ s, server.lowerSql (server.py.lower s) = server.py.lower s)
    (unique : UniqueEmails server db.users) (fresh : db.session call.sid = none)
    (carries : call.Carries) : SignsIn server db call ↔ Served server db call := by
  rcases callback_cases lowered unique fresh carries with
    ⟨hunserved, hsame⟩ | ⟨hserved, u, middle, -, howns, hwho, hopened⟩
  · refine ⟨fun h => ?_, fun h => absurd h hunserved⟩
    obtain ⟨v, -, -, role, hsession⟩ := h.session
    rw [hsame.session, fresh] at hsession
    cases hsession
  · refine ⟨fun _ => hserved, fun _ => ?_⟩
    obtain ⟨role, hrole, hsession⟩ := hopened.session
    rcases hwho with ⟨rfl, hu⟩ | ⟨habsent, hadded⟩
    · refine ⟨⟨u, hopened.users ▸ hu, howns, role, ?_⟩, Or.inl hopened.users⟩
      rw [hsession, if_pos rfl]
    · have hrows := hopened.users.trans hadded.rows
      refine ⟨⟨u, ?_, howns, role, ?_⟩, Or.inr ⟨habsent, u, hadded.role, hrows⟩⟩
      · rw [hrows]
        exact List.mem_append_right _ (List.mem_singleton_self u)
      · rw [hsession, if_pos rfl]

/-- Addresses stay unique, and no other session is touched. -/
theorem callback_keeps (lowered : ∀ s, server.lowerSql (server.py.lower s) = server.py.lower s)
    (unique : UniqueEmails server db.users) (fresh : db.session call.sid = none)
    (carries : call.Carries) : UniqueEmails server (callback server db call).users ∧
      ∀ k, k ≠ call.sid → (callback server db call).session k = db.session k := by
  rcases callback_cases lowered unique fresh carries with
    ⟨-, hsame⟩ | ⟨-, u, middle, hsessions, howns, hwho, hopened⟩
  · refine ⟨?_, fun k _ => hsame.session k⟩
    unfold UniqueEmails
    rw [hsame.users]
    exact unique
  · obtain ⟨role, -, hsession⟩ := hopened.session
    refine ⟨?_, fun k hk => ?_⟩
    · unfold UniqueEmails
      rw [hopened.users]
      rcases hwho with ⟨rfl, -⟩ | ⟨habsent, hadded⟩
      · exact unique
      · rw [hadded.rows, List.map_append, List.map_singleton]
        refine List.Nodup.append unique (List.nodup_singleton _) ?_
        intro email hold hnew
        obtain ⟨v, hv, hsame⟩ := List.mem_map.mp hold
        exact habsent v hv (hsame.trans ((List.mem_singleton.mp hnew).trans howns))
    · rw [hsession, if_neg hk]
      unfold Tables.session
      rw [hsessions]

end Callbacks

def callbackStep (server : Server) (db : Tables) (call : Callback) : Option Tables :=
  some (callback server db call)

/-- Every callback of a run signs its user in exactly when each is served where it comes. -/
theorem callbacks_sign_in_iff
    (lowered : ∀ s, server.lowerSql (server.py.lower s) = server.py.lower s) {db : Tables}
    {calls : List Callback} (unique : UniqueEmails server db.users)
    (carries : ∀ call ∈ calls, call.Carries) (sids : (calls.map Callback.sid).Nodup)
    (fresh : ∀ call ∈ calls, db.session call.sid = none) :
    Along (SignsIn server) (callbackStep server) db calls ↔
      Along (Served server) (callbackStep server) db calls := by
  induction calls generalizing db with
  | nil => exact Iff.rfl
  | cons call rest ih =>
    rw [List.map_cons, List.nodup_cons] at sids
    have hcall := carries call List.mem_cons_self
    have hfresh := fresh call List.mem_cons_self
    obtain ⟨hunique, hkept⟩ := callback_keeps lowered unique hfresh hcall
    have hrest : ∀ later ∈ rest, (callback server db call).session later.sid = none := by
      intro later hlater
      rw [hkept later.sid fun heq => sids.1 (heq ▸ List.mem_map_of_mem hlater)]
      exact fresh later (List.mem_cons_of_mem call hlater)
    rw [along_cons, along_cons, signsIn_iff lowered unique hfresh hcall]
    refine and_congr_right fun _ => forall_congr' fun t => forall_congr' fun ht => ?_
    obtain rfl := Option.some.inj ht
    exact ih hunique (fun later hlater => carries later (List.mem_cons_of_mem call hlater)) sids.2
      hrest

section Decisions
variable (identity : SsoIdentity) (username : String)

instance (users : UserTable) (email : String) : Decidable (Absent server users email) :=
  inferInstanceAs (Decidable (∀ u ∈ users.rows, server.lowerSql u.email ≠ email))

instance : Decidable (Fits server identity username) :=
  inferInstanceAs (Decidable (_ ∧ _))

instance (users : UserTable) : Decidable (Insertable server users identity username) :=
  inferInstanceAs (Decidable (_ ∧ _))

instance (users : UserTable) : Decidable (Provisionable server users identity) :=
  inferInstanceAs (Decidable (_ ∨ _))

instance (db : Tables) (call : Callback) : Decidable (Served server db call) :=
  match hid : ssoIdentity server.py call.claims with
  | .error _ => isFalse fun ⟨_, hok, _⟩ => by cases hid.symm.trans hok
  | .ok identity => decidable_of_iff
      ((∃ u ∈ db.users.rows, server.lowerSql u.email = call.address server ∧ u.role.isSome) ∨
        (Absent server db.users (call.address server) ∧ Provisionable server db.users identity))
      ⟨fun h => ⟨identity, hid, h⟩, fun ⟨_, hok, h⟩ => Except.ok.inj (hid.symm.trans hok) ▸ h⟩

end Decisions

def samLee (n : String) : Callback :=
  ⟨[("email", .str ("lee" ++ n ++ "@x")), ("name", .str "Sam Lee")], "lee" ++ n ++ "@x", "s" ++ n⟩

theorem samLee_carries (n : String) : (samLee n).Carries :=
  ⟨rfl, by simp [samLee]⟩

theorem toLower_toLower (c : Char) : c.toLower.toLower = c.toLower := by
  by_cases hupper : c.val ≥ 'A'.val ∧ c.val ≤ 'Z'.val
  · have hlower : c.toLower.val = c.val + 32 := by
      unfold Char.toLower
      rw [dif_pos hupper]
      rfl
    unfold Char.toLower
    apply dif_neg
    change ¬ (c.toLower.val ≥ 'A'.val ∧ c.toLower.val ≤ 'Z'.val)
    rw [hlower]
    simp only [UInt32.le_iff_toNat_le, ge_iff_le, UInt32.toNat_add] at *
    simp only [Char.toNat_val, Char.reduceToNat, UInt32.toNat_ofNat] at *
    omega
  · have hsame : c.toLower = c := dif_neg hupper
    rw [hsame, hsame]

theorem ascii_lower_lower (s : String) : Ascii.lower (Ascii.lower s) = Ascii.lower s := by
  have hchars : s.toList.map (Char.toLower ∘ Char.toLower) = s.toList.map Char.toLower :=
    List.map_congr_left fun c _ => toLower_toLower c
  rw [Ascii.lower, Ascii.lower, String.toList_ofList, List.map_map, hchars]

theorem empty_uniqueEmails : UniqueEmails asciiServer Tables.empty.users := List.nodup_nil

/-- The third one is refused. -/
theorem third_namesake_refused : ¬ ∀ (server : Server) (db : Tables) (calls : List Callback),
    (∀ s, server.lowerSql (server.py.lower s) = server.py.lower s) →
    UniqueEmails server db.users → (∀ call ∈ calls, call.Carries) →
    (calls.map Callback.sid).Nodup → (∀ call ∈ calls, db.session call.sid = none) →
    Along (SignsIn server) (callbackStep server) db calls := by
  intro hall
  have h := hall asciiServer Tables.empty (["1", "2", "3"].map samLee) ascii_lower_lower
    empty_uniqueEmails (by simpa using ⟨samLee_carries "1", samLee_carries "2", samLee_carries "3"⟩)
    (by decide) (fun _ _ => rfl)
  obtain ⟨-, hsecond⟩ := h
  obtain ⟨-, hthird⟩ := hsecond _ rfl
  obtain ⟨hlast, -⟩ := hthird _ rfl
  obtain ⟨u, -, -, role, hsession⟩ := hlast.session
  have hnone : (callback asciiServer (callback asciiServer (callback asciiServer Tables.empty
      (samLee "1")) (samLee "2")) (samLee "3")).session "s3" = none := by decide +kernel
  exact absurd (hnone.symm.trans hsession) (by simp)

/-- The first and the second are signed in. -/
theorem two_namesakes_signed_in : Along (SignsIn asciiServer) (callbackStep asciiServer)
    Tables.empty (["1", "2"].map samLee) := by
  have hlowered : ∀ s, asciiServer.lowerSql (asciiServer.py.lower s) = asciiServer.py.lower s :=
    ascii_lower_lower
  refine (callbacks_sign_in_iff hlowered empty_uniqueEmails ?_ ?_ ?_).mpr ?_
  · simpa using ⟨samLee_carries "1", samLee_carries "2"⟩
  · decide
  · exact fun _ _ => rfl
  · decide +kernel

end SsoProvisioning
