import CrmPortal.LoginResolution

/-!
# The bootstrap administrator

A start of the portal over a table with users updates the row with the administrator's
address, or inserts one under a name that it looks up first. The login by the name `admin`
is another lookup, over three columns.
-/

namespace BootstrapAdmin

open PyValue Accounts SessionLookup Portal Transaction UnitOfWork

structure BootstrapEnv where
  server : Server
  bootstrapAdminPassword : String
  isProduction : Bool
  generatedPassword : String
  bcryptHash : String → String

/-- `_bootstrap_users`: the password of its one entry. -/
def adminPassword (env : BootstrapEnv) : Except PyExc String :=
  let password := env.server.py.strip env.bootstrapAdminPassword
  if password = "" then
    if env.isProduction then .error .runtimeError else .ok env.generatedPassword
  else .ok password

/-- A password is configured, its hash verifies, the columns take the row, and logins are let in. -/
structure Ready (env : BootstrapEnv) (password : String) : Prop where
  configured : adminPassword env = .ok password
  verifies : env.server.checkBcrypt password (env.bcryptHash password) = true
  plainName : env.server.backend.takesStr (.varchar 100) "admin" = true
  prefixedName : env.server.backend.takesStr (.varchar 100) ("crm-" ++ "admin") = true
  email : env.server.backend.takesStr (.varchar 200) adminEmail = true
  hash : env.server.backend.takesStr (.varchar 300) (env.bcryptHash password) = true
  limit : 0 < env.server.maxLoginAttempts

/-- A row with an address of the CRM domain is found under its name, and under the name without
the prefix unless that belongs to another one. -/
theorem lookupForLogin_owned_iff {users : UserTable} {u : User} {name : String}
    (hu : u ∈ users.rows) (owned : crmOwned u = true) (email : u.email ≠ name) :
    lookupForLogin users name = some u ↔ u.username = name ∨ (u.username = "crm-" ++ name ∧
      ∀ v ∈ users.rows, v.username = name → crmOwned v = false) := by
  by_cases hname : u.username = name
  · subst hname
    simp [lookupForLogin_self_iff hu, owned]
  constructor
  · intro h
    have hmatches := (List.mem_filter.mp (List.argmin_mem h)).2
    have hlisteded : u.username = "crm-" ++ name := by
      simpa [loginMatches, hname, email] using hmatches
    refine Or.inr ⟨hlisteded, fun v hv hvname => ?_⟩
    by_contra hnot
    have hvowned : crmOwned v = true := by simpa using hnot
    have hvmatches : loginMatches name v = true := by simp [loginMatches, hvname]
    have hle := List.le_of_mem_argmin (List.mem_filter.mpr ⟨hv, hvmatches⟩) h
    rw [loginRank, loginRank, Prod.Lex.toLex_le_toLex] at hle
    simp [owned, hvowned, hvname, hlisteded] at hle
  · rintro (hself | ⟨hlisteded, hothers⟩)
    · exact absurd hself hname
    have hmatches : loginMatches name u = true := by simp [loginMatches, hlisteded]
    have hfilter := List.mem_filter.mpr ⟨hu, hmatches⟩
    unfold lookupForLogin
    cases hfirst : (users.rows.filter (loginMatches name)).argmin (loginRank name) with
    | none =>
      rw [List.argmin_eq_none] at hfirst
      rw [hfirst] at hfilter
      cases hfilter
    | some m =>
      obtain ⟨hm, -⟩ := List.mem_filter.mp (List.argmin_mem hfirst)
      have hle := List.le_of_mem_argmin hfilter hfirst
      rw [loginRank, loginRank, Prod.Lex.toLex_le_toLex] at hle
      have hmowned : crmOwned m = true := by
        by_contra hnot
        simp [owned, hnot] at hle
      have hmname : m.username ≠ name := by
        intro heq
        rw [hothers m hm heq] at hmowned
        cases hmowned
      have hmprefixed : m.username = "crm-" ++ name := by
        by_contra hnot
        simp [owned, hmowned, hmname, hlisteded, hnot] at hle
      exact congrArg some (users.eq_of_username hm hu (hmprefixed.trans hlisteded.symm))

/-- Every login by the name `admin` and the password that is let in opens a session of `u`. -/
def SignsIn (server : Server) (password : String) (users : UserTable) (u : User) : Prop :=
  ∀ (attempt : Attempt) (now : ℚ) (sessions : SessionTable),
    attempt.req.username = "admin" → attempt.req.password = password →
    Admits server attempt now sessions u → OpensSession server attempt now ⟨users, sessions⟩ u

theorem signsIn_iff {server : Server} {password role : String} {users : UserTable} {u : User}
    (limit : 0 < server.maxLoginAttempts) (hrole : u.role = some role)
    (verifies : server.checkBcrypt password u.passwordHash = true) :
    SignsIn server password users u ↔ lookupForLogin users "admin" = some u := by
  constructor
  · intro h
    have hunlimited : (⟨⟨"admin", password, ""⟩, "s", noFaults, Replica.started⟩ :
        Attempt).limitedAt server 0 = false := by
      refine decide_eq_false ?_
      change ¬ server.maxLoginAttempts ≤ 0
      omega
    have hopens := h ⟨⟨"admin", password, ""⟩, "s", noFaults, Replica.started⟩ 0
      IdentityTable.Table.empty rfl rfl
      ⟨hunlimited, rfl, rfl, rfl, verifies, role, _, _, hrole, rfl⟩
    exact (opensSession_iff.mp hopens).2
  · intro h attempt now sessions hname _ hadmits
    rw [opensSession_iff, hname]
    exact ⟨hadmits, h⟩

def hasAdminEmail (u : User) : Bool := decide (u.email = adminEmail)

/-- The prefixed name if the plain one is taken. -/
def actualUsername (users : UserTable) : String :=
  if "admin" ∈ users.rows.map User.username then "crm-" ++ "admin" else "admin"

/-- The users after a start, unless a constraint refuses the new row. -/
def bootstrapped (users : UserTable) (passwordHash : String) : Option UserTable :=
  if adminEmail ∈ users.rows.map User.email then
    some (users.update hasAdminEmail (fun _ => passwordHash) (some "admin"))
  else users.insert (actualUsername users) adminEmail passwordHash (some "admin")

theorem find_isSome_iff {Column : Type} [DecidableEq Column] (rows : List User)
    (column : User → Column) (value : Column) :
    (rows.find? fun u => decide (column u = value)).isSome ↔ value ∈ rows.map column := by
  rw [List.find?_isSome]
  simp [List.mem_map]

theorem actualUsername_eq (users : UserTable) :
    actualUsername users = if (users.rows.find? fun u => decide (u.username = "admin")).isSome then
      "crm-" ++ "admin" else "admin" := by
  unfold actualUsername
  by_cases htaken : "admin" ∈ users.rows.map User.username
  · rw [if_pos htaken, if_pos ((find_isSome_iff _ _ _).mpr htaken)]
  · rw [if_neg htaken, if_neg fun h => htaken ((find_isSome_iff _ _ _).mp h)]

/-- The end of the block: the new table, or the exception of the constraint. -/
def outcome (db : Tables) (statements : Nat) : Option UserTable →
    Except (Exit PyExc Empty) PUnit × Work Tables
  | some users => (.ok ⟨⟩, ⟨{ db with users := users }, statements⟩)
  | none => (.error (.raised .integrityError), ⟨db, statements⟩)

theorem insertUser_run {server : Server} {username email passwordHash : String}
    {role : Option String} (w : Work Tables)
    (name : server.backend.takesStr (.varchar 100) username = true)
    (address : server.backend.takesStr (.varchar 200) email = true)
    (hash : server.backend.takesStr (.varchar 300) passwordHash = true) :
    insertUser server noFaults username email passwordHash role w =
      outcome w.state (w.statements + 1)
        (w.state.users.insert username email passwordHash role) := by
  have htaken : (demand .dataError (server.backend.takesStr (.varchar 100) username &&
      server.backend.takesStr (.varchar 200) email &&
      server.backend.takesStr (.varchar 300) passwordHash) : Block Tables PyExc Empty PUnit) w =
        (.ok ⟨⟩, w) := demand_ok_iff.mpr ⟨by simp [name, address, hash], rfl⟩
  unfold insertUser
  rw [Tx.bind_of_ok _ htaken]
  unfold execute
  have hstatement : (statement noFaults : Block Tables PyExc Empty PUnit) w = (.ok ⟨⟩, w.next) :=
    rfl
  rw [Tx.bind_of_ok _ hstatement, Tx.bind_of_ok _ (Tx.read_apply _)]
  cases hinsert : w.state.users.insert username email passwordHash role with
  | none =>
    simp only [Work.next, hinsert]
    rfl
  | some users =>
    simp only [Work.next, hinsert]
    rfl

section Start
variable {env : BootstrapEnv} {password : String}

/-- The start finds a user first, as there are some. -/
theorem bootstrapBlock_run (ready : Ready env password) {db : Tables}
    (nonempty : db.users.rows ≠ []) (positive : ∀ u ∈ db.users.rows, 0 < u.id) :
    ∃ n, bootstrapBlock env.server noFaults (env.bcryptHash password) ⟨db, 0⟩ =
      outcome db n (bootstrapped db.users (env.bcryptHash password)) := by
  obtain ⟨first, hfirst⟩ : ∃ u, env.server.anyRow db.users.rows = some u := by
    cases hany : env.server.anyRow db.users.rows with
    | none => exact absurd (env.server.anyRow_none _ hany) nonempty
    | some u => exact ⟨u, rfl⟩
  have hid : ((some first).map User.id).getD 0 ≠ 0 :=
    Nat.pos_iff_ne_zero.mp (positive first (env.server.anyRow_mem _ _ hfirst))
  have hquery : ∀ {Value : Type} (f : Tables → Value) (w : Work Tables),
      (query noFaults f : Block Tables PyExc Empty Value) w = (.ok (f w.state), w.next) :=
    fun f w => query_ok_iff.mpr ⟨rfl, rfl, rfl⟩
  unfold bootstrapBlock bootstrapped
  rw [Tx.bind_of_ok _ (hquery _ _), hfirst, if_pos hid, Tx.bind_of_ok _ (hquery _ _)]
  dsimp only [Work.next]
  cases hrow : db.users.rows.find? fun u => decide (u.email = adminEmail) with
  | some row =>
    have hmem : adminEmail ∈ db.users.rows.map User.email :=
      (find_isSome_iff _ _ _).mp (Option.isSome_of_eq_some hrow)
    rw [if_pos hmem]
    exact ⟨3, rfl⟩
  | none =>
    have hmem : adminEmail ∉ db.users.rows.map User.email := by
      rw [← find_isSome_iff, hrow]
      simp
    rw [if_neg hmem]
    dsimp only
    rw [Tx.bind_of_ok _ (hquery _ _)]
    dsimp only [Work.next]
    rw [← actualUsername_eq]
    refine ⟨4, insertUser_run _ ?_ ready.email ready.hash⟩
    unfold actualUsername
    split
    · exact ready.prefixedName
    · exact ready.plainName

/-- A start is committed when no constraint is in its way. -/
theorem bootstrap_committed_iff (ready : Ready env password) {db after : Tables}
    (nonempty : db.users.rows ≠ []) (positive : ∀ u ∈ db.users.rows, 0 < u.id) :
    run noFaults Tables.rollback (bootstrapBlock env.server noFaults (env.bcryptHash password)) db =
        .committed (.inr ⟨⟩) after ↔
      ∃ users, bootstrapped db.users (env.bcryptHash password) = some users ∧
        after = { db with users := users } := by
  obtain ⟨n, hblock⟩ := bootstrapBlock_run ready nonempty positive
  unfold run
  rw [hblock]
  cases bootstrapped db.users (env.bcryptHash password) with
  | none => simp [outcome]
  | some users =>
    change (Ended.committed (.inr PUnit.unit) { db with users := users } :
      Ended Tables PyExc Empty PUnit) = _ ↔ _
    simp [eq_comm]

end Start

/-- The row with the administrator's address, with its role and the password, signs in. -/
structure AdminRow (env : BootstrapEnv) (password : String) (users : UserTable) (u : User) :
    Prop where
  stored : u ∈ users.rows
  email : u.email = adminEmail
  role : u.role = some "admin"
  verifies : env.server.checkBcrypt password u.passwordHash = true

structure UsableAdmin (env : BootstrapEnv) (password : String) (before after : UserTable) :
    Prop where
  admin : ∃ u, AdminRow env password after u ∧ SignsIn env.server password after u
  single : ∀ u ∈ after.rows, ∀ v ∈ after.rows, u.email = adminEmail → v.email = adminEmail → u = v
  others : ∀ v, v.email ≠ adminEmail → (v ∈ after.rows ↔ v ∈ before.rows)

/-- The start ends with a commit, and leaves a usable administrator. -/
def Bootstraps (env : BootstrapEnv) (password : String) (db : Tables) : Prop :=
  ∃ after, run noFaults Tables.rollback
      (bootstrapBlock env.server noFaults (env.bcryptHash password)) db =
        .committed (.inr ⟨⟩) after ∧
    UsableAdmin env password db.users after.users

/-- The plain name belongs to nobody with an address of the CRM domain. -/
def PlainNameForeign (users : UserTable) : Prop :=
  ∀ v ∈ users.rows, v.username = "admin" → crmOwned v = false

/-- The name is one under which the login finds its owner. -/
def NameFound (users : UserTable) (username : String) : Prop :=
  username = "admin" ∨ (username = "crm-" ++ "admin" ∧ PlainNameForeign users)

/-- The row with the address has such a name, or such a name is free for a new row. -/
def Adoptable (users : UserTable) : Prop :=
  (∃ u ∈ users.rows, u.email = adminEmail ∧ NameFound users u.username) ∨
    (adminEmail ∉ users.rows.map User.email ∧
      ("admin" ∉ users.rows.map User.username ∨
        ("crm-" ++ "admin" ∉ users.rows.map User.username ∧ PlainNameForeign users)))

section Admin
variable {env : BootstrapEnv} {password : String} {users : UserTable}

theorem AdminRow.unique {u v : User} (hu : AdminRow env password users u) (hv : v ∈ users.rows)
    (email : v.email = adminEmail) : v = u :=
  List.inj_on_of_nodup_map users.emails hv hu.stored (email.trans hu.email.symm)

theorem admin_signsIn_iff (ready : Ready env password) {u : User}
    (hu : AdminRow env password users u) :
    (∃ v, AdminRow env password users v ∧ SignsIn env.server password users v) ↔
      NameFound users u.username := by
  have howned : crmOwned u = true := by
    rw [crmOwned, hu.email]
    decide
  have hother : u.email ≠ "admin" := by
    rw [hu.email]
    decide
  have hsigns : SignsIn env.server password users u ↔ NameFound users u.username := by
    rw [signsIn_iff ready.limit hu.role hu.verifies, lookupForLogin_owned_iff hu.stored howned
      hother]
    rfl
  rw [← hsigns]
  constructor
  · rintro ⟨v, hv, hsign⟩
    rw [← hu.unique hv.stored hv.email]
    exact hsign
  · intro hsign
    exact ⟨u, hu, hsign⟩

/-- Where the other rows are kept, the administrator is usable if the login finds the name. -/
theorem usable_iff_found (ready : Ready env password) {after : UserTable} {u : User}
    (hrow : AdminRow env password after u)
    (others : ∀ v, v.email ≠ adminEmail → (v ∈ after.rows ↔ v ∈ users.rows)) :
    UsableAdmin env password users after ↔ NameFound after u.username := by
  rw [← admin_signsIn_iff ready hrow]
  constructor
  · exact UsableAdmin.admin
  · intro hadmin
    refine ⟨hadmin, fun v hv w hw hvmail hwmail => ?_, others⟩
    exact (hrow.unique hv hvmail).trans (hrow.unique hw hwmail).symm

/-- The update keeps the name of the row, and the owners of all others. -/
theorem usable_update_iff (ready : Ready env password) {u : User} (hu : u ∈ users.rows)
    (email : u.email = adminEmail) :
    UsableAdmin env password users (users.update hasAdminEmail
        (fun _ => env.bcryptHash password) (some "admin")) ↔ NameFound users u.username := by
  have hassigned : ∀ v ∈ users.rows,
      v.email = adminEmail → UserTable.assign hasAdminEmail (fun _ => env.bcryptHash password)
        (some "admin") v = ⟨v.id, v.username, v.email, env.bcryptHash password, some "admin"⟩ := by
    intro v _ hv
    simp [UserTable.assign, hasAdminEmail, hv]
  have hforeign : PlainNameForeign (users.update hasAdminEmail
      (fun _ => env.bcryptHash password) (some "admin")) ↔ PlainNameForeign users := by
    simp [PlainNameForeign, UserTable.update, crmOwned]
  have hrow : AdminRow env password (users.update hasAdminEmail
      (fun _ => env.bcryptHash password) (some "admin"))
      ⟨u.id, u.username, u.email, env.bcryptHash password, some "admin"⟩ := by
    refine ⟨?_, email, rfl, ready.verifies⟩
    rw [← hassigned u hu email]
    exact List.mem_map_of_mem hu
  have hkept : ∀ v : User, v.email ≠ adminEmail → UserTable.assign hasAdminEmail
      (fun _ => env.bcryptHash password) (some "admin") v = v := by
    intro v hv
    simp [UserTable.assign, hasAdminEmail, hv]
  have hfound : NameFound (users.update hasAdminEmail (fun _ => env.bcryptHash password)
      (some "admin")) u.username ↔ NameFound users u.username := by
    unfold NameFound
    rw [hforeign]
  refine (usable_iff_found ready hrow fun v hv => ?_).trans hfound
  change v ∈ users.rows.map _ ↔ _
  rw [List.mem_map]
  constructor
  · rintro ⟨w, hw, hassign⟩
    have hwmail : w.email ≠ adminEmail := by
      rw [← hassign, UserTable.assign_email] at hv
      exact hv
    rw [← hassign, hkept w hwmail]
    exact hw
  · intro hmem
    exact ⟨v, hmem, hkept v hv⟩

theorem usable_append_iff (ready : Ready env password) {username : String}
    (free : users.Free username adminEmail) :
    UsableAdmin env password users (users.append username adminEmail (env.bcryptHash password)
        (some "admin") free) ↔ NameFound users username := by
  have hrows : ∀ v, v ∈ (users.append username adminEmail (env.bcryptHash password)
      (some "admin") free).rows ↔ v ∈ users.rows ∨
        v = ⟨users.next, username, adminEmail, env.bcryptHash password, some "admin"⟩ := by
    intro v
    simp [UserTable.append]
  have hrow : AdminRow env password (users.append username adminEmail (env.bcryptHash password)
      (some "admin") free)
      ⟨users.next, username, adminEmail, env.bcryptHash password, some "admin"⟩ :=
    ⟨(hrows _).mpr (Or.inr rfl), rfl, rfl, ready.verifies⟩
  have hfound : NameFound (users.append username adminEmail (env.bcryptHash password)
      (some "admin") free) username ↔ NameFound users username := by
    refine or_congr_right (and_congr_right fun hname => ?_)
    constructor
    · intro h v hv
      exact h v ((hrows v).mpr (Or.inl hv))
    · intro h v hv hplain
      rcases (hrows v).mp hv with hold | rfl
      · exact h v hold hplain
      · exact absurd (hname.symm.trans hplain) (by decide)
  refine (usable_iff_found ready hrow fun v hv => ?_).trans hfound
  rw [hrows]
  constructor
  · rintro (hold | rfl)
    · exact hold
    · exact absurd rfl hv
  · exact Or.inl

end Admin

/-- A start over a table with users leaves a usable administrator exactly where the row with
the address, or the name that is left for it, is one that the login finds. -/
theorem bootstraps_iff (env : BootstrapEnv) (password : String) (ready : Ready env password)
    (db : Tables) (nonempty : db.users.rows ≠ []) (positive : ∀ u ∈ db.users.rows, 0 < u.id) :
    Bootstraps env password db ↔ Adoptable db.users := by
  unfold Bootstraps Adoptable
  simp only [bootstrap_committed_iff ready nonempty positive]
  by_cases hmail : adminEmail ∈ db.users.rows.map User.email
  · have hafter : bootstrapped db.users (env.bcryptHash password) = some (db.users.update
        hasAdminEmail (fun _ => env.bcryptHash password) (some "admin")) := if_pos hmail
    obtain ⟨u, hu, hemail⟩ := List.mem_map.mp hmail
    have husable := usable_update_iff ready hu hemail
    constructor
    · rintro ⟨_, ⟨users, husers, rfl⟩, h⟩
      obtain rfl := Option.some.inj (hafter.symm.trans husers)
      exact Or.inl ⟨u, hu, hemail, husable.mp h⟩
    · rintro (⟨v, hv, hvmail, hfound⟩ | ⟨hno, -⟩)
      · obtain rfl : v = u :=
          List.inj_on_of_nodup_map db.users.emails hv hu (hvmail.trans hemail.symm)
        exact ⟨_, ⟨_, hafter, rfl⟩, husable.mpr hfound⟩
      · exact absurd hmail hno
  · have hnone : ¬ ∃ u ∈ db.users.rows, u.email = adminEmail ∧ NameFound db.users u.username := by
      rintro ⟨u, hu, hemail, -⟩
      exact hmail (List.mem_map.mpr ⟨u, hu, hemail⟩)
    have hafter : bootstrapped db.users (env.bcryptHash password) =
        db.users.insert (actualUsername db.users) adminEmail (env.bcryptHash password)
          (some "admin") := if_neg hmail
    rw [hafter]
    have hinserted : (∃ after, (∃ users, db.users.insert (actualUsername db.users) adminEmail
        (env.bcryptHash password) (some "admin") = some users ∧
          after = { db with users := users }) ∧ UsableAdmin env password db.users after.users) ↔
        actualUsername db.users ∉ db.users.rows.map User.username ∧
          NameFound db.users (actualUsername db.users) := by
      unfold UserTable.insert
      constructor
      · rintro ⟨_, ⟨users, husers, rfl⟩, h⟩
        split at husers
        · next free =>
          obtain rfl := Option.some.inj husers
          exact ⟨free.1, (usable_append_iff ready free).mp h⟩
        · cases husers
      · rintro ⟨hname, hfound⟩
        have free : db.users.Free (actualUsername db.users) adminEmail := ⟨hname, hmail⟩
        exact ⟨_, ⟨_, dif_pos free, rfl⟩, (usable_append_iff ready free).mpr hfound⟩
    rw [hinserted, or_iff_right hnone, and_iff_right hmail]
    by_cases hplain : "admin" ∈ db.users.rows.map User.username
    · have hactual : actualUsername db.users = "crm-" ++ "admin" := if_pos hplain
      rw [hactual, or_iff_right (not_not_intro hplain)]
      simp [NameFound]
    · have hactual : actualUsername db.users = "admin" := if_neg hplain
      simp [hactual, hplain, NameFound]

def sampleBootstrap : BootstrapEnv :=
  ⟨asciiServer, "s3cret", true, "", fun password => "bcrypt:" ++ password⟩

theorem sampleBootstrap_ready : Ready sampleBootstrap "s3cret" :=
  ⟨by decide, by decide, by decide, by decide, by decide, by decide, by decide⟩

/-- Both names belong to accounts of the shop. -/
def bothTaken : Tables :=
  let users := UserTable.empty.append "admin" "root@shop.example" "bcrypt:a" (some "admin")
    (by decide)
  ⟨users.append "crm-admin" "staff@shop.example" "bcrypt:b" (some "user") (by decide),
    IdentityTable.Table.empty⟩

theorem start_meets_both_names : ¬ ∀ (env : BootstrapEnv) (password : String) (db : Tables),
    Ready env password → db.users.rows ≠ [] → (∀ u ∈ db.users.rows, 0 < u.id) →
    Bootstraps env password db := by
  intro hall
  have hpositive : ∀ u ∈ bothTaken.users.rows, 0 < u.id := by decide
  have hbootstraps := hall sampleBootstrap "s3cret" bothTaken sampleBootstrap_ready (by decide)
    hpositive
  obtain ⟨after, hrun, -⟩ := hbootstraps
  obtain ⟨users, husers, -⟩ :=
    (bootstrap_committed_iff sampleBootstrap_ready (by decide) hpositive).mp hrun
  have hrefused : (bootstrapped bothTaken.users
      (sampleBootstrap.bcryptHash "s3cret")).isSome = false := by decide
  rw [husers] at hrefused
  cases hrefused

/-- Next to Ann there is room. -/
theorem ann_bootstraps : Bootstraps sampleBootstrap "s3cret" annTables :=
  (bootstraps_iff sampleBootstrap "s3cret" sampleBootstrap_ready annTables (by decide)
    (by decide)).mpr (Or.inr ⟨by decide, Or.inl (by decide)⟩)

end BootstrapAdmin
