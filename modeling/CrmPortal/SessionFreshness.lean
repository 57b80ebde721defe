import CrmPortal.PortalSpec

/-!
# How old the answer of `get_current_user` can be

Logins and logouts write the table and touch no cache, so the cache of a replica
may tell of a session that is gone. Every entry tells what the table held at the
time that is stored with it, which is less than 30 seconds ago when it answers.
-/

namespace Portal

open PyValue Accounts SessionLookup Schedule

variable {ι : Type} [DecidableEq ι] {server : Server} {s₀ : State ι}

/-- At the time `τ` of the run the row of `sid` held the data. -/
def ExistedAt (server : Server) (s₀ : State ι) (schedule : List (Action ι)) (τ : ℚ) (sid : String)
    (data : SessionData) : Prop :=
  ∃ earlier later m, schedule = earlier ++ later ∧
    exec (step server) s₀ earlier = some m ∧ m.now ≤ τ ∧ (∀ a ∈ later.head?, τ ≤ a.time) ∧
    ∃ row, m.db.session sid = some row ∧ SessionData.ofRow row = data

/-- What is in a cache was in the table at the time of the entry. -/
def CachesBacked (server : Server) (s₀ : State ι) (schedule : List (Action ι)) (s : State ι) :
    Prop :=
  ∀ replica sid ts data, (s.replica replica).sessionCache sid = some (ts, data) →
    ts ≤ s.now ∧ ExistedAt server s₀ schedule ts sid data

/-- Later steps do not change what there was. -/
theorem ExistedAt.extend {done : List (Action ι)} {a : Action ι} {τ : ℚ} {sid : String}
    {data : SessionData} (h : ExistedAt server s₀ done τ sid data) (hτ : τ ≤ a.time) :
    ExistedAt server s₀ (done ++ [a]) τ sid data := by
  obtain ⟨earlier, later, m, hsplit, hexec, hm, hnext, hrow⟩ := h
  refine ⟨earlier, later ++ [a], m, ?_, hexec, hm, ?_, hrow⟩
  · rw [hsplit, List.append_assoc]
  · intro b hb
    cases later with
    | nil =>
      have hba : a = b := Option.some.inj hb
      exact hba ▸ hτ
    | cons c rest => exact hnext b hb

/-- The table as it stands at the end of a run. -/
theorem existedAt_end {schedule : List (Action ι)} {s : State ι} {τ : ℚ} {sid : String}
    {row : UserSession} (run : exec (step server) s₀ schedule = some s) (hτ : s.now ≤ τ)
    (hrow : s.db.session sid = some row) :
    ExistedAt server s₀ schedule τ sid (SessionData.ofRow row) := by
  refine ⟨schedule, [], s, (List.append_nil _).symm, run, hτ, ?_, row, hrow, rfl⟩
  intro a ha
  cases ha

theorem step_cachesBacked {done : List (Action ι)} {s t : State ι} {a : Action ι}
    (run : exec (step server) s₀ done = some s) (backed : CachesBacked server s₀ done s)
    (hstep : step server s a = some t) : CachesBacked server s₀ (done ++ [a]) t := by
  have hrun : exec (step server) s₀ (done ++ [a]) = some t :=
    exec_append_iff.mpr ⟨s, run, exec_cons_iff.mpr ⟨t, hstep, rfl⟩⟩
  obtain ⟨htime, rfl⟩ := step_eq_some_iff.mp hstep
  intro replica sid ts data hentry
  rcases cache_origin hentry with old | ⟨rfl, row, hrow, rfl⟩
  · obtain ⟨hts, hexisted⟩ := backed replica sid ts data old
    have hle : ts ≤ a.time := le_trans hts htime
    exact ⟨hle, hexisted.extend hle⟩
  · exact ⟨le_refl _, existedAt_end hrun (le_refl _) hrow⟩

theorem exec_cachesBacked (db : Tables) (t₀ : ℚ) {schedule : List (Action ι)} {s : State ι}
    (run : exec (step server) (start db t₀) schedule = some s) :
    CachesBacked server (start db t₀) schedule s := by
  refine exec_history (P := CachesBacked server (start db t₀)) ?_ ?_ run
  · intro replica sid ts data hentry
    cases hentry
  · intro done t a u hdone hbacked hstep
    exact step_cachesBacked hdone hbacked hstep

/-- A young entry is one that was stored less than 30 seconds ago. -/
theorem cacheHit_some {rep : Replica} {sid : String} {now : ℚ} {data : SessionData}
    (h : cacheHit rep sid now = some data) :
    ∃ ts, rep.sessionCache sid = some (ts, data) ∧ now - ts < 30 := by
  unfold cacheHit at h
  split at h
  · rename_i ts stored hentry
    split at h
    · rename_i hyoung
      obtain rfl := Option.some.inj h
      exact ⟨ts, hentry, hyoung⟩
    · cases h
  · cases h

/-- In every run over any number of replicas, whatever fails: user data that
`get_current_user` returns at `now` stood in the table less than 30 seconds ago. -/
theorem session_data_fresh (db : Tables) (t₀ : ℚ) (schedule : List (Action ι)) (s : State ι)
    (run : exec (step server) (start db t₀) schedule = some s) (replica : ι) (sid : String)
    (failure : Option DbError) (now : ℚ) (hnow : s.now ≤ now) (data : SessionData)
    (returned : (currentUser s replica sid failure now).1 = .ok (some data)) :
    ∃ τ, now - 30 < τ ∧ τ ≤ now ∧ ExistedAt server (start db t₀) schedule τ sid data := by
  have backed := exec_cachesBacked db t₀ run
  unfold currentUser at returned
  rcases getCurrentUser_cases sid ⟨now, now⟩ (readSession s.db sid failure) (s.replica replica) with
    ⟨-, heq⟩ | ⟨found, -, hit, heq⟩ | ⟨row, -, -, hread, heq⟩ | ⟨-, -, -, heq⟩ | ⟨e, -, -, -, heq⟩
  · rw [heq] at returned
    cases returned
  · rw [heq] at returned
    obtain rfl : found = data := Option.some.inj (Except.ok.inj returned)
    obtain ⟨ts, hentry, hyoung⟩ := cacheHit_some hit
    obtain ⟨hts, hexisted⟩ := backed replica sid ts found hentry
    have hyoung' : now - ts < 30 := hyoung
    exact ⟨ts, by linarith, by linarith, hexisted⟩
  · rw [heq] at returned
    obtain rfl : SessionData.ofRow row = data := Option.some.inj (Except.ok.inj returned)
    exact ⟨now, by linarith, le_refl _, existedAt_end run hnow (readSession_found hread)⟩
  · rw [heq] at returned
    cases returned
  · rw [heq] at returned
    cases returned

/-- Ann signs in on one replica; another one answers from the table, and still
answers from its cache after she has signed out. -/
def signedOut : List (Action Nat) :=
  [⟨.register ⟨"ann", "ann@example.com", "bcrypt:pw", []⟩ noFaults, 1⟩,
    ⟨.login 0 ⟨"ann", "pw", "10.0.0.1"⟩ "s1" noFaults, 2⟩,
    ⟨.getCurrentUser 1 "s1" none, 3⟩,
    ⟨.logout "s1" noFaults, 4⟩]

theorem session_data_fresh_signedOut :
    ∃ s, exec (step asciiServer) (start Tables.empty 0) signedOut = some s ∧
      ∃ τ, (20 : ℚ) - 30 < τ ∧ τ ≤ 20 ∧
        ExistedAt asciiServer (start Tables.empty 0) signedOut τ "s1" ⟨1, "ann", "user"⟩ := by
  obtain ⟨s, hrun, hanswer⟩ := (Option.any_eq_true
    (fun s : State Nat => decide (s.now ≤ 20) &&
      decide ((currentUser s 1 "s1" none 20).1 = .ok (some ⟨1, "ann", "user"⟩)))
    (exec (step asciiServer) (start Tables.empty 0) signedOut)).mp (by decide +kernel)
  have hboth := Bool.and_eq_true_iff.mp hanswer
  exact ⟨s, hrun, session_data_fresh Tables.empty 0 signedOut s hrun 1 "s1" none 20
    (of_decide_eq_true hboth.1) ⟨1, "ann", "user"⟩ (of_decide_eq_true hboth.2)⟩

end Portal
