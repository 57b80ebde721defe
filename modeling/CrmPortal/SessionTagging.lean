import CrmPortal.Library.Schedule

/-!
# The tags of the pooled database sessions

A checkout from the pool tags the session of the connection with the request, a checkin
resets the tags. Both swallow their exceptions, so a call that fails leaves the tags of the
calls after it as they were. Where the driver has no `module` to read, the tags go through
a cursor, and a request without an identifier leaves the identifier of the session alone.

A text is the list of its characters.
-/

namespace SessionTagging

open Schedule

abbrev Text := List Char

abbrev Conn := Nat

/-- What `V$SESSION` shows of a connection. -/
structure Session where
  module : Text
  action : Text
  clientInfo : Text
  clientIdentifier : Text
  deriving DecidableEq

/-- The assignments of the first kind of driver, the cursor calls of the second. -/
inductive Call where
  | assignModule (value : Text)
  | assignAction (value : Text)
  | assignClientInfo (value : Text)
  | assignClientIdentifier (value : Text)
  | openCursor
  | executeSetModule (module action : Text)
  | executeSetIdentifier (clientId : Text)
  | closeCursor

def Call.apply (s : Session) : Call → Session
  | .assignModule value => { s with module := value }
  | .assignAction value => { s with action := value }
  | .assignClientInfo value => { s with clientInfo := value }
  | .assignClientIdentifier value => { s with clientIdentifier := value }
  | .openCursor => s
  | .executeSetModule module action => { s with module := module, action := action }
  | .executeSetIdentifier clientId => { s with clientIdentifier := clientId }
  | .closeCursor => s

/-- The position of the call that raises, if one does. -/
abbrev Fault := Option Nat

/-- The call at this position takes effect. -/
def Fault.passes (fault : Fault) (position : Nat) : Bool :=
  match fault with
  | none => true
  | some failing => decide (position < failing)

/-- The calls in turn up to the one that raises, and whether none did. -/
def perform (fault : Fault) (calls : List Call) (s : Session) : Session × Bool :=
  match fault with
  | none => (calls.foldl Call.apply s, true)
  | some failing => ((calls.take failing).foldl Call.apply s, decide (calls.length ≤ failing))

structure Config where
  otelServiceName : Text
  appVersion : Text

/-- The context variables `_db_action` and `_db_client_id`. -/
structure DbContext where
  dbAction : Text
  dbClientId : Text
  deriving DecidableEq

def setDbContext (action clientIdentifier : Text) : DbContext where
  dbAction := action.take 64
  dbClientId := clientIdentifier.take 64

def idle : Text := ['i', 'd', 'l', 'e']

/-- `action or "idle"`. -/
def orIdle (action : Text) : Text := if action = [] then idle else action

/-- What `_tag_connection` calls; `readable` is `hasattr(dbapi_connection, "module")`. -/
def tagCalls (cfg : Config) (readable : Bool) (ctx : DbContext) : List Call :=
  let module := cfg.otelServiceName.take 48
  if readable then
    [.assignModule module, .assignAction (orIdle ctx.dbAction),
      .assignClientInfo (cfg.appVersion.take 64), .assignClientIdentifier ctx.dbClientId]
  else
    [.openCursor, .executeSetModule module (orIdle ctx.dbAction)] ++
      (if ctx.dbClientId = [] then [] else [.executeSetIdentifier ctx.dbClientId]) ++
      [.closeCursor]

/-- What `_clear_connection` calls. -/
def clearCalls (cfg : Config) (readable : Bool) : List Call :=
  if readable then [.assignAction idle, .assignClientIdentifier []]
  else
    [.openCursor, .executeSetModule (cfg.otelServiceName.take 48) idle,
      .executeSetIdentifier [], .closeCursor]

def tagConnection (cfg : Config) (readable : Bool) (ctx : DbContext) (fault : Fault) :
    Session → Session × Bool :=
  perform fault (tagCalls cfg readable ctx)

def clearConnection (cfg : Config) (readable : Bool) (fault : Fault) : Session → Session × Bool :=
  perform fault (clearCalls cfg readable)

/-- The request that has the connection, and whether its tagging calls all succeeded. -/
structure Holder where
  ctx : DbContext
  tagged : Bool

structure Pool where
  session : Conn → Session
  holder : Conn → Option Holder

inductive Event where
  | checkout (conn : Conn) (ctx : DbContext) (fault : Fault)
  | checkin (conn : Conn) (fault : Fault)

/-- Every connection is new and in the pool. -/
def start : Pool where
  session _ := ⟨[], [], [], []⟩
  holder _ := none

def Pool.put (pool : Pool) (conn : Conn) (session : Session) (holder : Option Holder) : Pool where
  session := Function.update pool.session conn session
  holder := Function.update pool.holder conn holder

variable (cfg : Config) (readable : Conn → Bool)

def step (pool : Pool) : Event → Option Pool
  | .checkout conn ctx fault =>
    if (pool.holder conn).isSome then none
    else
      let tagging := tagConnection cfg (readable conn) ctx fault (pool.session conn)
      some (pool.put conn tagging.1 (some ⟨ctx, tagging.2⟩))
  | .checkin conn fault =>
    if (pool.holder conn).isSome then
      let clearing := clearConnection cfg (readable conn) fault (pool.session conn)
      some (pool.put conn clearing.1 none)
    else none

/-- The tags are those of the request. -/
structure Session.Shows (s : Session) (ctx : DbContext) : Prop where
  action : s.action = orIdle ctx.dbAction
  clientIdentifier : s.clientIdentifier = ctx.dbClientId

/-- Every connection whose tagging calls succeeded shows the request that has it. -/
def Tagged (pool : Pool) : Prop :=
  ∀ conn holder, pool.holder conn = some holder → holder.tagged = true →
    (pool.session conn).Shows holder.ctx

/-- The last call on the session of `conn` that set an identifier set one that is not empty. -/
def leftover (conn : Conn) : List Event → Bool :=
  List.foldl (fun left event =>
    match event with
    | .checkout c ctx fault =>
      if c = conn ∧ ctx.dbClientId ≠ [] ∧ fault.passes 2 = true then true else left
    | .checkin c fault => if c = conn ∧ fault.passes 2 = true then false else left) false

/-- No tagging of a request without an identifier succeeds through a cursor on a session
where an identifier is left over. -/
def Clean (done : List Event) : Event → Prop
  | .checkout conn ctx fault =>
    readable conn = false → ctx.dbClientId = [] → fault.passes 2 = true →
      leftover conn done = false
  | .checkin .. => True

variable {cfg} {readable} {ctx : DbContext} {fault : Fault} {calls : List Call} {s : Session}

theorem perform_eq_of_success (h : (perform fault calls s).2 = true) :
    (perform fault calls s).1 = calls.foldl Call.apply s := by
  cases fault with
  | none => rfl
  | some failing =>
    have hlen : calls.length ≤ failing := of_decide_eq_true h
    rw [perform, List.take_of_length_le hlen]

theorem perform_success_iff {call : Call} :
    (perform fault (calls ++ [call]) s).2 = true ↔ fault.passes calls.length = true := by
  cases fault with
  | none => exact Iff.rfl
  | some failing =>
    simp only [perform, Fault.passes, List.length_append, List.length_singleton,
      decide_eq_true_eq]
    omega

/-- Through a cursor the identifier of a request is the third call. -/
theorem clientIdentifier_tagConnection :
    (tagConnection cfg false ctx fault s).1.clientIdentifier =
      if ctx.dbClientId ≠ [] ∧ fault.passes 2 = true then ctx.dbClientId
      else s.clientIdentifier := by
  unfold tagConnection tagCalls
  by_cases hid : ctx.dbClientId = []
  · rcases fault with _ | _ | _ | _ | _ | failing <;> simp [perform, Fault.passes, Call.apply, hid]
  · rcases fault with _ | _ | _ | _ | _ | failing <;> simp [perform, Fault.passes, Call.apply, hid]

theorem clientIdentifier_clearConnection :
    (clearConnection cfg false fault s).1.clientIdentifier =
      if fault.passes 2 = true then [] else s.clientIdentifier := by
  unfold clearConnection clearCalls
  rcases fault with _ | _ | _ | _ | _ | failing <;> simp [perform, Fault.passes, Call.apply]

/-- A tagging without a failure shows the request, but for the identifier that a request
without one does not set through a cursor. -/
theorem tagConnection_shows_iff {canRead : Bool}
    (h : (tagConnection cfg canRead ctx fault s).2 = true) :
    (tagConnection cfg canRead ctx fault s).1.Shows ctx ↔
      (canRead = false → ctx.dbClientId = [] → s.clientIdentifier = []) := by
  unfold tagConnection at h ⊢
  rw [perform_eq_of_success h]
  cases canRead with
  | true =>
    refine ⟨fun _ hread => (by cases hread), fun _ => ⟨rfl, rfl⟩⟩
  | false =>
    by_cases hid : ctx.dbClientId = []
    · simp only [tagCalls, hid]
      refine ⟨fun hshows _ _ => hshows.clientIdentifier.trans hid, fun hempty => ⟨rfl, ?_⟩⟩
      exact (hempty trivial trivial).trans hid.symm
    · simp only [tagCalls, hid]
      exact ⟨fun _ _ hnone => hnone.elim, fun _ => ⟨rfl, rfl⟩⟩

theorem tagConnection_success_iff (hid : ctx.dbClientId = []) :
    (tagConnection cfg false ctx fault s).2 = true ↔ fault.passes 2 = true := by
  unfold tagConnection tagCalls
  rw [if_pos hid]
  exact perform_success_iff

variable {conn other : Conn} {pool next : Pool} {done schedule : List Event} {event : Event}

@[simp]
theorem session_put_self {holder : Option Holder} :
    (pool.put conn s holder).session conn = s := Function.update_self ..

@[simp]
theorem holder_put_self {holder : Option Holder} :
    (pool.put conn s holder).holder conn = holder := Function.update_self ..

theorem session_put_of_ne {holder : Option Holder} (h : other ≠ conn) :
    (pool.put conn s holder).session other = pool.session other := Function.update_of_ne h ..

theorem holder_put_of_ne {holder : Option Holder} (h : other ≠ conn) :
    (pool.put conn s holder).holder other = pool.holder other := Function.update_of_ne h ..

theorem step_checkout (h : step cfg readable pool (.checkout conn ctx fault) = some next) :
    next = pool.put conn (tagConnection cfg (readable conn) ctx fault (pool.session conn)).1
      (some ⟨ctx, (tagConnection cfg (readable conn) ctx fault (pool.session conn)).2⟩) := by
  by_cases hfree : (pool.holder conn).isSome
  · rw [step, if_pos hfree] at h
    cases h
  · rw [step, if_neg hfree] at h
    exact (Option.some.inj h).symm

theorem step_checkin (h : step cfg readable pool (.checkin conn fault) = some next) :
    next = pool.put conn
      (clearConnection cfg (readable conn) fault (pool.session conn)).1 none := by
  by_cases hheld : (pool.holder conn).isSome
  · rw [step, if_pos hheld] at h
    exact (Option.some.inj h).symm
  · rw [step, if_neg hheld] at h
    cases h

theorem leftover_concat : leftover conn (done ++ [event]) =
    match event with
    | .checkout c ctx fault =>
      if c = conn ∧ ctx.dbClientId ≠ [] ∧ fault.passes 2 = true then true else leftover conn done
    | .checkin c fault => if c = conn ∧ fault.passes 2 = true then false
      else leftover conn done := by
  rw [leftover, List.foldl_append]
  rfl

/-- Through a cursor an identifier is left over exactly as the history says. -/
theorem clientIdentifier_iff_leftover (h : exec (step cfg readable) start done = some pool) :
    ∀ conn, readable conn = false →
      ((pool.session conn).clientIdentifier ≠ [] ↔ leftover conn done = true) := by
  refine exec_history (P := fun done pool => ∀ conn, readable conn = false →
    ((pool.session conn).clientIdentifier ≠ [] ↔ leftover conn done = true)) ?_ ?_ h
  · intro conn _
    exact ⟨fun hne => absurd rfl hne, fun htrue => (by cases htrue)⟩
  · intro done pool event next _ ih hstep conn hread
    rw [leftover_concat]
    cases event with
    | checkout c ctx fault =>
      obtain rfl := step_checkout hstep
      by_cases hc : c = conn
      · subst hc
        rw [session_put_self, hread, clientIdentifier_tagConnection]
        by_cases hset : ctx.dbClientId ≠ [] ∧ fault.passes 2 = true
        · simp [hset]
        · simpa [hset] using ih c hread
      · simpa [hc, session_put_of_ne (Ne.symm hc)] using ih conn hread
    | checkin c fault =>
      obtain rfl := step_checkin hstep
      by_cases hc : c = conn
      · subst hc
        rw [session_put_self, hread, clientIdentifier_clearConnection]
        by_cases hset : fault.passes 2 = true
        · simp [hset]
        · simpa [hset] using ih c hread
      · simpa [hc, session_put_of_ne (Ne.symm hc)] using ih conn hread

/-- Only the connection that is put has to be looked at. -/
theorem tagged_put {placed : Option Holder} (tagged : Tagged pool)
    (hshows : ∀ holder, placed = some holder → holder.tagged = true → s.Shows holder.ctx) :
    Tagged (pool.put conn s placed) := by
  intro other holder hholder htagged
  by_cases hother : other = conn
  · subst hother
    rw [holder_put_self] at hholder
    rw [session_put_self]
    exact hshows holder hholder htagged
  · rw [holder_put_of_ne hother] at hholder
    rw [session_put_of_ne hother]
    exact tagged other holder hholder htagged

/-- A checkout keeps the tags of the connections and shows its own request if it may. -/
theorem tagged_checkout (tagged : Tagged pool)
    (h : step cfg readable pool (.checkout conn ctx fault) = some next)
    (hempty : (tagConnection cfg (readable conn) ctx fault (pool.session conn)).2 = true →
      readable conn = false → ctx.dbClientId = [] → (pool.session conn).clientIdentifier = []) :
    Tagged next := by
  obtain rfl := step_checkout h
  refine tagged_put tagged fun holder hholder htagged => ?_
  obtain rfl := Option.some.inj hholder
  exact (tagConnection_shows_iff htagged).mpr (hempty htagged)

theorem tagged_checkin (tagged : Tagged pool)
    (h : step cfg readable pool (.checkin conn fault) = some next) : Tagged next := by
  obtain rfl := step_checkin h
  refine tagged_put tagged fun holder hholder _ => ?_
  cases hholder

/-- The step after a history that leaves nothing over keeps the tags. -/
theorem tagged_step (hrun : exec (step cfg readable) start done = some pool)
    (tagged : Tagged pool) (clean : Clean readable done event)
    (h : step cfg readable pool event = some next) : Tagged next := by
  cases event with
  | checkin conn fault => exact tagged_checkin tagged h
  | checkout conn ctx fault =>
    refine tagged_checkout tagged h fun hsuccess hread hid => ?_
    rw [hread] at hsuccess
    have hleft := clean hread hid ((tagConnection_success_iff hid).mp hsuccess)
    by_contra hne
    have htrue := (clientIdentifier_iff_leftover hrun conn hread).mp hne
    rw [hleft] at htrue
    cases htrue

/-- If the tags are right after a step, its history left nothing over. -/
theorem clean_of_tagged (hrun : exec (step cfg readable) start done = some pool)
    (h : step cfg readable pool event = some next) (tagged : Tagged next) :
    Clean readable done event := by
  cases event with
  | checkin conn fault => trivial
  | checkout conn ctx fault =>
    intro hread hid hpasses
    obtain rfl := step_checkout h
    have hsuccess : (tagConnection cfg (readable conn) ctx fault (pool.session conn)).2 = true := by
      rw [hread]
      exact (tagConnection_success_iff hid).mpr hpasses
    have hshows := tagged conn _ holder_put_self hsuccess
    rw [session_put_self] at hshows
    have hempty := (tagConnection_shows_iff hsuccess).mp hshows hread hid
    cases hleft : leftover conn done with
    | false => rfl
    | true => exact absurd hempty ((clientIdentifier_iff_leftover hrun conn hread).mpr hleft)

/-- The tags are right in every state of a run exactly if no identifier is left over where
it would be taken for one of a request without. -/
theorem tags_never_leak_iff (h : exec (step cfg readable) start schedule = some pool) :
    (∀ done, done <+: schedule → ∀ p, exec (step cfg readable) start done = some p → Tagged p) ↔
      ∀ done event, done ++ [event] <+: schedule → Clean readable done event := by
  constructor
  · rintro htagged done event ⟨rest, rfl⟩
    obtain ⟨last, hlast, -⟩ := exec_append_iff.mp h
    obtain ⟨mid, hmid, hone⟩ := exec_append_iff.mp hlast
    obtain ⟨_, hstep, hend⟩ := exec_cons_iff.mp hone
    obtain rfl := Option.some.inj hend
    exact clean_of_tagged hmid hstep (htagged _ (List.prefix_append ..) _ hlast)
  · intro hclean done hdone p hp
    refine exec_history (P := fun done p => done <+: schedule → Tagged p) ?_ ?_ hp hdone
    · intro _ conn holder hholder
      cases hholder
    · intro done p event next hrun ih hstep hlisted
      exact tagged_step hrun (ih ((List.prefix_append ..).trans hlisted)) (hclean _ _ hlisted) hstep

def sampleConfig : Config := ⟨['c', 'r', 'm'], ['1']⟩

def anonymous : DbContext := setDbContext ['G', 'E', 'T', ' ', '/'] []

def traced : DbContext := setDbContext ['G', 'E', 'T', ' ', '/', 'a'] ['t', '1']

def clearedSchedule : List Event :=
  [.checkout 0 traced none, .checkin 0 none, .checkout 0 anonymous none]

theorem clearedSchedule_clean {done : List Event} {event : Event}
    (h : done ++ [event] <+: clearedSchedule) : Clean (fun _ => false) done event := by
  obtain ⟨rest, hrest⟩ := h
  match done, hrest with
  | [], hrest =>
    obtain ⟨rfl, -⟩ := List.cons.inj hrest
    exact fun _ hnone => absurd hnone (by decide)
  | [first], hrest =>
    obtain ⟨rfl, -⟩ := List.cons.inj (List.cons.inj hrest).2
    trivial
  | [first, second], hrest =>
    obtain ⟨hfirst, htail⟩ := List.cons.inj hrest
    obtain ⟨hsecond, hlast⟩ := List.cons.inj htail
    obtain ⟨hevent, -⟩ := List.cons.inj hlast
    subst hfirst hsecond hevent
    exact fun _ _ _ => by decide
  | first :: second :: third :: more, hrest =>
    have hlength := congrArg List.length hrest
    simp [clearedSchedule] at hlength

/-- The identifier of the first request is cleared before the second one. -/
theorem tags_after_clear :
    ∃ pool, exec (step sampleConfig fun _ => false) start clearedSchedule = some pool ∧
      ∀ done, done <+: clearedSchedule →
        ∀ p, exec (step sampleConfig fun _ => false) start done = some p → Tagged p :=
  ⟨_, rfl, (tags_never_leak_iff rfl).mpr fun _ _ => clearedSchedule_clean⟩

/-- The clearing fails before it resets the identifier, and the request after it has none. -/
theorem identifier_leaks :
    ∃ pool, exec (step sampleConfig fun _ => false) start
        [.checkout 0 traced none, .checkin 0 (some 2), .checkout 0 anonymous none] = some pool ∧
      pool.holder 0 = some ⟨anonymous, true⟩ ∧
      (pool.session 0).clientIdentifier = traced.dbClientId ∧ ¬ Tagged pool := by
  refine ⟨_, rfl, rfl, rfl, fun tagged => ?_⟩
  have hshows := tagged 0 ⟨anonymous, true⟩ rfl rfl
  exact absurd hshows.clientIdentifier (by decide)

end SessionTagging
