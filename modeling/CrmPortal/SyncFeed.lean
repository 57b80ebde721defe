import CrmPortal.SyncContainment
import CrmPortal.SyncHealth

/-!
# The feed of the sync

`sync_external_orders` is called again and again, by the background loop of the portal and
by clients. Each call asks the external service for its orders, and what it answers may be
anything: an error, no JSON, JSON of another shape, a list with entries that are no orders.
A call either notes every entry of its feed in the audit table or leaves every row as it
was, and which of the two depends on the configuration and the answer alone. One entry
that is no object, or that the normaliser cannot take, holds back all the others for as
long as the service sends it.
-/

namespace SyncFeed

open PyValue IdentityTable CrmDatabase OrderNormalization OrderSyncSpec SyncContainment
  BacklogClassification SyncHealth SyncLedger
open OrderSync hiding syncExternalOrders

structure FeedConfig where
  externalOrdersUrl : String
  octoDroneShopUrl : String
  mushopCloudnativeUrl : String
  octoApmCloudnativeUrl : String

/-- `a or b or c or d`. -/
def externalOrdersBaseUrl (config : FeedConfig) : String :=
  if config.externalOrdersUrl ≠ "" then config.externalOrdersUrl
  else if config.octoDroneShopUrl ≠ "" then config.octoDroneShopUrl
  else if config.mushopCloudnativeUrl ≠ "" then config.mushopCloudnativeUrl
  else config.octoApmCloudnativeUrl

/-- How the request ends. A body that is no JSON has no payload. -/
inductive Reply where
  | raised
  | answered (status : Nat) (payload : Option Json)

inductive FetchExc where
  | request
  | httpStatus (status : Nat)
  | decode
  | attributeError
  deriving DecidableEq

/-- `raise_for_status` lets the 2xx pass and nothing else. -/
def isSuccess (status : Nat) : Bool := decide (200 ≤ status ∧ status ≤ 299)

def feedKeys : List String := ["orders", "items", "data", "results"]

def listAt (payload : Obj) (key : String) : Option (List Json) :=
  match payload.get key with
  | .arr value => some value
  | _ => none

def fetchExternalOrders : Reply → Except FetchExc (List Json)
  | .raised => .error .request
  | .answered status payload =>
    if isSuccess status = false then .error (.httpStatus status)
    else match payload with
      | none => .error .decode
      | some (.arr orders) => .ok orders
      | some (.obj fields) => .ok ((feedKeys.findSome? (listAt fields)).getD [])
      | some _ => .error .attributeError

/-- The loop over the feed as it was sent: the normaliser asks each entry for its fields. -/
def syncEntries (env : SyncEnv) : List (Json × DateTime) → SyncResult → SyncSession →
    Except PyExc (SyncResult × SyncSession)
  | [], r, s => .ok (r, s)
  | (.obj raw, now) :: rest, r, s =>
    match normalizeExternalOrder env.py now raw with
    | .error exc => .error exc
    | .ok n => syncEntries env rest (r.count (syncEntry env n s).1) (syncEntry env n s).2
  | _ :: _, _, _ => .error .attributeError

inductive Answer where
  | skipped
  | failed (reason : FetchExc)
  | completed (result : SyncResult)

/-- What a call reads; `clock i` is the time at which the loop reaches entry `i`. -/
structure Call where
  config : FeedConfig
  env : SyncEnv
  reply : Reply
  clock : Nat → DateTime

def stamped (clock : Nat → DateTime) (orders : List Json) : List (Json × DateTime) :=
  orders.zipIdx.map fun entry => (entry.1, clock entry.2)

def syncExternalOrders (call : Call) (db : Db) (listing : Table.Listing db.products) :
    Except PyExc (Answer × Db) :=
  if externalOrdersBaseUrl call.config = "" then .ok (.skipped, db)
  else match fetchExternalOrders call.reply with
    | .error exc => .ok (.failed exc, db)
    | .ok orders =>
      match syncEntries call.env (stamped call.clock orders) SyncResult.zero
          ⟨db, productLookup call.env.py listing.rows⟩ with
      | .error exc => .error exc
      | .ok (r, s) =>
        if (s.db.orderSyncAudit.drop db.orderSyncAudit.length).all (auditTaken call.env) then
          .ok (.completed r, s.db)
        else .error .dataError

/-- The entries as raw orders, if all of them are objects. -/
def arrivals : List (Json × DateTime) → Option (List Arrival)
  | [] => some []
  | (.obj raw, now) :: rest => (arrivals rest).map (⟨raw, now⟩ :: ·)
  | _ :: _ => none

def Call.feed (call : Call) : Option (List Arrival) :=
  match fetchExternalOrders call.reply with
  | .error _ => none
  | .ok orders => arrivals (stamped call.clock orders)

/-- The call reads a feed, and every entry of it is one that it can account for. -/
structure Stores (call : Call) (feed : List Arrival) : Prop where
  configured : externalOrdersBaseUrl call.config ≠ ""
  read : call.feed = some feed
  containable : ∀ a ∈ feed, Containable call.env a.raw

theorem syncEntries_arrivals (env : SyncEnv) {entries : List (Json × DateTime)}
    {feed : List Arrival} (h : arrivals entries = some feed) (r : SyncResult) (s : SyncSession) :
    syncEntries env entries r s = syncLoop env feed r s := by
  induction entries generalizing feed r s with
  | nil =>
    obtain rfl := Option.some.inj h
    rfl
  | cons entry rest ih =>
    obtain ⟨raw, now⟩ := entry
    cases raw with
    | obj raw =>
      obtain ⟨tail, htail, rfl⟩ := Option.map_eq_some_iff.mp h
      simp only [syncEntries, syncLoop]
      cases normalizeExternalOrder env.py now raw with
      | error exc => rfl
      | ok n => exact ih htail _ _
    | _ => cases h

/-- An entry that is no object raises where the loop comes to it, if nothing did before. -/
theorem syncEntries_raises (env : SyncEnv) {entries : List (Json × DateTime)}
    (h : arrivals entries = none) (r : SyncResult) (s : SyncSession) :
    ∃ exc, syncEntries env entries r s = .error exc := by
  induction entries generalizing r s with
  | nil => cases h
  | cons entry rest ih =>
    obtain ⟨raw, now⟩ := entry
    cases raw with
    | obj raw =>
      simp only [syncEntries]
      cases normalizeExternalOrder env.py now raw with
      | error exc => exact ⟨exc, rfl⟩
      | ok n => exact ih (Option.map_eq_none_iff.mp h) _ _
    | _ => exact ⟨_, rfl⟩

inductive Outcome (call : Call) (db : Db) : Except PyExc Answer → Db → Prop where
  | skipped (unset : externalOrdersBaseUrl call.config = "") : Outcome call db (.ok .skipped) db
  | failed {exc : FetchExc} (configured : externalOrdersBaseUrl call.config ≠ "")
      (unread : fetchExternalOrders call.reply = .error exc) :
      Outcome call db (.ok (.failed exc)) db
  | completed {feed : List Arrival} {listing : Table.Listing db.products} {r : SyncResult}
      {db' : Db} (stores : Stores call feed)
      (run : OrderSync.syncExternalOrders call.env db listing feed = .ok (r, db')) :
      Outcome call db (.ok (.completed r)) db'
  | raised {exc : PyExc} {orders : List Json} (reached : Db)
      (configured : externalOrdersBaseUrl call.config ≠ "")
      (read : fetchExternalOrders call.reply = .ok orders)
      (refused : ∀ feed, ¬ Stores call feed) : Outcome call db (.error exc) (db.rollback reached)

/-- What a call leaves: its answer, or what the rollback of a failed call leaves. -/
def Call.Leads (call : Call) (db : Db) (out : Except PyExc Answer) (db' : Db) : Prop :=
  ∃ listing : Table.Listing db.products, match syncExternalOrders call db listing with
    | .ok (answer, reached) => out = .ok answer ∧ db' = reached
    | .error exc => out = .error exc ∧ ∃ reached, db' = db.rollback reached

section Calls
variable {call : Call} {db db' : Db} {out : Except PyExc Answer}

theorem fetched_of_feed {feed : List Arrival} (h : call.feed = some feed) :
    ∃ orders, fetchExternalOrders call.reply = .ok orders ∧
      arrivals (stamped call.clock orders) = some feed := by
  rw [Call.feed] at h
  cases hfetch : fetchExternalOrders call.reply with
  | error exc =>
    rw [hfetch] at h
    cases h
  | ok orders =>
    rw [hfetch] at h
    exact ⟨orders, rfl, h⟩

/-- The session part of a call whose entries are all objects. -/
theorem syncExternalOrders_read {feed : List Arrival} (listing : Table.Listing db.products)
    (hset : externalOrdersBaseUrl call.config ≠ "") (hread : call.feed = some feed) :
    syncExternalOrders call db listing =
      (OrderSync.syncExternalOrders call.env db listing feed).map fun reached =>
        (.completed reached.1, reached.2) := by
  obtain ⟨orders, hfetch, hfeed⟩ := fetched_of_feed hread
  rw [syncExternalOrders, if_neg hset, hfetch]
  dsimp only
  rw [syncEntries_arrivals call.env hfeed, OrderSync.syncExternalOrders]
  cases syncLoop call.env feed SyncResult.zero ⟨db, productLookup call.env.py listing.rows⟩ with
  | error exc => rfl
  | ok reached =>
    dsimp only
    split <;> rfl

/-- The session part returns exactly if every entry can be accounted for. -/
theorem run_ok_iff {env : SyncEnv} {listing : Table.Listing db.products} {feed : List Arrival} :
    (∃ reached, OrderSync.syncExternalOrders env db listing feed = .ok reached) ↔
      ∀ a ∈ feed, Containable env a.raw := by
  constructor
  · rintro ⟨⟨r, db'⟩, hrun⟩
    obtain ⟨ns, hns, -⟩ := syncExternalOrders_ok_iff.mp hrun
    rw [syncExternalOrders_of_normalized hns] at hrun
    split at hrun
    next htaken =>
      have hids := congrArg (fun ids => ids.all (env.backend.takesStr (.varchar 120)))
        (normalizeFeed_sourceOrderId hns)
      simp only [List.all_map, Function.comp_def] at hids
      rw [hids, List.all_eq_true] at htaken
      intro a ha
      exact ⟨(normalizeFeed_ok_iff env.py feed).mp ⟨ns, hns⟩ a ha, htaken a ha⟩
    next => cases hrun
  · intro h
    obtain ⟨r, db', hrun, -⟩ := (contained_iff env db listing feed).mpr h
    exact ⟨(r, db'), hrun⟩

theorem Call.Leads.outcome (h : call.Leads db out db') : Outcome call db out db' := by
  obtain ⟨listing, h⟩ := h
  by_cases hset : externalOrdersBaseUrl call.config = ""
  · rw [syncExternalOrders, if_pos hset] at h
    obtain ⟨rfl, rfl⟩ := h
    exact .skipped hset
  cases hfeed : call.feed with
  | some feed =>
    rw [syncExternalOrders_read listing hset hfeed] at h
    cases hrun : OrderSync.syncExternalOrders call.env db listing feed with
    | ok reached =>
      rw [hrun] at h
      obtain ⟨rfl, rfl⟩ := h
      exact .completed ⟨hset, hfeed, run_ok_iff.mp ⟨_, hrun⟩⟩ hrun
    | error exc =>
      rw [hrun] at h
      obtain ⟨rfl, reached, rfl⟩ := h
      obtain ⟨orders, hfetch, -⟩ := fetched_of_feed hfeed
      refine .raised reached hset hfetch fun other hstores => ?_
      obtain rfl := Option.some.inj (hfeed.symm.trans hstores.read)
      obtain ⟨reached, hok⟩ :=
        (@run_ok_iff db call.env listing feed).mpr hstores.containable
      rw [hrun] at hok
      cases hok
  | none =>
    have hrefused : ∀ feed, ¬ Stores call feed := by
      intro feed hstores
      cases hfeed.symm.trans hstores.read
    rw [Call.feed] at hfeed
    rw [syncExternalOrders, if_neg hset] at h
    cases hfetch : fetchExternalOrders call.reply with
    | error exc =>
      rw [hfetch] at h
      obtain ⟨rfl, rfl⟩ := h
      exact .failed hset hfetch
    | ok orders =>
      rw [hfetch] at h hfeed
      obtain ⟨exc, hraises⟩ := syncEntries_raises call.env hfeed SyncResult.zero
        ⟨db, productLookup call.env.py listing.rows⟩
      dsimp only at h
      rw [hraises] at h
      obtain ⟨rfl, reached, rfl⟩ := h
      exact .raised reached hset hfetch hrefused

end Calls

inductive Step where
  | sync (call : Call) (out : Except PyExc Answer)
  | other (call : OrderCall)

/-- The calls of the background loop and of the clients, in the order in which they come,
with the other writers of orders between them. What a call raises the loop logs before it
goes on, and a client is answered with a 500. -/
inductive Runs (start : Db) : List Step → Db → Prop where
  | start : Runs start [] start
  | sync {steps : List Step} {db db' : Db} {call : Call} {out : Except PyExc Answer} :
      Runs start steps db → call.Leads db out db' → Runs start (steps ++ [.sync call out]) db'
  | other {steps : List Step} {db db' : Db} (call : OrderCall) : Runs start steps db →
      (∀ env feed, call ≠ .sync env feed) → call.Leads db db' →
      Runs start (steps ++ [.other call]) db'

/-- The source ids of the feed. -/
def Call.ids (call : Call) : List String :=
  (call.feed.getD []).map fun a => sourceOrderId call.env.py a.raw

/-- What the step adds to the audit table. -/
def Step.noted : Step → List String
  | .sync call (.ok (.completed _)) => call.ids
  | _ => []

/-- What the call and its answer have to do with each other. -/
structure Answered (call : Call) (out : Except PyExc Answer) : Prop where
  skipped : out = .ok .skipped ↔ externalOrdersBaseUrl call.config = ""
  failed : ∀ exc, out = .ok (.failed exc) ↔
    externalOrdersBaseUrl call.config ≠ "" ∧ fetchExternalOrders call.reply = .error exc
  completed : (∃ r, out = .ok (.completed r)) ↔ ∃ feed, Stores call feed
  counted : ∀ r, out = .ok (.completed r) → r.created + r.updated + r.failed = call.ids.length

section Outcomes
variable {call : Call} {db db' : Db} {out : Except PyExc Answer}

theorem Outcome.answered (h : Outcome call db out db') : Answered call out := by
  cases h with
  | skipped unset =>
    refine ⟨⟨fun _ => unset, fun _ => rfl⟩, fun exc => ⟨?_, fun k => absurd unset k.1⟩,
      ⟨?_, ?_⟩, ?_⟩
    · rintro ⟨⟩
    · rintro ⟨r, ⟨⟩⟩
    · rintro ⟨feed, k⟩
      exact absurd unset k.configured
    · rintro r ⟨⟩
  | failed configured unread =>
    refine ⟨⟨?_, fun unset => absurd unset configured⟩, fun exc => ⟨?_, ?_⟩,
      ⟨?_, ?_⟩, ?_⟩
    · rintro ⟨⟩
    · rintro ⟨⟩
      exact ⟨configured, unread⟩
    · rintro ⟨-, k⟩
      obtain rfl := Except.error.inj (unread.symm.trans k)
      rfl
    · rintro ⟨r, ⟨⟩⟩
    · rintro ⟨feed, k⟩
      obtain ⟨orders, hread, -⟩ := fetched_of_feed k.read
      cases unread.symm.trans hread
    · rintro r ⟨⟩
  | @completed feed listing r db' stores run =>
    obtain ⟨orders, hread, -⟩ := fetched_of_feed stores.read
    refine ⟨⟨?_, fun unset => absurd unset stores.configured⟩, fun exc => ⟨?_, ?_⟩,
      ⟨fun _ => ⟨feed, stores⟩, fun _ => ⟨r, rfl⟩⟩, ?_⟩
    · rintro ⟨⟩
    · rintro ⟨⟩
    · rintro ⟨-, k⟩
      cases hread.symm.trans k
    · rintro r ⟨⟩
      obtain ⟨r, db', hrun, hsum, -⟩ := (contained_iff call.env db listing feed).mpr
        stores.containable
      obtain ⟨rfl, rfl⟩ := Prod.mk.inj (Except.ok.inj (run.symm.trans hrun))
      rw [Call.ids, stores.read, Option.getD_some, List.length_map, hsum]
  | raised reached configured read refused =>
    refine ⟨⟨?_, fun unset => absurd unset configured⟩, fun exc => ⟨?_, ?_⟩,
      ⟨?_, ?_⟩, ?_⟩
    · rintro ⟨⟩
    · rintro ⟨⟩
    · rintro ⟨-, k⟩
      cases read.symm.trans k
    · rintro ⟨r, ⟨⟩⟩
    · rintro ⟨feed, k⟩
      exact absurd k (refused feed)
    · rintro r ⟨⟩

theorem Outcome.noted (h : Outcome call db out db') :
    ∃ rows, db'.orderSyncAudit = db.orderSyncAudit ++ rows ∧
      rows.map OrderSyncAudit.sourceOrderId = (Step.sync call out).noted := by
  cases h with
  | skipped unset => exact ⟨[], (List.append_nil _).symm, rfl⟩
  | failed configured unread => exact ⟨[], (List.append_nil _).symm, rfl⟩
  | @completed feed listing r db' stores run =>
    obtain ⟨r, db', hrun, -, rows, hrows, hids⟩ := (contained_iff call.env db listing feed).mpr
      stores.containable
    obtain ⟨rfl, rfl⟩ := Prod.mk.inj (Except.ok.inj (run.symm.trans hrun))
    refine ⟨rows, hrows, ?_⟩
    rw [hids, Step.noted, Call.ids, stores.read, Option.getD_some]
  | raised reached configured read refused => exact ⟨[], (List.append_nil _).symm, rfl⟩

/-- A feed that is not stored leaves every row as it was. -/
theorem Outcome.sameRows (h : Outcome call db out db') (refused : ∀ feed, ¬ Stores call feed) :
    Db.SameRows db' db := by
  cases h with
  | skipped unset => exact Db.SameRows.refl db
  | failed configured unread => exact Db.SameRows.refl db
  | completed stores run => exact absurd stores (refused _)
  | raised reached configured read refused => exact Db.rollback_sameRows db reached

end Outcomes

/-- The step as a pass of the sync that returned, if it is one. -/
def Step.pass : Step → Option Pass
  | .sync call (.ok (.completed r)) => some ⟨call.env, call.feed.getD [], r⟩
  | _ => none

/-- To the tables a run of calls is one of passes that return and passes that raise. -/
theorem Runs.passes {start db : Db} {steps : List Step} (h : Runs start steps db) :
    Passes start (steps.filterMap Step.pass) db := by
  induction h with
  | start => exact .start
  | @sync steps db db' call out _ hleads ih =>
    simp only [List.filterMap_append, List.filterMap_cons, List.filterMap_nil]
    cases hleads.outcome with
    | skipped unset => simpa only [Step.pass, List.append_nil] using ih
    | failed configured unread => simpa only [Step.pass, List.append_nil] using ih
    | completed stores run =>
      simp only [Step.pass, stores.read, Option.getD_some]
      exact .returned ⟨call.env, _, _⟩ _ ih run
    | raised reached configured read refused =>
      simpa only [Step.pass, List.append_nil] using Passes.raised reached ih
  | other call _ hother hleads ih =>
    simp only [List.filterMap_append, List.filterMap_cons, Step.pass, List.filterMap_nil,
      List.append_nil]
    exact .other call ih hother hleads

theorem Runs.noted {start db : Db} {steps : List Step} (h : Runs start steps db) :
    ∃ rows, db.orderSyncAudit = start.orderSyncAudit ++ rows ∧
      rows.map OrderSyncAudit.sourceOrderId = steps.flatMap Step.noted := by
  induction h with
  | start => exact ⟨[], (List.append_nil _).symm, rfl⟩
  | @sync steps db db' call out _ hleads ih =>
    obtain ⟨rows, hrows, hids⟩ := ih
    obtain ⟨more, hmore, hnoted⟩ := hleads.outcome.noted
    refine ⟨rows ++ more, by rw [hmore, hrows, List.append_assoc], ?_⟩
    rw [List.map_append, hids, hnoted, List.flatMap_append, List.flatMap_singleton]
  | other call _ hother hleads ih =>
    obtain ⟨rows, hrows, hids⟩ := ih
    refine ⟨rows, (other_unlogged hother hleads).audits.trans hrows, ?_⟩
    rw [hids, List.flatMap_append, List.flatMap_singleton]
    exact (List.append_nil _).symm

theorem Runs.answered {start db : Db} {steps : List Step} (h : Runs start steps db) :
    ∀ call out, Step.sync call out ∈ steps → Answered call out := by
  induction h with
  | start => exact fun _ _ hmem => absurd hmem List.not_mem_nil
  | sync _ hleads ih =>
    intro call out hmem
    rcases List.mem_append.mp hmem with hmem | hmem
    · exact ih call out hmem
    · cases List.mem_singleton.mp hmem
      exact hleads.outcome.answered
  | other call _ hother hleads ih =>
    intro call out hmem
    rcases List.mem_append.mp hmem with hmem | hmem
    · exact ih call out hmem
    · cases List.mem_singleton.mp hmem

/-- A call whose feed is not stored. -/
def Step.Idle : Step → Prop
  | .sync call _ => ∀ feed, ¬ Stores call feed
  | .other _ => False

theorem Runs.idle {start db : Db} {steps : List Step} (h : Runs start steps db)
    (idle : ∀ step ∈ steps, step.Idle) : Db.SameRows db start := by
  induction h with
  | start => exact Db.SameRows.refl start
  | sync _ hleads ih =>
    have hsame := hleads.outcome.sameRows
      (idle _ (List.mem_append_right _ (List.mem_singleton_self _)))
    exact hsame.trans (ih fun step hmem => idle step (List.mem_append_left _ hmem))
  | other call _ hother hleads ih =>
    exact (idle _ (List.mem_append_right _ (List.mem_singleton_self _))).elim

/-- In every run of calls, among other writers of orders: each call is answered by its
configuration and its feed, and completed exactly if the feed has none but objects that
normalise and whose source id the audit table takes; the table has gained the ids of the
completed feeds, each entry once and in order; to the tables the run is one of passes; and
where no feed can be stored, no row changes, however long that goes on. -/
theorem feeds_accounted {start db : Db} {steps : List Step} (h : Runs start steps db) :
    (∀ call out, Step.sync call out ∈ steps → Answered call out) ∧
      (∃ rows, db.orderSyncAudit = start.orderSyncAudit ++ rows ∧
        rows.map OrderSyncAudit.sourceOrderId = steps.flatMap Step.noted) ∧
      Passes start (steps.filterMap Step.pass) db ∧
      ((∀ step ∈ steps, step.Idle) → Db.SameRows db start) :=
  ⟨h.answered, h.noted, h.passes, h.idle⟩

/-- The call with this answer of the service. -/
def sampleCall (payload : Json) : Call where
  config := ⟨"https://shop.example.com", "", "", ""⟩
  env := sampleEnv
  reply := .answered 200 (some payload)
  clock := fun _ => 0

/-- A feed under the second of the keys, and a feed with the same order and an entry that
is no object. -/
def goodCall : Call := sampleCall (.obj [("items", .arr [.obj bareOrder.raw])])

def heldCall : Call := sampleCall (.arr [.obj bareOrder.raw, .str "A-2"])

/-- A call with the products in the order of their ids. -/
def afterCall (call : Call) (db : Db) : Except PyExc Answer × Db :=
  match syncExternalOrders call db db.products.listing with
  | .ok (answer, reached) => (.ok answer, reached)
  | .error exc => (.error exc, db.rollback db)

theorem afterCall_leads (call : Call) (db : Db) :
    call.Leads db (afterCall call db).1 (afterCall call db).2 := by
  refine ⟨db.products.listing, ?_⟩
  unfold afterCall
  rcases syncExternalOrders call db db.products.listing with exc | ⟨answer, reached⟩
  · exact ⟨rfl, db, rfl⟩
  · exact ⟨rfl, rfl⟩

theorem feeds_accounted_sample :
    (afterCall goodCall (afterCall heldCall Db.empty).2).2.orderSyncAudit.map
        OrderSyncAudit.sourceOrderId = ["A-1"] ∧
      ¬ ∃ feed, Stores heldCall feed := by
  have hheld : (afterCall heldCall Db.empty).1.toOption.isNone = true := by decide +kernel
  obtain ⟨hanswered, ⟨rows, hrows, hids⟩, -⟩ := feeds_accounted
    (.sync (.sync .start (afterCall_leads heldCall Db.empty)) (afterCall_leads goodCall _))
  constructor
  · rw [hrows]
    exact hids.trans (by decide +kernel)
  · intro hstores
    have hheldAnswered := hanswered heldCall (afterCall heldCall Db.empty).1
      (List.mem_append_left _ (List.mem_singleton_self _))
    obtain ⟨r, hr⟩ := hheldAnswered.completed.mpr hstores
    rw [hr] at hheld
    cases hheld

end SyncFeed
