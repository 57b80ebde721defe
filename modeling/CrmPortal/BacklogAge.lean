import CrmPortal.OrderSyncSpec

/-!
# The age of the backlog

`_parse_dt` keeps the wall clock of a timestamp and drops its offset, and the summary
compares what was stored with a UTC clock. An order of a feed is written once, when its
source id is new, so that a run adds one row for each entry that it stores.
-/

namespace BacklogAge

open PyValue IdentityTable Transaction CrmDatabase OrderNormalization OrderSync OrderSyncSpec

/-- `atLeast` is the server's `>=` on floats, which orders a NaN as well. -/
structure SummaryConfig where
  backlogOrderAgeMinutes : Int
  suspiciousOrderTotalThreshold : PyFloat
  atLeast : PyFloat → PyFloat → Bool

structure OrderSecuritySummary where
  totalOrders : Nat
  backlogOrders : Nat
  staleBacklogOrders : Nat
  suspiciousTotals : Nat
  failedSyncs : Nat
  suspiciousOrderTotal : PyFloat
  backlogAgeMinutes : Int

/-- In microseconds. -/
def minute : Int := 60000000

def staleCutoff (config : SummaryConfig) (now : DateTime) : DateTime :=
  now - max config.backlogOrderAgeMinutes 1 * minute

def inBacklog (order : Order) : Bool := decide (order.backlogStatus = some "backlog")

/-- A NULL is not before anything. -/
def createdBefore (cutoff : DateTime) (order : Order) : Bool :=
  order.createdAt.any fun created => decide (created < cutoff)

def stale (cutoff : DateTime) (order : Order) : Bool :=
  inBacklog order && createdBefore cutoff order

def orderSecuritySummary (config : SummaryConfig) (now : DateTime) (db : Db) :
    OrderSecuritySummary where
  totalOrders := db.orders.count
  backlogOrders := db.orders.countWhere inBacklog
  staleBacklogOrders := db.orders.countWhere (stale (staleCutoff config now))
  suspiciousTotals := db.orders.countWhere fun order =>
    config.atLeast order.total config.suspiciousOrderTotalThreshold
  failedSyncs := db.orderSyncAudit.countP fun row => decide (row.syncStatus = "failed")
  suspiciousOrderTotal := config.suspiciousOrderTotalThreshold
  backlogAgeMinutes := config.backlogOrderAgeMinutes

def createdValue (raw : Obj) : Json :=
  ((raw.get "created_at").or (raw.get "created")).or (raw.get "submitted_at")

/-- What the parser makes of the entry's text, offset included. -/
def stampOf (py : Builtins) (raw : Obj) : Option IsoStamp :=
  match createdValue raw with
  | .str s => if s = "" then none else py.fromisoformat (s.replace "Z" "+00:00")
  | _ => none

/-- The point in time in UTC; without an offset the clock is taken for UTC. -/
def instant (stamp : IsoStamp) : DateTime := stamp.wall - stamp.offset.getD 0

theorem parseDt_of_stamp {py : Builtins} {now : DateTime} {raw : Obj} {stamp : IsoStamp}
    (h : stampOf py raw = some stamp) : parseDt py now (createdValue raw) = stamp.wall := by
  unfold stampOf at h
  rcases hvalue : createdValue raw with _ | b | n | x | s | xs | fields
  case str =>
    rw [hvalue] at h
    by_cases hs : s = ""
    · simp [hs] at h
    · simp only [if_neg hs] at h
      simp [parseDt, hs, h]
  all_goals
    rw [hvalue] at h
    cases h

theorem normalize_fields {py : Builtins} {now : DateTime} {raw : Obj} {n : NormalizedOrder}
    (h : normalizeExternalOrder py now raw = .ok n) :
    n.createdAt = parseDt py now (createdValue raw) ∧ n.status = orderStatus py raw := by
  simp only [normalizeExternalOrder, bind_ok_iff] at h
  obtain ⟨_, _, _, _, _, _, _, _, _, _, _, _, _, _, hn⟩ := h
  cases hn
  exact ⟨rfl, rfl⟩

section Run
variable {env : SyncEnv} {n : NormalizedOrder} {s : SyncSession}

def orderKey (env : SyncEnv) (id : String) : String × String := (env.sourceName, id)

/-- Entries of other source ids leave the lookup of an order alone. -/
theorem find_frame {ids : List String} {a b : Db} {id : String} (h : Frame env ids a b)
    (hid : id ∉ ids) : b.orders.find (orderKey env id) = a.orders.find (orderKey env id) := by
  have hapart : ∀ order : Order, order.sourceKey = some (orderKey env id) →
      Apart env ids order := by
    intro order hkey other hother hsame
    obtain ⟨-, rfl⟩ := Prod.mk.inj (Option.some.inj (hkey.symm.trans hsame))
    exact hid hother
  apply Option.ext
  intro i
  rw [Table.find_eq_some_iff, Table.find_eq_some_iff]
  constructor
  · rintro ⟨order, hrow, hkey⟩
    exact ⟨order, (h.others i order (hapart order hkey)).mp hrow, hkey⟩
  · rintro ⟨order, hrow, hkey⟩
    exact ⟨order, (h.others i order (hapart order hkey)).mpr hrow, hkey⟩

/-- An entry whose source id is new adds its order, or leaves the orders alone. -/
theorem syncEntry_new (hnew : s.db.orders.find (orderKey env n.sourceOrderId) = none) :
    (∃ customerId notes address id,
      s.db.orders.insert (newOrder env customerId n notes address) =
        some (id, (syncEntry env n s).2.db.orders)) ∨
    ∀ i, (syncEntry env n s).2.db.orders.row i = s.db.orders.row i := by
  rcases syncEntry_cases env n s with ⟨_, he⟩ | ⟨_, action, id, t, hstore, he⟩ | ⟨_, exc, m, _, he⟩
  · rw [he]
    exact Or.inr fun _ => rfl
  · obtain ⟨customerId, customers, orders, ids, c, _, horder, _, _, _, rfl⟩ := storeEntry_ok hstore
    obtain ⟨notes, address, _, ⟨_, _, _, hinsert⟩ | ⟨hfound, _, _⟩⟩ := upsertOrder_ok_iff.mp horder
    · rw [he]
      exact Or.inl ⟨customerId, notes, address, id, hinsert⟩
    · rw [orderKey, hfound] at hnew
      cases hnew
  · rw [he]
    exact Or.inr fun _ => rfl

/-- The entry's order as the summary reads it. -/
structure ReadsAs (n : NormalizedOrder) (order : Order) : Prop where
  createdAt : order.createdAt = some n.createdAt
  backlogStatus : order.backlogStatus = some n.backlogStatus

theorem syncEntry_reads (hnew : s.db.orders.find (orderKey env n.sourceOrderId) = none) {id : Nat}
    (hid : (syncEntry env n s).2.db.orders.find (orderKey env n.sourceOrderId) = some id) :
    ∃ order, (syncEntry env n s).2.db.orders.row id = some order ∧
      order.sourceKey = some (orderKey env n.sourceOrderId) ∧ ReadsAs n order := by
  rcases syncEntry_new hnew with ⟨customerId, notes, address, here, hinsert⟩ | hsame
  · obtain ⟨-, -, -, hrow⟩ := Table.insert_eq_some hinsert
    have hnewRow := (hrow here).trans (if_pos rfl)
    have hfind := (Table.find_eq_some_iff _ (orderKey env n.sourceOrderId) here).mpr
      ⟨_, hnewRow, rfl⟩
    obtain rfl : here = id := Option.some.inj (hfind.symm.trans hid)
    exact ⟨_, hnewRow, rfl, rfl, rfl⟩
  · rw [Table.find_congr hsame, hnew] at hid
    cases hid

def staleEntry (cutoff : DateTime) (n : NormalizedOrder) : Bool :=
  decide (n.backlogStatus = "backlog") && decide (n.createdAt < cutoff)

theorem stale_of_reads {cutoff : DateTime} {order : Order} (h : ReadsAs n order) :
    stale cutoff order = staleEntry cutoff n := by
  simp [stale, inBacklog, createdBefore, staleEntry, h.createdAt, h.backlogStatus]

/-- The entry is counted if it was stored. -/
theorem syncEntry_count (hnew : s.db.orders.find (orderKey env n.sourceOrderId) = none)
    (cutoff : DateTime) :
    (syncEntry env n s).2.db.orders.countWhere (stale cutoff) =
      s.db.orders.countWhere (stale cutoff) +
        if ((syncEntry env n s).2.db.orders.find (orderKey env n.sourceOrderId)).isSome &&
          staleEntry cutoff n then 1 else 0 := by
  rcases syncEntry_new hnew with ⟨customerId, notes, address, here, hinsert⟩ | hsame
  · obtain ⟨-, -, -, hrow⟩ := Table.insert_eq_some hinsert
    have hfind := (Table.find_eq_some_iff _ (orderKey env n.sourceOrderId) here).mpr
      ⟨_, (hrow here).trans (if_pos rfl), rfl⟩
    rw [Table.countWhere_insert hinsert, stale_of_reads (n := n) ⟨rfl, rfl⟩, hfind]
    rfl
  · rw [Table.countWhere_congr hsame, Table.find_congr hsame, hnew]
    rfl

/-- The source ids of the entries are new, each to the orders and to the others. -/
structure NewIds (env : SyncEnv) (ns : List NormalizedOrder) (s : SyncSession) : Prop where
  absent : ∀ n ∈ ns, s.db.orders.find (orderKey env n.sourceOrderId) = none
  distinct : (ns.map NormalizedOrder.sourceOrderId).Nodup

theorem NewIds.head {rest : List NormalizedOrder} (h : NewIds env (n :: rest) s) :
    s.db.orders.find (orderKey env n.sourceOrderId) = none ∧
      n.sourceOrderId ∉ rest.map NormalizedOrder.sourceOrderId :=
  ⟨h.absent n List.mem_cons_self, (List.nodup_cons.mp h.distinct).1⟩

theorem NewIds.tail {rest : List NormalizedOrder} (h : NewIds env (n :: rest) s) :
    NewIds env rest (syncEntry env n s).2 where
  absent := by
    intro m hm
    have hother : m.sourceOrderId ∉ [n.sourceOrderId] := by
      intro hsame
      exact h.head.2 (List.mem_singleton.mp hsame ▸ List.mem_map_of_mem hm)
    rw [find_frame (syncEntry_frame env n s) hother]
    exact h.absent m (List.mem_cons_of_mem n hm)
  distinct := (List.nodup_cons.mp h.distinct).2

theorem find_head {rest : List NormalizedOrder} (h : NewIds env (n :: rest) s) :
    (syncAll env (n :: rest) s).2.db.orders.find (orderKey env n.sourceOrderId) =
      (syncEntry env n s).2.db.orders.find (orderKey env n.sourceOrderId) :=
  find_frame (syncAll_frame env rest (syncEntry env n s).2) h.head.2

/-- An order that the run stored is found as its entry has it. -/
theorem syncAll_reads {ns : List NormalizedOrder} (h : NewIds env ns s) {id : Nat}
    (hmem : n ∈ ns)
    (hid : (syncAll env ns s).2.db.orders.find (orderKey env n.sourceOrderId) = some id) :
    ∃ order, (syncAll env ns s).2.db.orders.row id = some order ∧ ReadsAs n order := by
  induction ns generalizing s with
  | nil => cases hmem
  | cons first rest ih =>
    rcases List.mem_cons.mp hmem with rfl | hrest
    · rw [find_head h] at hid
      obtain ⟨order, hrow, hkey, hreads⟩ := syncEntry_reads h.head.1 hid
      have hapart : Apart env (rest.map NormalizedOrder.sourceOrderId) order := by
        intro other hother hsame
        obtain ⟨-, rfl⟩ := Prod.mk.inj (Option.some.inj (hkey.symm.trans hsame))
        exact h.head.2 hother
      exact ⟨order, ((syncAll_frame env rest _).others id order hapart).mpr hrow, hreads⟩
    · exact ih h.tail hrest hid

/-- Each stored entry that is stale adds one to the count. -/
theorem syncAll_count {ns : List NormalizedOrder} (h : NewIds env ns s) (cutoff : DateTime) :
    (syncAll env ns s).2.db.orders.countWhere (stale cutoff) =
      s.db.orders.countWhere (stale cutoff) +
        ns.countP fun n =>
          ((syncAll env ns s).2.db.orders.find (orderKey env n.sourceOrderId)).isSome &&
            staleEntry cutoff n := by
  induction ns generalizing s with
  | nil => rfl
  | cons n rest ih =>
    have hrest : (syncAll env (n :: rest) s).2.db.orders.countWhere (stale cutoff) =
        (syncEntry env n s).2.db.orders.countWhere (stale cutoff) +
          rest.countP fun m => ((syncAll env (n :: rest) s).2.db.orders.find
            (orderKey env m.sourceOrderId)).isSome && staleEntry cutoff m := ih h.tail
    rw [hrest, syncEntry_count h.head.1 cutoff, ← find_head h, List.countP_cons]
    omega

end Run

/-- Every entry is a backlog order with a timestamp that parses, and its source id is new. -/
structure FirstSync (env : SyncEnv) (db : Db) (feed : List Arrival) : Prop where
  backlog : ∀ a ∈ feed, backlogStatus (orderStatus env.py a.raw) = "backlog"
  stamped : ∀ a ∈ feed, ∃ stamp, stampOf env.py a.raw = some stamp
  absent : ∀ a ∈ feed, db.orders.find (orderKey env (sourceOrderId env.py a.raw)) = none
  distinct : (feed.map fun a => sourceOrderId env.py a.raw).Nodup

def synced (env : SyncEnv) (db : Db) (a : Arrival) : Bool :=
  (db.orders.find (orderKey env (sourceOrderId env.py a.raw))).isSome

/-- The instant of the order lies before the cutoff. -/
def instantBefore (py : Builtins) (cutoff : DateTime) (a : Arrival) : Bool :=
  (stampOf py a.raw).any fun stamp => decide (instant stamp < cutoff)

def wallBefore (py : Builtins) (cutoff : DateTime) (a : Arrival) : Bool :=
  (stampOf py a.raw).any fun stamp => decide (stamp.wall < cutoff)

/-- The order is one of those in `stale_backlog_orders`. -/
def Counted (cutoff : DateTime) (db : Db) (id : Nat) : Prop :=
  ∃ order, db.orders.row id = some order ∧ stale cutoff order = true

/-- The orders of the feed that are counted are those whose instant lies before the
cutoff, and the count has grown by their number. -/
structure CountsByInstant (env : SyncEnv) (config : SummaryConfig) (now : DateTime)
    (feed : List Arrival) (db db' : Db) : Prop where
  each : ∀ a ∈ feed, ∀ id,
    db'.orders.find (orderKey env (sourceOrderId env.py a.raw)) = some id →
      (Counted (staleCutoff config now) db' id ↔
        instantBefore env.py (staleCutoff config now) a = true)
  total : (orderSecuritySummary config now db').staleBacklogOrders =
    (orderSecuritySummary config now db).staleBacklogOrders +
      feed.countP fun a => synced env db' a && instantBefore env.py (staleCutoff config now) a

/-- The cutoff does not lie between the instant and the wall clock. -/
def SameSide (cutoff : DateTime) (stamp : IsoStamp) : Prop :=
  ¬ (instant stamp < cutoff ∧ cutoff ≤ stamp.wall) ∧
    ¬ (stamp.wall < cutoff ∧ cutoff ≤ instant stamp)

theorem sameSide_iff {cutoff : DateTime} {stamp : IsoStamp} :
    SameSide cutoff stamp ↔ (stamp.wall < cutoff ↔ instant stamp < cutoff) := by
  unfold SameSide
  constructor
  · rintro ⟨hearly, hlate⟩
    constructor
    · intro hwall
      by_contra hinstant
      exact hlate ⟨hwall, Int.not_lt.mp hinstant⟩
    · intro hinstant
      by_contra hwall
      exact hearly ⟨hinstant, Int.not_lt.mp hwall⟩
  · intro h
    exact ⟨fun hboth => Int.not_lt.mpr hboth.2 (h.mpr hboth.1),
      fun hboth => Int.not_lt.mpr hboth.2 (h.mp hboth.1)⟩

section FirstSync
variable {env : SyncEnv} {config : SummaryConfig} {now cutoff : DateTime} {db db' : Db}
  {listing : Table.Listing db.products} {feed : List Arrival} {r : SyncResult}

theorem normalizeFeed_mem {py : Builtins} {ns : List NormalizedOrder}
    (h : normalizeFeed py feed = .ok ns) {a : Arrival} (ha : a ∈ feed) :
    ∃ n ∈ ns, normalizeExternalOrder py a.now a.raw = .ok n := by
  induction feed generalizing ns with
  | nil => cases ha
  | cons entry rest ih =>
    obtain ⟨n, tail, hn, htail, rfl⟩ := normalizeFeed_cons_ok_iff.mp h
    rcases List.mem_cons.mp ha with rfl | hrest
    · exact ⟨n, List.mem_cons_self, hn⟩
    · obtain ⟨m, hm, hnormal⟩ := ih htail hrest
      exact ⟨m, List.mem_cons_of_mem n hm, hnormal⟩

/-- Two conditions that agree on each entry and its normal form hold equally often. -/
theorem normalizeFeed_countP {py : Builtins} {ns : List NormalizedOrder}
    (h : normalizeFeed py feed = .ok ns) {p : NormalizedOrder → Bool} {q : Arrival → Bool}
    (hsame : ∀ a ∈ feed, ∀ n, normalizeExternalOrder py a.now a.raw = .ok n → p n = q a) :
    ns.countP p = feed.countP q := by
  induction feed generalizing ns with
  | nil =>
    obtain rfl := Except.ok.inj h
    rfl
  | cons entry rest ih =>
    obtain ⟨n, tail, hn, htail, rfl⟩ := normalizeFeed_cons_ok_iff.mp h
    obtain ⟨hhere, hrest⟩ := List.forall_mem_cons.mp hsame
    rw [List.countP_cons, List.countP_cons, ih htail hrest, hhere n hn]

/-- An entry of such a feed is stale by its wall clock. -/
theorem staleEntry_eq {a : Arrival} {n : NormalizedOrder}
    (hn : normalizeExternalOrder env.py a.now a.raw = .ok n)
    (hbacklog : backlogStatus (orderStatus env.py a.raw) = "backlog")
    (hstamped : ∃ stamp, stampOf env.py a.raw = some stamp) :
    staleEntry cutoff n = wallBefore env.py cutoff a := by
  obtain ⟨stamp, hstamp⟩ := hstamped
  obtain ⟨hcreated, hstatus⟩ := normalize_fields hn
  have hflag : n.backlogStatus = "backlog" := by
    rw [normalize_backlogStatus hn, hstatus, hbacklog]
  simp [staleEntry, wallBefore, hflag, hcreated, parseDt_of_stamp hstamp, hstamp]

theorem newIds_of_firstSync {ns : List NormalizedOrder} (hns : normalizeFeed env.py feed = .ok ns)
    (hfirst : FirstSync env db feed) : NewIds env ns (startSession env db listing) where
  absent := by
    intro n hn
    have hid : n.sourceOrderId ∈ feed.map fun a => sourceOrderId env.py a.raw :=
      normalizeFeed_sourceOrderId hns ▸ List.mem_map_of_mem hn
    obtain ⟨a, ha, hsame⟩ := List.mem_map.mp hid
    rw [← hsame]
    exact hfirst.absent a ha
  distinct := by
    rw [normalizeFeed_sourceOrderId hns]
    exact hfirst.distinct

/-- The summary goes by the wall clock. -/
theorem counted_iff_wallBefore (hrun : syncExternalOrders env db listing feed = .ok (r, db'))
    (hfirst : FirstSync env db feed) {a : Arrival} (ha : a ∈ feed) {id : Nat}
    (hid : db'.orders.find (orderKey env (sourceOrderId env.py a.raw)) = some id) :
    Counted cutoff db' id ↔ wallBefore env.py cutoff a = true := by
  obtain ⟨ns, hns, -, rfl, -⟩ := syncExternalOrders_ok_iff.mp hrun
  obtain ⟨n, hmem, hn⟩ := normalizeFeed_mem hns ha
  rw [← normalize_sourceOrderId hn] at hid
  obtain ⟨order, hrow, hreads⟩ := syncAll_reads (newIds_of_firstSync hns hfirst) hmem hid
  rw [← staleEntry_eq hn (hfirst.backlog a ha) (hfirst.stamped a ha), ← stale_of_reads hreads]
  constructor
  · rintro ⟨order', hrow', hstale⟩
    obtain rfl := Option.some.inj (hrow.symm.trans hrow')
    exact hstale
  · intro hstale
    exact ⟨order, hrow, hstale⟩

theorem total_of_wallBefore (hrun : syncExternalOrders env db listing feed = .ok (r, db'))
    (hfirst : FirstSync env db feed) :
    db'.orders.countWhere (stale cutoff) = db.orders.countWhere (stale cutoff) +
      feed.countP fun a => synced env db' a && wallBefore env.py cutoff a := by
  obtain ⟨ns, hns, -, rfl, -⟩ := syncExternalOrders_ok_iff.mp hrun
  have hnew : NewIds env ns (startSession env db listing) := newIds_of_firstSync hns hfirst
  rw [syncAll_count hnew cutoff]
  congr 1
  refine normalizeFeed_countP hns fun a ha n hn => ?_
  rw [staleEntry_eq hn (hfirst.backlog a ha) (hfirst.stamped a ha), normalize_sourceOrderId hn]
  rfl

/-- Instants and wall clocks agree on the stored entries, each and all. -/
theorem instantBefore_iff {a : Arrival} {stamp : IsoStamp} (h : stampOf env.py a.raw = some stamp) :
    SameSide cutoff stamp ↔
      (wallBefore env.py cutoff a = true ↔ instantBefore env.py cutoff a = true) := by
  rw [sameSide_iff]
  simp [wallBefore, instantBefore, h]

/-- The orders of a first sync are counted by their instants exactly when, for each that is
stored, the cutoff does not fall between the instant and the wall clock. -/
theorem counts_by_instant_iff (hrun : syncExternalOrders env db listing feed = .ok (r, db'))
    (hfirst : FirstSync env db feed) :
    CountsByInstant env config now feed db db' ↔
      ∀ a ∈ feed, synced env db' a = true → ∀ stamp, stampOf env.py a.raw = some stamp →
        SameSide (staleCutoff config now) stamp := by
  constructor
  · intro hcounts a ha hsynced stamp hstamp
    obtain ⟨id, hid⟩ := Option.isSome_iff_exists.mp hsynced
    rw [instantBefore_iff hstamp, ← counted_iff_wallBefore hrun hfirst ha hid]
    exact hcounts.each a ha id hid
  · intro hside
    have hsame : ∀ a ∈ feed, synced env db' a = true →
        (wallBefore env.py (staleCutoff config now) a = true ↔
          instantBefore env.py (staleCutoff config now) a = true) := by
      intro a ha hsynced
      obtain ⟨stamp, hstamp⟩ := hfirst.stamped a ha
      exact (instantBefore_iff hstamp).mp (hside a ha hsynced stamp hstamp)
    refine ⟨fun a ha id hid => ?_, ?_⟩
    · rw [counted_iff_wallBefore hrun hfirst ha hid]
      exact hsame a ha (Option.isSome_of_eq_some hid)
    · refine (total_of_wallBefore hrun hfirst).trans ?_
      congr 1
      refine List.countP_congr fun a ha => ?_
      rw [Bool.and_eq_true, Bool.and_eq_true]
      exact and_congr_right (hsame a ha)

end FirstSync

/-- 13:00 at two hours east of Greenwich. -/
def eastStamp : IsoStamp := ⟨1777640400000000, some (120 * minute)⟩

/-- There is no Z to replace in it. -/
def eastText : String := "2026-05-01T13:00:00+02:00"

def eastEnv : SyncEnv :=
  { sampleEnv with py := { sampleEnv.py with
    fromisoformat := fun text =>
      if text = eastText.replace "Z" "+00:00" then some eastStamp else none } }

def eastFeed : List Arrival :=
  [⟨[("id", .str "A-1"), ("customer_email", .str "ann@example.com"),
    ("created_at", .str eastText)], 1777635000000000⟩]

/-- Half an hour before 12:30 in UTC. -/
def halfHour : SummaryConfig := ⟨30, .fin 5000, fun x y => y.le x⟩

def halfPastTwelve : DateTime := 1777638600000000

theorem eastFeed_stamp : ∀ a ∈ eastFeed, stampOf eastEnv.py a.raw = some eastStamp := by
  intro a ha
  obtain rfl := List.mem_singleton.mp ha
  exact if_pos rfl

theorem eastFeed_first : FirstSync eastEnv Db.empty eastFeed where
  backlog := by
    intro a ha
    obtain rfl := List.mem_singleton.mp ha
    decide +kernel
  stamped := fun a ha => ⟨eastStamp, eastFeed_stamp a ha⟩
  absent := fun _ _ => rfl
  distinct := List.nodup_singleton _

theorem eastFeed_synced :
    ∃ x, syncExternalOrders eastEnv Db.empty (Table.listing _) eastFeed = .ok x ∧
    decide (x.2.orders.find (orderKey eastEnv "A-1") = some 1) = true :=
  exists_ok_of_any (p := fun x : SyncResult × Db =>
    decide (x.2.orders.find (orderKey eastEnv "A-1") = some 1)) (by decide +kernel)

/-- Three hours later both readings of the stamp are old. -/
def halfPastThree : DateTime := halfPastTwelve + 180 * minute

theorem counts_by_instant_east : ∃ r db',
    syncExternalOrders eastEnv Db.empty (Table.listing _) eastFeed = .ok (r, db') ∧
      CountsByInstant eastEnv halfHour halfPastThree eastFeed Db.empty db' := by
  obtain ⟨⟨r, db'⟩, hrun, -⟩ := eastFeed_synced
  refine ⟨r, db', hrun, (counts_by_instant_iff hrun eastFeed_first).mpr ?_⟩
  intro a ha _ stamp hstamp
  obtain rfl := Option.some.inj ((eastFeed_stamp a ha).symm.trans hstamp)
  rw [sameSide_iff]
  decide

/-- The order is an hour and a half old, and the summary takes it for one of the future. -/
theorem offset_hides_age : ¬ ∀ (env : SyncEnv) (config : SummaryConfig) (now : DateTime)
    (feed : List Arrival) (db : Db) (listing : Table.Listing db.products) (r : SyncResult)
    (db' : Db), syncExternalOrders env db listing feed = .ok (r, db') → FirstSync env db feed →
      CountsByInstant env config now feed db db' := by
  intro hall
  obtain ⟨⟨r, db'⟩, hrun, hfound⟩ := eastFeed_synced
  have hcounts := hall eastEnv halfHour halfPastTwelve eastFeed Db.empty _ r db' hrun eastFeed_first
  have hmem : ∀ a ∈ eastFeed, sourceOrderId eastEnv.py a.raw = "A-1" := by decide +kernel
  obtain ⟨a, ha⟩ : ∃ a, a ∈ eastFeed := ⟨_, List.mem_cons_self⟩
  have hid : db'.orders.find (orderKey eastEnv (sourceOrderId eastEnv.py a.raw)) = some 1 := by
    rw [hmem a ha]
    exact of_decide_eq_true hfound
  have hwall : Counted (staleCutoff halfHour halfPastTwelve) db' 1 ↔
      wallBefore eastEnv.py (staleCutoff halfHour halfPastTwelve) a = true :=
    counted_iff_wallBefore hrun eastFeed_first ha hid
  have hside : SameSide (staleCutoff halfHour halfPastTwelve) eastStamp :=
    (instantBefore_iff (eastFeed_stamp a ha)).mpr (hwall.symm.trans (hcounts.each a ha 1 hid))
  exact hside.1 (by decide)

end BacklogAge
