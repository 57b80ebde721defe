import CrmPortal.ProductCache

/-!
# The last version of an order wins

The orders that a run without failures leaves: those of the feed's source ids
hold the last version of each, with exactly its items, and no other order or
item has moved.
-/

namespace SyncVersions

open PyValue IdentityTable Transaction CrmDatabase OrderNormalization OrderSync OrderSyncSpec
open ProductCache

/-- Order `orderId` is the entry `n` with its items resolved to the products `ids`. -/
structure HoldsVersion (env : SyncEnv) (n : NormalizedOrder) (ids : List Nat) (orderId : Nat)
    (order : Order) (db : Db) : Prop where
  row : db.orders.row orderId = some order
  key : order.sourceKey = some (env.sourceName, n.sourceOrderId)
  customer : ∃ id customer, order.customerId = some id ∧ db.customers.row id = some customer ∧
    customer.email = insertedEmail n
  total : order.total = n.total
  status : order.status = some n.status
  backlogStatus : order.backlogStatus = some n.backlogStatus
  notes : ∃ text, env.backend.bindText .text n.notes = some text ∧ order.notes = some text
  shippingAddress : ∃ text, env.backend.bindText .text n.shippingAddress = some text ∧
    order.shippingAddress = some text
  payload : order.sourcePayload = some (env.py.dumps (.obj n.payload))
  items : db.itemsOf orderId = List.zipWith (itemRow orderId) n.items ids
  products : List.Forall₂ (Resolved env db.products) n.items ids

/-- Entries of other source ids leave the version of an order as it is. -/
theorem HoldsVersion.frame {env : SyncEnv} {n : NormalizedOrder} {ids : List Nat} {orderId : Nat}
    {order : Order} {a b : Db} {others : List String} (h : HoldsVersion env n ids orderId order a)
    (hframe : Frame env others a b) (hothers : n.sourceOrderId ∉ others) :
    HoldsVersion env n ids orderId order b := by
  have hapart : Apart env others order := by
    intro id hid hkey
    obtain ⟨_, rfl⟩ := Prod.mk.inj (Option.some.inj (h.key.symm.trans hkey))
    exact hothers hid
  obtain ⟨customerId, customer, hid, hrow, hemail⟩ := h.customer
  exact { h with
    row := (hframe.others orderId order hapart).mpr h.row
    customer := ⟨customerId, customer, hid, hframe.customers _ _ hrow, hemail⟩
    items := (hframe.items orderId order h.row hapart).trans h.items
    products := h.products.imp fun _ _ hp => hp.extends hframe.products }

/-- What storing an entry leaves under its source id. -/
theorem storeEntry_holds {env : SyncEnv} {n : NormalizedOrder} {s t : SyncSession}
    {action : SyncAction} {orderId : Nat} (hs : CacheSound env.py s.catalogue)
    (h : storeEntry env n s = (.ok (action, orderId), t)) :
    CacheSound env.py t.catalogue ∧ ∃ ids c order,
      resolveItems env n.items s.catalogue = (.ok ids, c) ∧
      HoldsVersion env n ids orderId order t.db ∧
      (s.db.orders.find (env.sourceName, n.sourceOrderId) = none →
        order.createdAt = some n.createdAt) := by
  obtain ⟨customerId, customers, orders, ids, c, hcustomer, horder, hids, _, _, rfl⟩ :=
    storeEntry_ok h
  obtain ⟨notes, address, created, hbound, hrow, _, hbefore⟩ := upsertOrder_row horder
  obtain ⟨hsound, hproducts⟩ := resolveItems_sound hs hids
  obtain ⟨customer, hcustomerRow, hemail⟩ := resolveCustomer_email hcustomer
  refine ⟨hsound, ids, c,
    { newOrder env customerId n notes address with createdAt := created }, hids, ?_, ?_⟩
  · exact {
      row := hrow
      key := rfl
      customer := ⟨customerId, customer, rfl, hcustomerRow, hemail⟩
      total := rfl
      status := rfl
      backlogStatus := rfl
      notes := ⟨notes, hbound.notes, rfl⟩
      shippingAddress := ⟨address, hbound.address, rfl⟩
      payload := rfl
      items := (itemsOf_replaced s orderId orderId n.items ids).trans (if_pos rfl)
      products := hproducts }
  · intro hnone
    rcases hbefore with ⟨_, _, _, hcreated⟩ | ⟨_, old, hold, hkey, _⟩
    · exact hcreated
    · have hno := (Table.find_eq_none_iff _ _).mp hnone orderId old hold
      exact False.elim (hno hkey)

def AllStored (outcomes : List EntryOutcome) : Prop :=
  ∀ outcome ∈ outcomes, outcome.isFailed = false

theorem syncEntry_stored {env : SyncEnv} {n : NormalizedOrder} {s : SyncSession}
    (h : (syncEntry env n s).1.isFailed = false) :
    ∃ action id, storeEntry env n s = (.ok (action, id), (syncEntry env n s).2) := by
  rcases syncEntry_cases env n s with ⟨_, he⟩ | ⟨_, action, id, t, hstore, he⟩ |
    ⟨_, exc, m, _, he⟩
  · rw [he] at h
    cases h
  · rw [he]
    exact ⟨action, id, hstore⟩
  · rw [he] at h
    cases h

theorem syncAll_sound {env : SyncEnv} {ns : List NormalizedOrder} {s : SyncSession}
    (hs : CacheSound env.py s.catalogue) (h : AllStored (syncAll env ns s).1) :
    CacheSound env.py (syncAll env ns s).2.catalogue := by
  induction ns generalizing s with
  | nil => exact hs
  | cons n rest ih =>
    obtain ⟨hfirst, hrest⟩ := List.forall_mem_cons.mp h
    obtain ⟨action, id, hstore⟩ := syncEntry_stored hfirst
    exact ih (storeEntry_holds hs hstore).1 hrest

section Occurrence
variable {env : SyncEnv} {xs ys : List NormalizedOrder} {n : NormalizedOrder} {s : SyncSession}

/-- The entry `n` of a run, stored in the state that the entries before it left. -/
theorem syncAll_occurrence (hs : CacheSound env.py s.catalogue)
    (h : AllStored (syncAll env (xs ++ n :: ys) s).1) :
    ∃ action id, storeEntry env n (syncAll env xs s).2 =
        (.ok (action, id), (syncEntry env n (syncAll env xs s).2).2) ∧
      CacheSound env.py (syncAll env xs s).2.catalogue := by
  rw [syncAll_append] at h
  have hbefore : AllStored (syncAll env xs s).1 :=
    fun outcome hmem => h outcome (List.mem_append_left _ hmem)
  have hhere : (syncEntry env n (syncAll env xs s).2).1.isFailed = false :=
    h _ (List.mem_append_right _ List.mem_cons_self)
  obtain ⟨action, id, hstore⟩ := syncEntry_stored hhere
  exact ⟨action, id, hstore, syncAll_sound hs hbefore⟩

theorem syncAll_last (hs : CacheSound env.py s.catalogue)
    (h : AllStored (syncAll env (xs ++ n :: ys) s).1)
    (hlast : n.sourceOrderId ∉ ys.map NormalizedOrder.sourceOrderId) :
    ∃ ids c orderId order,
      resolveItems env n.items (syncAll env xs s).2.catalogue = (.ok ids, c) ∧
      HoldsVersion env n ids orderId order (syncAll env (xs ++ n :: ys) s).2.db := by
  obtain ⟨action, orderId, hstore, hsound⟩ := syncAll_occurrence hs h
  obtain ⟨_, ids, c, order, hids, hholds, _⟩ := storeEntry_holds hsound hstore
  refine ⟨ids, c, orderId, order, hids, ?_⟩
  rw [syncAll_append]
  exact hholds.frame (syncAll_frame env ys _) hlast

/-- A new order keeps the creation time of its first version. -/
theorem syncAll_first (hs : CacheSound env.py s.catalogue)
    (h : AllStored (syncAll env (xs ++ n :: ys) s).1)
    (hfirst : n.sourceOrderId ∉ xs.map NormalizedOrder.sourceOrderId)
    (hnew : s.db.orders.find (env.sourceName, n.sourceOrderId) = none) :
    ∃ i order, (syncAll env (xs ++ n :: ys) s).2.db.orders.row i = some order ∧
      order.sourceKey = some (env.sourceName, n.sourceOrderId) ∧
      order.createdAt = some n.createdAt := by
  obtain ⟨action, orderId, hstore, hsound⟩ := syncAll_occurrence hs h
  obtain ⟨_, ids, c, order, _, hholds, hcreated⟩ := storeEntry_holds hsound hstore
  have habsent : (syncAll env xs s).2.db.orders.find (env.sourceName, n.sourceOrderId) = none := by
    rw [Table.find_eq_none_iff] at hnew ⊢
    intro i old hold hkey
    have hapart : Apart env (xs.map NormalizedOrder.sourceOrderId) old := by
      intro id hid hsame
      obtain ⟨_, rfl⟩ := Prod.mk.inj (Option.some.inj (hkey.symm.trans hsame))
      exact hfirst hid
    have hframe := syncAll_frame env xs s
    exact hnew i old ((hframe.others i old hapart).mp hold) hkey
  obtain ⟨last, hrow, hkey, hsame⟩ := (syncAll_frame env ys
    (syncEntry env n (syncAll env xs s).2).2).kept orderId order hholds.row
  refine ⟨orderId, last, ?_, hkey.trans hholds.key, hsame.trans (hcreated habsent)⟩
  rw [syncAll_append]
  exact hrow

end Occurrence

theorem allStored_of_failed_eq_zero {env : SyncEnv} {ns : List NormalizedOrder} {s : SyncSession}
    (h : ((syncAll env ns s).1.foldl SyncResult.count SyncResult.zero).failed = 0) :
    AllStored (syncAll env ns s).1 := by
  rw [foldl_count_failed] at h
  have hcount : (syncAll env ns s).1.countP EntryOutcome.isFailed = 0 := by
    simpa [SyncResult.zero] using h
  intro outcome hmem
  simpa using List.countP_eq_zero.mp hcount outcome hmem

/-- The order that the last occurrence `a` of a source id leaves: `before` is what
the feed held before it, and `first` any first occurrence. -/
structure LastVersion (env : SyncEnv) (db : Db) (listing : Table.Listing db.products)
    (feed before : List Arrival) (a : Arrival) (db' : Db) (n : NormalizedOrder) (orderId : Nat)
    (order : Order) : Prop where
  normalized : normalizeExternalOrder env.py a.now a.raw = .ok n
  version : ∃ r s ids c,
    syncLoop env before SyncResult.zero (startSession env db listing) = .ok (r, s) ∧
    resolveItems env n.items s.catalogue = (.ok ids, c) ∧
    HoldsVersion env n ids orderId order db'
  only : ∀ i other, db'.orders.row i = some other →
    other.sourceKey = some (env.sourceName, n.sourceOrderId) → i = orderId
  createdBefore : ∀ i old, db.orders.row i = some old →
    old.sourceKey = some (env.sourceName, n.sourceOrderId) →
      i = orderId ∧ order.createdAt = old.createdAt
  createdNow : db.orders.find (env.sourceName, n.sourceOrderId) = none →
    ∀ earlier first later m, feed = earlier ++ first :: later →
      (∀ b ∈ earlier, sourceOrderId env.py b.raw ≠ n.sourceOrderId) →
      normalizeExternalOrder env.py first.now first.raw = .ok m →
      m.sourceOrderId = n.sourceOrderId → order.createdAt = some m.createdAt

theorem sourceOrderId_not_mem {py : Builtins} {feed : List Arrival} {ns : List NormalizedOrder}
    {id : String} (hns : normalizeFeed py feed = .ok ns)
    (h : ∀ b ∈ feed, sourceOrderId py b.raw ≠ id) :
    id ∉ ns.map NormalizedOrder.sourceOrderId := by
  rw [normalizeFeed_sourceOrderId hns]
  intro hmem
  obtain ⟨b, hb, hid⟩ := List.mem_map.mp hmem
  exact h b hb hid

theorem lastVersion_of_run {env : SyncEnv} {db : Db} {listing : Table.Listing db.products}
    {before after : List Arrival} {a : Arrival} {ns : List NormalizedOrder}
    (hns : normalizeFeed env.py (before ++ a :: after) = .ok ns)
    (hstored : AllStored (syncAll env ns (startSession env db listing)).1)
    (hlast : ∀ b ∈ after, sourceOrderId env.py b.raw ≠ sourceOrderId env.py a.raw) :
    ∃ n orderId order, LastVersion env db listing (before ++ a :: after) before a
      (syncAll env ns (startSession env db listing)).2.db n orderId order := by
  have hsound : CacheSound env.py (startSession env db listing).catalogue :=
    productLookup_sound env.py listing
  obtain ⟨xs, zs, hxs, hzs, hsplit⟩ := normalizeFeed_append_ok_iff.mp hns
  obtain ⟨n, ys, hn, hys, rfl⟩ := normalizeFeed_cons_ok_iff.mp hzs
  have hid : n.sourceOrderId = sourceOrderId env.py a.raw := normalize_sourceOrderId hn
  have hnotin : n.sourceOrderId ∉ ys.map NormalizedOrder.sourceOrderId :=
    sourceOrderId_not_mem hys fun b hb => hid ▸ hlast b hb
  rw [hsplit] at hstored
  obtain ⟨ids, c, orderId, order, hids, hholds⟩ := syncAll_last hsound hstored hnotin
  rw [← hsplit] at hholds
  have hframe := syncAll_frame env ns (startSession env db listing)
  have honly : ∀ i other, (syncAll env ns (startSession env db listing)).2.db.orders.row i =
      some other → other.sourceKey = some (env.sourceName, n.sourceOrderId) → i = orderId :=
    fun i other hrow hkey => Table.unique _ i orderId other order _ hrow hholds.row hkey hholds.key
  refine ⟨n, orderId, order, hn, ?_, honly, ?_, ?_⟩
  · exact ⟨_, _, ids, c, syncLoop_ok_iff.mpr ⟨xs, hxs, rfl, rfl⟩, hids, hholds⟩
  · intro i old hold hkey
    obtain ⟨kept, hrow, hkeptKey, hcreated⟩ := hframe.kept i old hold
    obtain rfl : i = orderId := honly i kept hrow (hkeptKey.trans hkey)
    obtain rfl : kept = order := Option.some.inj (hrow.symm.trans hholds.row)
    exact ⟨rfl, hcreated⟩
  · intro hnew earlier first later m hfeed hearlier hm hsame
    rw [hfeed] at hns
    obtain ⟨us, ws, hus, hws, hsplit'⟩ := normalizeFeed_append_ok_iff.mp hns
    obtain ⟨m', vs, hm', _, rfl⟩ := normalizeFeed_cons_ok_iff.mp hws
    obtain rfl : m = m' := Except.ok.inj (hm.symm.trans hm')
    rw [← hsplit, hsplit'] at hstored
    have hfirst : m.sourceOrderId ∉ us.map NormalizedOrder.sourceOrderId :=
      sourceOrderId_not_mem hus fun b hb => hsame ▸ hearlier b hb
    obtain ⟨i, final, hrow, hkey, hcreated⟩ :=
      syncAll_first hsound hstored hfirst (hsame ▸ hnew)
    rw [← hsplit'] at hrow
    obtain rfl : i = orderId := honly i final hrow (hsame ▸ hkey)
    obtain rfl : final = order := Option.some.inj (hrow.symm.trans hholds.row)
    exact hcreated

/-- After a run in which no entry failed, every source id of the feed has one
order, which holds the last version, and nothing else has moved. -/
theorem last_version_wins {env : SyncEnv} {db db' : Db} {listing : Table.Listing db.products}
    {feed : List Arrival} {r : SyncResult}
    (h : syncExternalOrders env db listing feed = .ok (r, db')) (hfailed : r.failed = 0) :
    (∀ before a after, feed = before ++ a :: after →
      (∀ b ∈ after, sourceOrderId env.py b.raw ≠ sourceOrderId env.py a.raw) →
      ∃ n orderId order, LastVersion env db listing feed before a db' n orderId order) ∧
    (∀ i order, Apart env (feed.map fun a => sourceOrderId env.py a.raw) order →
      (db'.orders.row i = some order ↔ db.orders.row i = some order)) ∧
    (∀ i order, db.orders.row i = some order →
      Apart env (feed.map fun a => sourceOrderId env.py a.raw) order →
      db'.itemsOf i = db.itemsOf i) := by
  obtain ⟨ns, hns, rfl, rfl, _⟩ := syncExternalOrders_ok_iff.mp h
  have hstored := allStored_of_failed_eq_zero hfailed
  have hframe := syncAll_frame env ns (startSession env db listing)
  rw [normalizeFeed_sourceOrderId hns] at hframe
  refine ⟨?_, hframe.others, hframe.items⟩
  rintro before a after rfl hlast
  exact lastVersion_of_run hns hstored hlast

/-- Two versions of one order in one feed. -/
theorem last_version_wins_sample :
    ∃ r db', syncExternalOrders sampleEnv Db.empty (Table.listing _)
        [⟨sampleOrder "A-1" "Ann@example.com" "camera" 1 300, 10⟩,
          ⟨sampleOrder "A-1" "ann@example.com" "strap" 2 15, 20⟩] = .ok (r, db') ∧
      ∃ n orderId order, LastVersion sampleEnv Db.empty (Table.listing _)
        [⟨sampleOrder "A-1" "Ann@example.com" "camera" 1 300, 10⟩,
          ⟨sampleOrder "A-1" "ann@example.com" "strap" 2 15, 20⟩]
        [⟨sampleOrder "A-1" "Ann@example.com" "camera" 1 300, 10⟩]
        ⟨sampleOrder "A-1" "ann@example.com" "strap" 2 15, 20⟩ db' n orderId order := by
  obtain ⟨⟨r, db'⟩, hrun, hfailed⟩ := exists_ok_of_any (p := fun x => decide (x.1.failed = 0))
    (x := syncExternalOrders sampleEnv Db.empty (Table.listing _)
      [⟨sampleOrder "A-1" "Ann@example.com" "camera" 1 300, 10⟩,
        ⟨sampleOrder "A-1" "ann@example.com" "strap" 2 15, 20⟩]) (by decide +kernel)
  refine ⟨r, db', hrun, ?_⟩
  exact (last_version_wins hrun (of_decide_eq_true hfailed)).1 [_] _ [] rfl
    (fun b hb => absurd hb List.not_mem_nil)

end SyncVersions
