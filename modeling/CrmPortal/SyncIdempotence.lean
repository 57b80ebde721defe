import CrmPortal.SyncContainment
import CrmPortal.SyncObstacles
import CrmPortal.SyncVersions

/-!
# Running the sync again

A second run over the feed of the first. Where it is the same again, the four
lookups of an entry find what the first run left: the customer by e-mail, the order
by source key, each product by reference, and the items are put back. Three things
go wrong: a customer made up for an entry without an address is never looked up, a
product is not cached under the reference it was made for, and an entry that failed
may find what a later one brought.
-/

namespace SyncIdempotence

open PyValue IdentityTable Transaction CrmDatabase OrderNormalization OrderSync OrderSyncSpec
open SyncContainment SyncObstacles SyncVersions

/-- The entries of a run, each with its outcome there. -/
abbrev Entries := List (NormalizedOrder × EntryOutcome)

/-- The source ids of the entries that are stored. -/
def storedIds (entries : Entries) : List String :=
  (entries.filter fun e => !e.2.isFailed).map fun e => e.1.sourceOrderId

/-- The order as an entry leaves it, without the stamps of the run. -/
def unstamped (order : Order) : Order :=
  { order with lastSyncedAt := none, correlationId := none }

def ItemTaken (env : SyncEnv) (item : NormalizedItem) : Prop :=
  env.backend.takesInt item.quantity = true ∧ env.backend.takesFloat item.unitPrice = true

/-- What a run that stored the entry leaves of it. `later` are the source ids stored
after it: only the last version of an order is there at the end. -/
structure StoredFirst (env : SyncEnv) (n : NormalizedOrder) (orderId : Nat) (later : List String)
    (db : Db) : Prop where
  customer : ∃ id customer, db.customers.row id = some customer ∧
    customer.email = insertedEmail n
  order : db.orders.find (env.sourceName, n.sourceOrderId) = some orderId
  bound : ∃ notes address, OrderBound env n notes address
  named : n.sourceOrderId ≠ ""
  sourceId : env.backend.takesStr (.varchar 120) n.sourceOrderId = true
  items : ∀ item ∈ n.items, ItemTaken env item
  version : n.sourceOrderId ∉ later → ∃ customerId notes address created customer,
    OrderBound env n notes address ∧ db.customers.row customerId = some customer ∧
      customer.email = insertedEmail n ∧
      (db.orders.row orderId).map unstamped = some (unstamped
        { newOrder env customerId n notes address with createdAt := created })

theorem syncItems_taken {env : SyncEnv} {orderId : Nat} {items : List NormalizedItem}
    {s t : SyncSession} {u : PUnit} (h : Tx.forEach (syncItem env orderId) items s = (.ok u, t)) :
    ∀ item ∈ items, ItemTaken env item := by
  induction items generalizing s with
  | nil => exact fun item hitem => absurd hitem List.not_mem_nil
  | cons first rest ih =>
    obtain ⟨_, m, hitem, hrest⟩ := Tx.bind_ok_iff.mp h
    obtain ⟨_, _, _, hquantity, hprice, _, _⟩ := syncItem_ok_iff.mp hitem
    exact List.forall_mem_cons.mpr ⟨⟨hquantity, hprice⟩, ih hrest⟩

theorem storeEntry_taken {env : SyncEnv} {n : NormalizedOrder} {s t : SyncSession}
    {r : SyncAction × Nat} (h : storeEntry env n s = (.ok r, t)) :
    ∀ item ∈ n.items, ItemTaken env item := by
  obtain ⟨_, _, _, hrest⟩ := Tx.bind_ok_iff.mp h
  obtain ⟨_, _, _, hrest⟩ := Tx.bind_ok_iff.mp hrest
  obtain ⟨_, _, hreplaced, _⟩ := Tx.bind_ok_iff.mp hrest
  obtain ⟨_, _, _, hitems⟩ := Tx.bind_ok_iff.mp hreplaced
  exact syncItems_taken hitems

theorem storeEntry_storedFirst {env : SyncEnv} {n : NormalizedOrder} {s t : SyncSession}
    {action : SyncAction} {orderId : Nat} (h : storeEntry env n s = (.ok (action, orderId), t))
    (hid : n.sourceOrderId ≠ "") (later : List String) :
    StoredFirst env n orderId later t.db := by
  have htaken := storeEntry_taken h
  obtain ⟨customerId, customers, orders, ids, c, hcustomer, horder, hids, _, hsource, rfl⟩ :=
    storeEntry_ok h
  obtain ⟨notes, address, created, hbound, hrow, _, _⟩ := upsertOrder_row horder
  obtain ⟨customer, hcustomerRow, hemail⟩ := resolveCustomer_email hcustomer
  exact {
    customer := ⟨customerId, customer, hcustomerRow, hemail⟩
    order := (orders.find_eq_some_iff _ _).mpr ⟨_, hrow, rfl⟩
    bound := ⟨notes, address, hbound⟩
    named := hid
    sourceId := hsource
    items := htaken
    version := fun _ => ⟨customerId, notes, address, created, customer, hbound, hcustomerRow,
      hemail, by
        change (orders.row orderId).map _ = _
        rw [hrow]
        rfl⟩ }

theorem StoredFirst.frame {env : SyncEnv} {n : NormalizedOrder} {orderId : Nat}
    {later : List String} {a b : Db} (h : StoredFirst env n orderId later a)
    (hframe : Frame env later a b) : StoredFirst env n orderId later b := by
  obtain ⟨order, hrow, hkey⟩ := (a.orders.find_eq_some_iff _ _).mp h.order
  obtain ⟨id, customer, hcustomer, hemail⟩ := h.customer
  refine { h with customer := ?_, order := ?_, version := ?_ }
  · exact ⟨id, customer, hframe.customers _ _ hcustomer, hemail⟩
  · obtain ⟨order', hrow', hkey', _⟩ := hframe.kept orderId order hrow
    exact (b.orders.find_eq_some_iff _ _).mpr ⟨order', hrow', hkey'.trans hkey⟩
  · intro hlast
    have hapart : Apart env later order := by
      intro other hother hsame
      obtain ⟨_, rfl⟩ := Prod.mk.inj (Option.some.inj (hkey.symm.trans hsame))
      exact hlast hother
    obtain ⟨customerId, notes, address, created, owner, hbound, howner, hown, hversion⟩ :=
      h.version hlast
    refine ⟨customerId, notes, address, created, owner, hbound, hframe.customers _ _ howner, hown,
      ?_⟩
    rw [(hframe.others orderId order hapart).mpr hrow, ← hrow]
    exact hversion

/-- An entry that fails changes no row. -/
theorem syncEntry_failed {env : SyncEnv} {n : NormalizedOrder} {s : SyncSession}
    (h : (syncEntry env n s).1.isFailed = true) : SyncRows (syncEntry env n s).2.db s.db := by
  rcases syncEntry_cases env n s with ⟨_, he⟩ | ⟨_, action, id, t, _, he⟩ | ⟨_, exc, m, _, he⟩
  · rw [he]
    exact ⟨fun _ => rfl, fun _ => rfl, fun _ => rfl, rfl⟩
  · rw [he] at h
    cases h
  · rw [he]
    exact ⟨fun _ => rfl, fun _ => rfl, fun _ => rfl, rfl⟩

theorem syncAll_cons (env : SyncEnv) (n : NormalizedOrder) (rest : List NormalizedOrder)
    (s : SyncSession) : syncAll env (n :: rest) s =
      ((syncEntry env n s).1 :: (syncAll env rest (syncEntry env n s).2).1,
        (syncAll env rest (syncEntry env n s).2).2) := rfl

theorem storedIds_failed {n : NormalizedOrder} {outcome : EntryOutcome} (rest : Entries)
    (h : outcome.isFailed = true) : storedIds ((n, outcome) :: rest) = storedIds rest := by
  simp [storedIds, h]

theorem storedIds_stored {n : NormalizedOrder} {outcome : EntryOutcome} (rest : Entries)
    (h : outcome.isFailed = false) :
    storedIds ((n, outcome) :: rest) = n.sourceOrderId :: storedIds rest := by
  simp [storedIds, h]

/-- Only the entries that are stored count in the frame of a run. -/
theorem syncAll_storedFrame (env : SyncEnv) (ns : List NormalizedOrder) (s : SyncSession) :
    Frame env (storedIds (ns.zip (syncAll env ns s).1)) s.db (syncAll env ns s).2.db := by
  induction ns generalizing s with
  | nil => exact Frame.ofRows (SyncRows.refl s.db)
  | cons n rest ih =>
    have hrest := ih (syncEntry env n s).2
    rw [syncAll_cons, List.zip_cons_cons]
    rcases hfirst : (syncEntry env n s).1.isFailed with _ | _
    · rw [storedIds_stored _ hfirst]
      obtain ⟨action, id, hstore⟩ := syncEntry_stored hfirst
      exact (storeEntry_frame hstore).trans hrest
    · rw [storedIds_failed _ hfirst]
      have unmoved : Frame env [] s.db (syncEntry env n s).2.db :=
        Frame.ofRows (syncEntry_failed hfirst)
      exact unmoved.trans hrest

/-- Every entry that the run stored has left what `StoredFirst` says. -/
def FirstRun (env : SyncEnv) (left : Db) : Entries → Prop
  | [] => True
  | (n, first) :: rest =>
    (∀ action order, first = .stored action order →
      StoredFirst env n order.id (storedIds rest) left) ∧ FirstRun env left rest

theorem syncEntry_storedFirst {env : SyncEnv} {n : NormalizedOrder} {s : SyncSession}
    {action : SyncAction} {order : SyncedOrder} (later : List String)
    (h : (syncEntry env n s).1 = .stored action order) :
    StoredFirst env n order.id later (syncEntry env n s).2.db := by
  rcases syncEntry_cases env n s with ⟨_, he⟩ | ⟨hid, action', id, t, hstore, he⟩ |
    ⟨_, exc, m, _, he⟩
  · rw [he] at h
    cases h
  · rw [he] at h ⊢
    cases h
    exact storeEntry_storedFirst hstore hid later
  · rw [he] at h
    cases h

theorem syncAll_firstRun (env : SyncEnv) (ns : List NormalizedOrder) (s : SyncSession) :
    FirstRun env (syncAll env ns s).2.db (ns.zip (syncAll env ns s).1) := by
  induction ns generalizing s with
  | nil => trivial
  | cons n rest ih =>
    rw [syncAll_cons, List.zip_cons_cons]
    constructor
    · intro action order hfirst
      have frame := syncAll_storedFrame env rest (syncEntry env n s).2
      exact (syncEntry_storedFirst _ hfirst).frame frame
    · exact ih (syncEntry env n s).2

/-- The configuration of another run: its own correlation and trace ids. -/
def attempt (env : SyncEnv) (correlationId traceId : String) : SyncEnv :=
  { env with correlationId := correlationId, traceId := traceId }

section Restamp
variable {env : SyncEnv} {n m : NormalizedOrder} {orderId : Nat} {later : List String} {db : Db}
  (correlationId traceId : String)

/-- What the first run left is what the second one would leave, but for the stamps. -/
theorem StoredFirst.restamp (h : StoredFirst env n orderId later db) (hm : SameButStamps n m) :
    StoredFirst (attempt env correlationId traceId) m orderId later db := by
  obtain ⟨created, synced, rfl⟩ : ∃ created synced,
      m = { n with createdAt := created, lastSyncedAt := synced } := ⟨_, _, hm.same.symm⟩
  exact {
    customer := h.customer
    order := h.order
    bound := by
      obtain ⟨notes, address, hbound⟩ := h.bound
      exact ⟨notes, address, ⟨hbound.notes, hbound.address, hbound.columns⟩⟩
    named := h.named
    sourceId := h.sourceId
    items := h.items
    version := by
      intro hlast
      obtain ⟨customerId, notes, address, stamp, customer, hbound, hrow, hemail, hversion⟩ :=
        h.version hlast
      exact ⟨customerId, notes, address, stamp, customer,
        ⟨hbound.notes, hbound.address, hbound.columns⟩, hrow, hemail, hversion⟩ }

theorem storedIds_restamp {ns ms : List NormalizedOrder} (h : List.Forall₂ SameButStamps ns ms)
    (outcomes : List EntryOutcome) : storedIds (ms.zip outcomes) = storedIds (ns.zip outcomes) := by
  induction h generalizing outcomes with
  | nil => rfl
  | cons hm _ ih =>
    cases outcomes with
    | nil => rfl
    | cons outcome rest =>
      have hid := congrArg NormalizedOrder.sourceOrderId hm.same
      rw [List.zip_cons_cons, List.zip_cons_cons]
      rcases hfirst : outcome.isFailed with _ | _
      · rw [storedIds_stored _ hfirst, storedIds_stored _ hfirst, ih, ← hid]
      · rw [storedIds_failed _ hfirst, storedIds_failed _ hfirst, ih]

theorem audited_restamp {ns ms : List NormalizedOrder} (h : List.Forall₂ SameButStamps ns ms) :
    ms.all (fun n => env.backend.takesStr (.varchar 120) n.sourceOrderId) =
      ns.all (fun n => env.backend.takesStr (.varchar 120) n.sourceOrderId) := by
  induction h with
  | nil => rfl
  | cons hm _ ih =>
    have hid := congrArg NormalizedOrder.sourceOrderId hm.same
    rw [List.all_cons, List.all_cons, ih, ← hid]

theorem FirstRun.restamp {ns ms : List NormalizedOrder} {outcomes : List EntryOutcome}
    (hsame : List.Forall₂ SameButStamps ns ms) (h : FirstRun env db (ns.zip outcomes)) :
    FirstRun (attempt env correlationId traceId) db (ms.zip outcomes) := by
  induction hsame generalizing outcomes with
  | nil => trivial
  | cons hm hrest ih =>
    cases outcomes with
    | nil => trivial
    | cons outcome rest =>
      rw [List.zip_cons_cons] at h ⊢
      obtain ⟨hfirst, htail⟩ := h
      refine ⟨fun action order houtcome => ?_, ih htail⟩
      rw [storedIds_restamp hrest]
      exact (hfirst action order houtcome).restamp correlationId traceId hm

end Restamp

/-- The feed of the second run has the same raw orders, reached at other times. -/
theorem normalizeFeed_restamp {py : Builtins} {feed again : List Arrival}
    {ns : List NormalizedOrder} (hns : normalizeFeed py feed = .ok ns)
    (hraw : again.map Arrival.raw = feed.map Arrival.raw) :
    ∃ ms, normalizeFeed py again = .ok ms ∧ List.Forall₂ SameButStamps ns ms := by
  induction feed generalizing again ns with
  | nil =>
    obtain rfl := Except.ok.inj hns
    obtain rfl := List.map_eq_nil_iff.mp hraw
    exact ⟨[], rfl, List.Forall₂.nil⟩
  | cons entry rest ih =>
    obtain ⟨n, tail, hn, htail, rfl⟩ := normalizeFeed_cons_ok_iff.mp hns
    cases again with
    | nil => cases hraw
    | cons entry' rest' =>
      obtain ⟨hentry, hrest⟩ := List.cons.inj hraw
      obtain ⟨m, hm, hstamps⟩ :
          ∃ m, normalizeExternalOrder py entry'.now entry.raw = .ok m ∧ SameButStamps n m :=
        normalizeExternalOrder_restamp hn
      rw [← hentry] at hm
      obtain ⟨ms, hms, hsame⟩ := ih htail hrest
      exact ⟨m :: ms, normalizeFeed_cons_ok_iff.mpr ⟨m, ms, hm, hms, rfl⟩,
        List.Forall₂.cons hstamps hsame⟩

/-- The product that an item finds in the cache, if its row is still there. -/
def foundProduct (env : SyncEnv) (s : SyncSession) (item : NormalizedItem) : Option Nat :=
  (s.productCache (itemRef env.py item)).filter fun id => (s.db.products.row id).isSome

def foundProducts (env : SyncEnv) (s : SyncSession) : List NormalizedItem → Option (List Nat)
  | [] => some []
  | item :: rest => do
    let id ← foundProduct env s item
    let ids ← foundProducts env s rest
    return id :: ids

theorem foundProduct_eq_some {env : SyncEnv} {s : SyncSession} {item : NormalizedItem} {id : Nat} :
    foundProduct env s item = some id ↔
      s.productCache (itemRef env.py item) = some id ∧ (s.db.products.row id).isSome = true :=
  Option.filter_eq_some_iff

theorem foundProducts_cons_eq_some {env : SyncEnv} {s : SyncSession} {item : NormalizedItem}
    {rest : List NormalizedItem} {ids : List Nat} :
    foundProducts env s (item :: rest) = some ids ↔
      ∃ id tail, foundProduct env s item = some id ∧ foundProducts env s rest = some tail ∧
        ids = id :: tail := by
  simp only [foundProducts, Option.bind_eq_bind, Option.bind_eq_some_iff, Option.pure_def,
    Option.some.injEq]
  constructor
  · rintro ⟨id, hid, tail, htail, rfl⟩
    exact ⟨id, tail, hid, htail, rfl⟩
  · rintro ⟨id, tail, hid, htail, rfl⟩
    exact ⟨id, hid, tail, htail, rfl⟩

/-- Only the products and the cache are looked at. -/
theorem foundProducts_congr {env : SyncEnv} (s t : SyncSession) (items : List NormalizedItem)
    (hcache : t.productCache = s.productCache)
    (hrows : ∀ i, t.db.products.row i = s.db.products.row i) :
    foundProducts env t items = foundProducts env s items := by
  induction items with
  | nil => rfl
  | cons item rest ih => simp only [foundProducts, foundProduct, ih, hcache, hrows]

theorem syncItems_found {env : SyncEnv} {orderId : Nat} {items : List NormalizedItem}
    {s : SyncSession} {ids : List Nat} (hfound : foundProducts env s items = some ids)
    (htaken : ∀ item ∈ items, ItemTaken env item) :
    Tx.forEach (syncItem env orderId) items s =
      (.ok ⟨⟩, stored s s.catalogue (List.zipWith (itemRow orderId) items ids)) := by
  induction items generalizing s ids with
  | nil =>
    refine congrArg (Prod.mk _) ?_
    simp [stored, SyncSession.catalogue]
  | cons item rest ih =>
    obtain ⟨id, tail, hid, htail, rfl⟩ := foundProducts_cons_eq_some.mp hfound
    obtain ⟨hcache, hrow⟩ := foundProduct_eq_some.mp hid
    obtain ⟨hitem, hrest⟩ := List.forall_mem_cons.mp htaken
    have hfirst : syncItem env orderId item s =
        (.ok ⟨⟩, stored s s.catalogue [itemRow orderId item id]) :=
      syncItem_ok_iff.mpr ⟨id, s.catalogue, resolveProduct_ok_iff.mpr (Or.inl ⟨hcache, rfl⟩),
        hitem.1, hitem.2, hrow, rfl⟩
    have hlater : foundProducts env (stored s s.catalogue [itemRow orderId item id]) rest =
        some tail :=
      (foundProducts_congr s (stored s _ _) rest rfl fun _ => rfl).trans htail
    rw [Tx.forEach, Tx.bind_of_ok _ hfirst, ih hlater hrest]
    simp [stored, SyncSession.catalogue]

/-- The session after an entry that found its customer, its order and its products. -/
def refreshed (env : SyncEnv) (n : NormalizedOrder) (s : SyncSession) (orderId customerId : Nat)
    (notes address : String) (ids : List Nat) : SyncSession :=
  entryResult env n s .updated orderId s.db.customers
    (s.db.orders.modify orderId (updatedOrder env customerId n notes address)
      (updatedOrder_sourceKey env customerId n notes address)) s.catalogue ids

theorem refreshed_order (env : SyncEnv) (n : NormalizedOrder) (s : SyncSession)
    (orderId customerId : Nat) (notes address : String) (ids : List Nat) (i : Nat) :
    (refreshed env n s orderId customerId notes address ids).db.orders.row i =
      if i = orderId then (s.db.orders.row i).map (updatedOrder env customerId n notes address)
      else s.db.orders.row i := rfl

theorem refreshed_itemsOf (env : SyncEnv) (n : NormalizedOrder) (s : SyncSession)
    (orderId customerId : Nat) (notes address : String) (ids : List Nat) (i : Nat) :
    (refreshed env n s orderId customerId notes address ids).db.itemsOf i =
      if i = orderId then List.zipWith (itemRow orderId) n.items ids else s.db.itemsOf i :=
  itemsOf_replaced s orderId i n.items ids

/-- An entry whose customer, order and products are all found updates the order and
puts its items back; nothing else is written. -/
theorem storeEntry_found {env : SyncEnv} {n : NormalizedOrder} {s : SyncSession}
    {customerId orderId : Nat} {notes address : String} {ids : List Nat}
    (hcustomer : lookupCustomer s.db.customers n.customerEmail = some customerId)
    (hbound : OrderBound env n notes address)
    (horder : s.db.orders.find (env.sourceName, n.sourceOrderId) = some orderId)
    (hfound : foundProducts env s n.items = some ids)
    (htaken : ∀ item ∈ n.items, ItemTaken env item)
    (hid : env.backend.takesStr (.varchar 120) n.sourceOrderId = true) :
    storeEntry env n s =
      (.ok (.updated, orderId), refreshed env n s orderId customerId notes address ids) := by
  have hresolved : resolveCustomer env n s.db.customers = (.ok customerId, s.db.customers) :=
    resolveCustomer_ok_iff.mpr (Or.inl ⟨hcustomer, rfl⟩)
  have hupserted : upsertOrder env customerId n s.db.orders = (.ok (.updated, orderId), _) :=
    upsertOrder_ok_iff.mpr ⟨notes, address, hbound, Or.inr ⟨horder, rfl, rfl⟩⟩
  let m : SyncSession := { s with db := { s.db with
    orders := s.db.orders.modify orderId (updatedOrder env customerId n notes address)
      (updatedOrder_sourceKey env customerId n notes address) } }
  have hkept : foundProducts env (m.dropItems orderId) n.items = some ids :=
    (foundProducts_congr s (m.dropItems orderId) n.items rfl fun _ => rfl).trans hfound
  have hitems : Tx.forEach (syncItem env orderId) n.items (m.dropItems orderId) = _ :=
    syncItems_found hkept htaken
  unfold storeEntry onCustomers onOrders replaceOrderItems
  simp only [Tx.bind_ok_iff, Tx.focus_ok_iff, Tx.check_ok_iff, Tx.write_ok_iff, Tx.pure_ok_iff]
  exact ⟨customerId, s, ⟨s.db.customers, hresolved, rfl⟩, (.updated, orderId), m,
    ⟨_, hupserted, rfl⟩, ⟨⟩, _, ⟨⟨⟩, m.dropItems orderId, rfl, hitems⟩, ⟨⟩, _, ⟨hid, rfl⟩, ⟨⟩, _,
    rfl, rfl, rfl⟩

theorem resolveItems_found {env : SyncEnv} {items : List NormalizedItem} {s : SyncSession}
    {ids : List Nat} {c : Catalogue} (h : resolveItems env items s.catalogue = (.ok ids, c))
    (hold : ∀ i, (c.products.row i).isSome → (s.db.products.row i).isSome)
    (hrows : ∀ id ∈ ids, ∃ product, c.products.row id = some product) :
    foundProducts env s items = some ids := by
  induction items generalizing ids with
  | nil =>
    obtain ⟨rfl, _⟩ := Tx.pure_ok_iff.mp h
    rfl
  | cons item rest ih =>
    obtain ⟨id, m, hid, hrest⟩ := Tx.bind_ok_iff.mp h
    obtain ⟨tail, m', htail, hpure⟩ := Tx.bind_ok_iff.mp hrest
    obtain ⟨rfl, rfl⟩ := Tx.pure_ok_iff.mp hpure
    obtain ⟨hrow, htailRows⟩ := List.forall_mem_cons.mp hrows
    rcases resolveProduct_ok_iff.mp hid with
      ⟨hhit, rfl⟩ | ⟨_, _, _, products, _, _, _, _, hinsert, rfl⟩
    · obtain ⟨product, hproduct⟩ := hrow
      have hlive := hold id (Option.isSome_of_eq_some hproduct)
      exact foundProducts_cons_eq_some.mpr
        ⟨id, tail, foundProduct_eq_some.mpr ⟨hhit, hlive⟩, ih htail htailRows, rfl⟩
    · -- a product that was inserted now is a row that was not there before
      obtain ⟨_, hfree, _, hnew⟩ := Table.insert_eq_some hinsert
      have hthere : (products.row id).isSome := by
        rw [hnew id, if_pos rfl]
        rfl
      have hbefore := hold id ((resolveItems_extends htail).isSome hthere)
      rw [show s.db.products.row id = none from hfree] at hbefore
      cases hbefore

/-- What an update leaves of an order. -/
def identity (order : Order) : Option (String × String) × Option DateTime :=
  (order.sourceKey, order.createdAt)

/-- The database in the second run: as the first run left it, but for the orders of
the source ids still to be stored. -/
structure Resynced (env : SyncEnv) (left : Db) (later : List String) (db : Db) : Prop where
  customers : ∀ i, db.customers.row i = left.customers.row i
  products : ∀ i, db.products.row i = left.products.row i
  orders : ∀ i, (db.orders.row i).map identity = (left.orders.row i).map identity
  settled : ∀ i, (∀ order, left.orders.row i = some order → Apart env later order) →
    (db.orders.row i).map unstamped = (left.orders.row i).map unstamped ∧
      (db.itemsOf i).Perm (left.itemsOf i)

theorem Resynced.start (env : SyncEnv) (left : Db) (later : List String) :
    Resynced env left later left :=
  ⟨fun _ => rfl, fun _ => rfl, fun _ => rfl, fun _ _ => ⟨rfl, List.Perm.refl _⟩⟩

theorem Resynced.ofRows {env : SyncEnv} {left a b : Db} {later : List String}
    (h : Resynced env left later a) (rows : SyncRows b a) : Resynced env left later b where
  customers := fun i => (rows.customers i).trans (h.customers i)
  products := fun i => (rows.products i).trans (h.products i)
  orders := by
    intro i
    rw [rows.orders i]
    exact h.orders i
  settled := by
    intro i hapart
    rw [rows.orders i, Db.itemsOf, rows.orderItems]
    exact h.settled i hapart

section Step
variable {env : SyncEnv} {left : Db} {later : List String} {n : NormalizedOrder} {orderId : Nat}
  {s : SyncSession}

theorem Resynced.order (h : Resynced env left later s.db) {order : Order} {i : Nat}
    (horder : left.orders.row i = some order) :
    ∃ now, s.db.orders.row i = some now ∧ now.sourceKey = order.sourceKey ∧
      now.createdAt = order.createdAt := by
  have hsame := h.orders i
  rw [horder, Option.map_some, Option.map_eq_some_iff] at hsame
  obtain ⟨now, hnow, hidentity⟩ := hsame
  exact ⟨now, hnow, congrArg Prod.fst hidentity, congrArg Prod.snd hidentity⟩

theorem Resynced.find {more : List String} (h : Resynced env left more s.db)
    (first : StoredFirst env n orderId later left) :
    s.db.orders.find (env.sourceName, n.sourceOrderId) = some orderId := by
  obtain ⟨order, hrow, hkey⟩ := (left.orders.find_eq_some_iff _ _).mp first.order
  obtain ⟨now, hnow, hsame, _⟩ := h.order hrow
  exact (s.db.orders.find_eq_some_iff _ _).mpr ⟨now, hnow, hsame.trans hkey⟩

theorem Resynced.lookup (h : Resynced env left later s.db) {customerId : Nat} {customer : Customer}
    (hemail : n.customerEmail ≠ "") (hrow : left.customers.row customerId = some customer)
    (hcustomer : customer.email = insertedEmail n) :
    lookupCustomer s.db.customers n.customerEmail = some customerId := by
  rw [insertedEmail, if_neg hemail] at hcustomer
  rw [lookupCustomer, if_neg hemail, Table.find_eq_some_iff]
  exact ⟨customer, (h.customers customerId).trans hrow, congrArg some hcustomer⟩

/-- The rows that the update of a stored entry leaves. -/
theorem Resynced.stores {more : List String} (h : Resynced env left more s.db) {ids : List Nat}
    (first : StoredFirst env n orderId later left) (hemail : n.customerEmail ≠ "")
    (hfound : foundProducts env s n.items = some ids) :
    ∃ customerId customer notes address, left.customers.row customerId = some customer ∧
      customer.email = insertedEmail n ∧ OrderBound env n notes address ∧
      storeEntry env n s =
        (.ok (.updated, orderId), refreshed env n s orderId customerId notes address ids) := by
  obtain ⟨customerId, customer, hrow, hcustomer⟩ := first.customer
  obtain ⟨notes, address, hbound⟩ := first.bound
  refine ⟨customerId, customer, notes, address, hrow, hcustomer, hbound, ?_⟩
  exact storeEntry_found (h.lookup hemail hrow hcustomer) hbound (h.find first) hfound first.items
    first.sourceId

/-- The same customer, notes and address as the first time. -/
theorem StoredFirst.version_eq (first : StoredFirst env n orderId later left)
    {customerId : Nat} {customer : Customer} {notes address : String} {order : Order}
    (hlast : n.sourceOrderId ∉ later) (hrow : left.customers.row customerId = some customer)
    (hcustomer : customer.email = insertedEmail n) (hbound : OrderBound env n notes address)
    (horder : left.orders.row orderId = some order) :
    unstamped order = unstamped
      { newOrder env customerId n notes address with createdAt := order.createdAt } := by
  obtain ⟨customerId', notes', address', created, customer', hbound', hrow', hcustomer',
    hversion⟩ := first.version hlast
  have hsame : customerId = customerId' := left.customers.unique customerId customerId' customer
    customer' (insertedEmail n) hrow hrow' (congrArg some hcustomer) (congrArg some hcustomer')
  have hnotes : notes = notes' := Option.some.inj (hbound.notes.symm.trans hbound'.notes)
  have haddress : address = address' := Option.some.inj (hbound.address.symm.trans hbound'.address)
  subst hsame hnotes haddress
  rw [horder, Option.map_some] at hversion
  have heq := Option.some.inj hversion
  have hcreated : order.createdAt = created := congrArg (fun o => o.createdAt) heq
  rw [heq, hcreated]

/-- Where the products are those of the first run, the order is as that left it. -/
theorem Resynced.stored (h : Resynced env left (n.sourceOrderId :: later) s.db)
    (first : StoredFirst env n orderId later left) {customerId : Nat} {customer : Customer}
    {notes address : String} {ids : List Nat} (hrow : left.customers.row customerId = some customer)
    (hcustomer : customer.email = insertedEmail n) (hbound : OrderBound env n notes address)
    (hitems : n.sourceOrderId ∉ later →
      (List.zipWith (itemRow orderId) n.items ids).Perm (left.itemsOf orderId)) :
    Resynced env left later (refreshed env n s orderId customerId notes address ids).db := by
  obtain ⟨order, horder, hkey⟩ := (left.orders.find_eq_some_iff _ _).mp first.order
  obtain ⟨now, hnow, hnowKey, hnowCreated⟩ := h.order horder
  refine ⟨h.customers, h.products, ?_, ?_⟩
  · intro i
    rw [refreshed_order]
    by_cases hi : i = orderId
    · rw [if_pos hi, ← h.orders i, Option.map_map]
      rfl
    · rw [if_neg hi]
      exact h.orders i
  · intro i hapart
    rw [refreshed_order, refreshed_itemsOf]
    by_cases hi : i = orderId
    · subst hi
      have hlast : n.sourceOrderId ∉ later := fun hmem => hapart order horder _ hmem hkey
      rw [if_pos rfl, if_pos rfl]
      refine ⟨?_, hitems hlast⟩
      rw [hnow, horder, Option.map_some, Option.map_some, Option.map_some,
        updatedOrder_eq (hnowKey.trans hkey), hnowCreated,
        first.version_eq hlast hrow hcustomer hbound horder]
    · have hothers : ∀ other, left.orders.row i = some other →
          Apart env (n.sourceOrderId :: later) other := by
        intro other hother id hid hsame
        rcases List.mem_cons.mp hid with rfl | hid
        · exact hi (left.orders.unique i orderId other order _ hother horder hsame hkey)
        · exact hapart other hother id hid hsame
      rw [if_neg hi, if_neg hi]
      exact h.settled i hothers

/-- An entry that is stored and adds neither a customer nor a product found them all. -/
theorem Resynced.found (h : Resynced env left later s.db) {t : SyncSession}
    {r : SyncAction × Nat} (hstore : storeEntry env n s = (.ok r, t))
    (hcustomers : ∀ i, (t.db.customers.row i).isSome → (left.customers.row i).isSome)
    (hproducts : ∀ i, (t.db.products.row i).isSome → (left.products.row i).isSome) :
    n.customerEmail ≠ "" ∧ ∃ ids, foundProducts env s n.items = some ids := by
  obtain ⟨action, id⟩ := r
  obtain ⟨customerId, customers, orders, ids, c, hcustomer, _, hids, hrows, _, rfl⟩ :=
    storeEntry_ok hstore
  constructor
  · intro hempty
    rcases resolveCustomer_ok_iff.mp hcustomer with ⟨hhit, _⟩ | ⟨_, _, _, _, _, hinsert⟩
    · rw [lookupCustomer, if_pos hempty] at hhit
      cases hhit
    · obtain ⟨_, hfree, _, hnew⟩ := Table.insert_eq_some hinsert
      have hthere : (customers.row customerId).isSome := by
        rw [hnew customerId, if_pos rfl]
        rfl
      have hbefore := hcustomers customerId hthere
      rw [← h.customers customerId, hfree] at hbefore
      cases hbefore
  · refine ⟨ids, resolveItems_found hids (fun i hi => ?_) hrows⟩
    rw [h.products i]
    exact hproducts i hi

end Step

/-- An entry that was stored has an address and finds its products in the cache, and
where no later version of the order follows these are the products of its rows. What an
entry that failed lacks is still missing. `shelf` is what the first run has left. -/
def repeatable (env : SyncEnv) (shelf : Shelf) (n : NormalizedOrder) (later : List String) :
    EntryOutcome → Bool
  | .failed => shelf.obstructs env n
  | .stored _ order =>
    decide (n.customerEmail ≠ "") &&
      match shelf.products env.py n.items with
      | none => false
      | some ids => decide (n.sourceOrderId ∈ later) ||
          (List.zipWith (itemRow order.id) n.items ids).isPerm (shelf.db.itemsOf order.id)

/-- An entry that fails once more may leave keys in the cache that name no row. -/
def nextShelf (env : SyncEnv) (shelf : Shelf) (n : NormalizedOrder) : EntryOutcome → Shelf
  | .failed => shelf.lose (shelf.making env n).keys
  | .stored _ _ => shelf

def allRepeatable (env : SyncEnv) : Shelf → Entries → Bool
  | _, [] => true
  | shelf, (n, first) :: rest =>
    repeatable env shelf n (storedIds rest) first &&
      allRepeatable env (nextShelf env shelf n first) rest

/-- How an entry ends the second time. -/
def Again (first second : EntryOutcome) : Prop :=
  countedAs second = if first.isFailed then none else some .updated

theorem repeatable_stored_iff {env : SyncEnv} {shelf : Shelf} {n : NormalizedOrder}
    {later : List String} {action : SyncAction} {order : SyncedOrder} :
    repeatable env shelf n later (.stored action order) = true ↔
      n.customerEmail ≠ "" ∧ ∃ ids, shelf.products env.py n.items = some ids ∧
        (n.sourceOrderId ∉ later →
          (List.zipWith (itemRow order.id) n.items ids).Perm (shelf.db.itemsOf order.id)) := by
  rw [repeatable, Bool.and_eq_true, decide_eq_true_iff]
  refine and_congr_right fun _ => ?_
  cases shelf.products env.py n.items with
  | none => simp
  | some ids =>
    simp only [Bool.or_eq_true, decide_eq_true_iff, List.isPerm_iff, Option.some.injEq,
      exists_eq_left']
    exact Decidable.or_iff_not_imp_left

theorem syncEntry_of_store {env : SyncEnv} {n : NormalizedOrder} {s t : SyncSession}
    {action : SyncAction} {id : Nat} (hid : n.sourceOrderId ≠ "")
    (h : storeEntry env n s = (.ok (action, id), t)) :
    syncEntry env n s =
      (.stored action ⟨id, n.sourceOrderId, n.status, n.backlogStatus, n.total⟩, t) := by
  unfold syncEntry Tx.savepoint
  rw [if_neg hid, h]

theorem nextShelf_db (env : SyncEnv) (shelf : Shelf) (n : NormalizedOrder)
    (first : EntryOutcome) : (nextShelf env shelf n first).db = shelf.db := by
  cases first with
  | failed => rfl
  | stored action order => rfl

section Again
variable {env : SyncEnv} {shelf : Shelf} {s : SyncSession} {n : NormalizedOrder}
  {later : List String}

/-- The session finds what is on the shelf. -/
theorem foundProducts_eq (hrows : ∀ i, s.db.products.row i = shelf.db.products.row i)
    (hs : Stocked shelf .none s.catalogue) (items : List NormalizedItem) :
    foundProducts env s items = shelf.products env.py items := by
  have hfound : ∀ item, foundProduct env s item = shelf.product env.py item := by
    intro item
    unfold foundProduct Shelf.product
    by_cases hlost : itemRef env.py item ∈ shelf.lost
    · obtain ⟨id, hid, hnone, _⟩ := hs.lost _ hlost List.not_mem_nil
      change s.productCache (itemRef env.py item) = some id at hid
      change s.db.products.row id = none at hnone
      rw [if_pos hlost, hid, Option.filter_some, hnone]
      rfl
    · have hcache : s.productCache (itemRef env.py item) = shelf.cache (itemRef env.py item) :=
        hs.cached _ hlost List.not_mem_nil
      rw [if_neg hlost, hcache]
      rcases hid : shelf.cache (itemRef env.py item) with _ | id
      · rfl
      · rw [Option.filter_some, hrows id, shelf.live _ id hid]
        rfl
  induction items with
  | nil => rfl
  | cons item rest ih => simp only [foundProducts, Shelf.products, hfound, ih]

theorem countedAs_eq_none_iff {outcome : EntryOutcome} :
    countedAs outcome = none ↔ outcome.isFailed = true := by
  cases outcome <;> simp [countedAs, EntryOutcome.isFailed]

/-- One entry of the second run: it ends as it should and leaves the database so. -/
theorem repeatable_step {first : EntryOutcome}
    (h : Resynced env shelf.db (if first.isFailed then later else n.sourceOrderId :: later) s.db)
    (hs : Stocked shelf .none s.catalogue)
    (hid : env.backend.takesStr (.varchar 120) n.sourceOrderId = true)
    (hfirst : ∀ action order, first = .stored action order →
      StoredFirst env n order.id later shelf.db)
    (hrepeat : repeatable env shelf n later first = true) :
    Again first (syncEntry env n s).1 ∧ Resynced env shelf.db later (syncEntry env n s).2.db ∧
      Stocked (nextShelf env shelf n first) .none (syncEntry env n s).2.catalogue := by
  cases first with
  | failed =>
    have hfails : (syncEntry env n s).1.isFailed = true :=
      (syncEntry_isFailed hid h.customers hs).trans hrepeat
    exact ⟨countedAs_eq_none_iff.mpr hfails, h.ofRows (syncEntry_failed hfails),
      syncEntry_loses hid h.customers h.products hs hfails⟩
  | stored action order =>
    have stored := hfirst action order rfl
    obtain ⟨hemail, ids, hids, hitems⟩ := repeatable_stored_iff.mp hrepeat
    have hfound := (foundProducts_eq h.products hs n.items).trans hids
    obtain ⟨customerId, customer, notes, address, hrow, hcustomer, hbound, hstore⟩ :=
      h.stores stored hemail hfound
    rw [syncEntry_of_store stored.named hstore]
    exact ⟨rfl, h.stored stored hrow hcustomer hbound hitems, hs⟩

/-- An entry that ends as it should, and adds neither a customer nor a product, is
repeatable as far as it goes. -/
theorem repeatable_of_again {first : EntryOutcome} {more : List String}
    (h : Resynced env shelf.db more s.db) (hs : Stocked shelf .none s.catalogue)
    (hid : env.backend.takesStr (.varchar 120) n.sourceOrderId = true)
    (hagain : Again first (syncEntry env n s).1)
    (hfirst : ∀ action order, first = .stored action order →
      StoredFirst env n order.id later shelf.db)
    (hcustomers : ∀ i, ((syncEntry env n s).2.db.customers.row i).isSome →
      (shelf.db.customers.row i).isSome)
    (hproducts : ∀ i, ((syncEntry env n s).2.db.products.row i).isSome →
      (shelf.db.products.row i).isSome)
    (hitems : ∀ action order, first = .stored action order → n.sourceOrderId ∉ later →
      ((syncEntry env n s).2.db.itemsOf order.id).Perm (shelf.db.itemsOf order.id)) :
    repeatable env shelf n later first = true := by
  cases first with
  | failed =>
    rw [repeatable, ← syncEntry_isFailed hid h.customers hs]
    exact countedAs_eq_none_iff.mp hagain
  | stored action order =>
    have stored := hfirst action order rfl
    have hkept : (syncEntry env n s).1.isFailed = false := by
      cases houtcome : (syncEntry env n s).1 with
      | failed =>
        rw [houtcome] at hagain
        cases hagain
      | stored action' order' => rfl
    obtain ⟨action', id, hstore⟩ := syncEntry_stored hkept
    obtain ⟨hemail, ids, hfound⟩ := h.found hstore hcustomers hproducts
    refine repeatable_stored_iff.mpr
      ⟨hemail, ids, (foundProducts_eq h.products hs n.items).symm.trans hfound, fun hlast => ?_⟩
    obtain ⟨customerId, customer, notes, address, _, _, _, hsame⟩ :=
      h.stores stored hemail hfound
    have hrows := hitems action order rfl hlast
    rw [syncEntry_of_store stored.named hsame, refreshed_itemsOf, if_pos rfl] at hrows
    exact hrows

/-- Customers, products, orders without their stamps, and the items of each order are as
they were. -/
structure LeftAlone (left db : Db) : Prop where
  customers : ∀ i, db.customers.row i = left.customers.row i
  products : ∀ i, db.products.row i = left.products.row i
  orders : ∀ i, (db.orders.row i).map unstamped = (left.orders.row i).map unstamped
  items : ∀ i, (db.itemsOf i).Perm (left.itemsOf i)

theorem Resynced.leftAlone {left db : Db} (h : Resynced env left [] db) : LeftAlone left db where
  customers := h.customers
  products := h.products
  orders := fun i => (h.settled i fun _ _ _ hid => absurd hid List.not_mem_nil).1
  items := fun i => (h.settled i fun _ _ _ hid => absurd hid List.not_mem_nil).2

theorem LeftAlone.order {left db : Db} (h : LeftAlone left db) {i : Nat} {order : Order}
    (horder : left.orders.row i = some order) :
    ∃ final, db.orders.row i = some final ∧ final.sourceKey = order.sourceKey := by
  have hsame := h.orders i
  rw [horder, Option.map_some, Option.map_eq_some_iff] at hsame
  obtain ⟨final, hfinal, heq⟩ := hsame
  have hkey : (unstamped final).sourceKey = (unstamped order).sourceKey := by rw [heq]
  exact ⟨final, hfinal, hkey⟩

theorem storedIds_cons (first : EntryOutcome) (rest : Entries) :
    storedIds ((n, first) :: rest) =
      if first.isFailed then storedIds rest else n.sourceOrderId :: storedIds rest := by
  rcases hfirst : first.isFailed with _ | _
  · rw [storedIds_stored rest hfirst]
    rfl
  · rw [storedIds_failed rest hfirst]
    rfl

theorem resync_forward {ms : List NormalizedOrder} {firsts : List EntryOutcome}
    (hlength : ms.length = firsts.length)
    (haudited : ∀ n ∈ ms, env.backend.takesStr (.varchar 120) n.sourceOrderId = true)
    (hfirst : FirstRun env shelf.db (ms.zip firsts))
    (h : Resynced env shelf.db (storedIds (ms.zip firsts)) s.db)
    (hs : Stocked shelf .none s.catalogue)
    (hrepeat : allRepeatable env shelf (ms.zip firsts) = true) :
    List.Forall₂ Again firsts (syncAll env ms s).1 ∧
      LeftAlone shelf.db (syncAll env ms s).2.db := by
  induction ms generalizing firsts s shelf with
  | nil =>
    obtain rfl := List.length_eq_zero_iff.mp hlength.symm
    exact ⟨List.Forall₂.nil, h.leftAlone⟩
  | cons n rest ih =>
    cases firsts with
    | nil => cases hlength
    | cons first tail =>
      rw [List.zip_cons_cons] at hfirst h hrepeat
      rw [storedIds_cons] at h
      obtain ⟨hid, hids⟩ := List.forall_mem_cons.mp haudited
      obtain ⟨hhead, hlater⟩ := Bool.and_eq_true_iff.mp hrepeat
      obtain ⟨hagain, hnext, hstocked⟩ := repeatable_step h hs hid hfirst.1 hhead
      rw [← nextShelf_db env shelf n first] at hfirst hnext ⊢
      obtain ⟨hagains, hend⟩ := ih (Nat.succ.inj hlength) hids hfirst.2 hnext hstocked hlater
      exact ⟨List.Forall₂.cons hagain hagains, hend⟩

theorem storedIds_again {ms : List NormalizedOrder} {firsts seconds : List EntryOutcome}
    (h : List.Forall₂ Again firsts seconds) :
    storedIds (ms.zip seconds) = storedIds (ms.zip firsts) := by
  induction h generalizing ms with
  | nil => rfl
  | @cons first second firsts seconds hagain _ ih =>
    cases ms with
    | nil => rfl
    | cons n rest =>
      have hsame : second.isFailed = first.isFailed := by
        cases first <;> cases second <;> first | rfl | cases hagain
      rw [List.zip_cons_cons, List.zip_cons_cons, storedIds_cons, storedIds_cons, hsame, ih]

theorem resync_backward {ms : List NormalizedOrder} {firsts : List EntryOutcome}
    (haudited : ∀ n ∈ ms, env.backend.takesStr (.varchar 120) n.sourceOrderId = true)
    (hfirst : FirstRun env shelf.db (ms.zip firsts))
    (h : Resynced env shelf.db (storedIds (ms.zip firsts)) s.db)
    (hs : Stocked shelf .none s.catalogue)
    (hagain : List.Forall₂ Again firsts (syncAll env ms s).1)
    (hleft : LeftAlone shelf.db (syncAll env ms s).2.db) :
    allRepeatable env shelf (ms.zip firsts) = true := by
  induction ms generalizing firsts s shelf with
  | nil => rfl
  | cons n rest ih =>
    rw [syncAll_cons] at hagain hleft
    obtain ⟨first, tail, hhead, htail, rfl⟩ := List.forall₂_cons_right_iff.mp hagain
    rw [List.zip_cons_cons] at hfirst h ⊢
    rw [storedIds_cons] at h
    obtain ⟨hid, hids⟩ := List.forall_mem_cons.mp haudited
    have frame := syncAll_storedFrame env rest (syncEntry env n s).2
    rw [storedIds_again htail] at frame
    have hrepeat : repeatable env shelf n (storedIds (rest.zip tail)) first = true := by
      refine repeatable_of_again h hs hid hhead hfirst.1 ?_ ?_ ?_
      · intro i hi
        rw [← hleft.customers i]
        exact frame.customers.isSome hi
      · intro i hi
        rw [← hleft.products i]
        exact frame.products.isSome hi
      · intro action order hstored hlast
        -- no later entry touches the order again
        obtain ⟨old, hold, hkey⟩ :=
          (shelf.db.orders.find_eq_some_iff _ _).mp (hfirst.1 action order hstored).order
        obtain ⟨final, hfinal, hfinalKey⟩ := hleft.order hold
        have hapart : Apart env (storedIds (rest.zip tail)) final := by
          intro id hid hsame
          rw [hfinalKey, hkey] at hsame
          obtain ⟨_, rfl⟩ := Prod.mk.inj (Option.some.inj hsame)
          exact hlast hid
        have hhere := (frame.others order.id final hapart).mp hfinal
        rw [← frame.items order.id final hhere hapart]
        exact hleft.items order.id
    obtain ⟨_, hnext, hstocked⟩ := repeatable_step h hs hid hfirst.1 hrepeat
    rw [← nextShelf_db env shelf n first] at hfirst hnext hleft
    exact Bool.and_eq_true_iff.mpr ⟨hrepeat, ih hids hfirst.2 hnext hstocked htail hleft⟩

end Again

/-- What was stored once is stored again. -/
def StoredAgain (first second : EntryOutcome) : Prop :=
  first.isFailed = false → second.isFailed = false

def createdCount (outcomes : List EntryOutcome) : Nat :=
  outcomes.countP fun o => decide (countedAs o = some .created)

def updatedCount (outcomes : List EntryOutcome) : Nat :=
  outcomes.countP fun o => decide (countedAs o = some .updated)

def storedCount (outcomes : List EntryOutcome) : Nat :=
  outcomes.countP fun o => !o.isFailed

theorem createdCount_cons (outcome : EntryOutcome) (rest : List EntryOutcome) :
    createdCount (outcome :: rest) =
      createdCount rest + if countedAs outcome = some .created then 1 else 0 := by
  simp [createdCount, List.countP_cons]

theorem updatedCount_cons (outcome : EntryOutcome) (rest : List EntryOutcome) :
    updatedCount (outcome :: rest) =
      updatedCount rest + if countedAs outcome = some .updated then 1 else 0 := by
  simp [updatedCount, List.countP_cons]

theorem storedCount_cons (outcome : EntryOutcome) (rest : List EntryOutcome) :
    storedCount (outcome :: rest) = storedCount rest + if outcome.isFailed then 0 else 1 := by
  cases outcome <;> simp [storedCount, EntryOutcome.isFailed]

theorem storedCount_le {firsts seconds : List EntryOutcome}
    (h : List.Forall₂ StoredAgain firsts seconds) (hcreated : createdCount seconds = 0) :
    storedCount firsts ≤ updatedCount seconds := by
  induction h with
  | nil => exact Nat.le_refl _
  | @cons first second firsts seconds hkept _ ih =>
    rw [createdCount_cons] at hcreated
    have hrest := ih (by omega)
    rw [updatedCount_cons, storedCount_cons]
    rcases second with ⟨_ | _, order⟩ | _
    · simp [countedAs] at hcreated
    · have hle : (if first.isFailed then 0 else 1) ≤ 1 := by split <;> omega
      simp only [countedAs, if_true]
      omega
    · have hfailed : first.isFailed = true := by
        by_contra hfirst
        cases hkept (Bool.not_eq_true _ ▸ hfirst)
      rw [hfailed]
      exact Nat.le_trans hrest (Nat.le_add_right _ _)

/-- The counters say how every single entry ended. -/
theorem again_iff {firsts seconds : List EntryOutcome} :
    List.Forall₂ Again firsts seconds ↔
      List.Forall₂ StoredAgain firsts seconds ∧ createdCount seconds = 0 ∧
        updatedCount seconds = storedCount firsts := by
  constructor
  · intro h
    induction h with
    | nil => exact ⟨List.Forall₂.nil, rfl, rfl⟩
    | @cons first second firsts seconds hagain _ ih =>
      obtain ⟨hkept, hcreated, hupdated⟩ := ih
      rw [createdCount_cons, updatedCount_cons, storedCount_cons, hcreated, hupdated, hagain]
      have hsecond : StoredAgain first second := by
        intro hfirst
        rw [Again, hfirst] at hagain
        cases second with
        | failed => cases hagain
        | stored action order => rfl
      refine ⟨List.Forall₂.cons hsecond hkept, ?_, ?_⟩
      · cases first <;> rfl
      · cases first <;> rfl
  · rintro ⟨hkept, hcreated, hupdated⟩
    induction hkept with
    | nil => exact List.Forall₂.nil
    | @cons first second firsts seconds hfirst hrest ih =>
      rw [createdCount_cons] at hcreated
      rw [updatedCount_cons, storedCount_cons] at hupdated
      have hnone : createdCount seconds = 0 := by omega
      have hle := storedCount_le hrest hnone
      rcases second with ⟨_ | _, order⟩ | _
      · simp [countedAs] at hcreated
      · rcases first with ⟨action, order'⟩ | _
        · refine List.Forall₂.cons rfl (ih hnone ?_)
          simpa [countedAs, EntryOutcome.isFailed] using hupdated
        · -- an entry more is updated than was stored
          simp only [countedAs, EntryOutcome.isFailed, if_true] at hupdated
          omega
      · rcases first with ⟨action, order'⟩ | _
        · cases hfirst rfl
        · refine List.Forall₂.cons rfl (ih hnone ?_)
          simpa [countedAs, EntryOutcome.isFailed] using hupdated

/-- Two runs over the same raw orders. The first one starts from `db`, the second
from what the first committed; `relist` is the order in which it lists the products. -/
structure TwoRuns where
  env : SyncEnv
  db : Db
  listing : Table.Listing db.products
  feed : List Arrival
  correlationId : String
  traceId : String
  again : List Arrival
  relist : (products : ProductTable) → Table.Listing products
  sameRaw : again.map Arrival.raw = feed.map Arrival.raw

namespace TwoRuns

def secondEnv (w : TwoRuns) : SyncEnv := attempt w.env w.correlationId w.traceId

def first (w : TwoRuns) : Except PyExc (SyncResult × Db) :=
  syncExternalOrders w.env w.db w.listing w.feed

def second (w : TwoRuns) (left : Db) : Except PyExc (SyncResult × Db) :=
  syncExternalOrders w.secondEnv left (w.relist left.products) w.again

/-- The second run creates nothing, updates what the first one stored, and leaves the
database alone. -/
def Idempotent (w : TwoRuns) : Prop :=
  ∃ r left, w.first = .ok (r, left) ∧ ∃ r' db', w.second left = .ok (r', db') ∧
    r'.created = 0 ∧ r'.updated = storedCount r.outcomes ∧
    List.Forall₂ StoredAgain r.outcomes r'.outcomes ∧ LeftAlone left db'

/-- The entries of the first run, one after another, and where they end. -/
def firstEntries (w : TwoRuns) (ns : List NormalizedOrder) : List EntryOutcome × SyncSession :=
  syncAll w.env ns (startSession w.env w.db w.listing)

/-- What the second run finds: the rows that the first one left, each product under its
SKU, its name and its id. -/
def secondShelf (w : TwoRuns) (left : Db) : Shelf where
  db := left
  cache := productLookup w.env.py (w.relist left.products).rows
  lost := []
  live := by
    intro key id hid
    obtain ⟨product, hrow, _⟩ :=
      ProductCache.productLookup_sound w.env.py (w.relist left.products) key id hid
    exact Option.isSome_of_eq_some hrow

/-- Every source id fits its audit row, and every entry is repeatable on what the first
run left. `ns` and `ms` are the feeds as the runs normalise them. -/
structure Repeatable (w : TwoRuns) (ns ms : List NormalizedOrder) : Prop where
  audited : ∀ n ∈ ns, w.env.backend.takesStr (.varchar 120) n.sourceOrderId = true
  entries : allRepeatable w.secondEnv (w.secondShelf (w.firstEntries ns).2.db)
    (ms.zip (w.firstEntries ns).1) = true

/-- The second run is the same again exactly when every entry is repeatable. -/
theorem idempotent_iff (w : TwoRuns) {ns ms : List NormalizedOrder}
    (hns : normalizeFeed w.env.py w.feed = .ok ns)
    (hms : normalizeFeed w.env.py w.again = .ok ms) : w.Idempotent ↔ w.Repeatable ns ms := by
  obtain ⟨ms', hms', hsame⟩ := normalizeFeed_restamp hns w.sameRaw
  obtain rfl : ms = ms' := Except.ok.inj (hms.symm.trans hms')
  let shelf := w.secondShelf (w.firstEntries ns).2.db
  let s : SyncSession := startSession w.secondEnv shelf.db (w.relist shelf.db.products)
  have hlength : ms.length = (w.firstEntries ns).1.length := by
    rw [firstEntries, syncAll_length, hsame.length_eq]
  have hfirst : FirstRun w.secondEnv shelf.db (ms.zip (w.firstEntries ns).1) :=
    (syncAll_firstRun w.env ns _).restamp w.correlationId w.traceId hsame
  have hstart : Resynced w.secondEnv shelf.db (storedIds (ms.zip (w.firstEntries ns).1))
      s.db := Resynced.start _ _ _
  have hstocked : Stocked shelf .none s.catalogue := Stocked.start shelf rfl
  have hfirstRun : w.first = _ := syncExternalOrders_of_normalized hns
  have hsecondRun : ∀ left, w.second left = _ := fun left =>
    @syncExternalOrders_of_normalized w.secondEnv _ _ _ _ hms
  have haudits : ms.all (fun n => w.secondEnv.backend.takesStr (.varchar 120) n.sourceOrderId) =
      ns.all (fun n => w.env.backend.takesStr (.varchar 120) n.sourceOrderId) :=
    audited_restamp hsame
  constructor
  · rintro ⟨r, left, hrun, r', db', hrun', hcreated, hupdated, hkept, hleft⟩
    rw [hfirstRun] at hrun
    split at hrun
    · next htaken =>
      obtain ⟨rfl, rfl⟩ := Prod.mk.inj (Except.ok.inj hrun)
      rw [hsecondRun, haudits, if_pos htaken] at hrun'
      obtain ⟨rfl, rfl⟩ := Prod.mk.inj (Except.ok.inj hrun')
      rw [(foldl_count_stored _ _).1] at hcreated
      rw [(foldl_count_stored _ _).2] at hupdated
      simp only [foldl_count_outcomes, SyncResult.zero, List.nil_append, Nat.zero_add] at *
      exact ⟨List.all_eq_true.mp htaken,
        resync_backward (List.all_eq_true.mp (haudits.trans htaken)) hfirst hstart hstocked
          (again_iff.mpr ⟨hkept, hcreated, hupdated⟩) hleft⟩
    · cases hrun
  · rintro ⟨haudited, hentries⟩
    have htaken := List.all_eq_true.mpr haudited
    obtain ⟨hagain, hleft⟩ := resync_forward hlength
      (List.all_eq_true.mp (haudits.trans htaken)) hfirst hstart hstocked hentries
    obtain ⟨hkept, hcreated, hupdated⟩ := again_iff.mp hagain
    rw [if_pos htaken] at hfirstRun
    have hsecond := hsecondRun (w.firstEntries ns).2.db
    rw [haudits, if_pos htaken] at hsecond
    refine ⟨_, _, hfirstRun, _, _, hsecond, ?_, ?_, ?_, hleft⟩
    · rw [(foldl_count_stored _ _).1]
      exact (Nat.zero_add _).trans hcreated
    · rw [(foldl_count_stored _ _).2, foldl_count_outcomes]
      exact (Nat.zero_add _).trans hupdated
    · rw [foldl_count_outcomes, foldl_count_outcomes]
      exact hkept

/-- Orders synced into an empty database at 10 and again at 20. -/
def ofOrders (raws : List Obj) : TwoRuns where
  env := sampleEnv
  db := Db.empty
  listing := Table.listing _
  feed := raws.map fun raw => ⟨raw, 10⟩
  correlationId := "run-2"
  traceId := "trace-2"
  again := raws.map fun raw => ⟨raw, 20⟩
  relist := Table.listing
  sameRaw := by rw [List.map_map, List.map_map]; rfl

def guestOrder : TwoRuns := ofOrders [[("id", .str "A-1")]]

/-- The customer made up the first time is not looked up the second time, and its
address is taken. -/
theorem guest_order_fails_again : ¬ guestOrder.Idempotent := by
  rintro ⟨r, left, hfirst, r', db', hsecond, _, hupdated, _⟩
  obtain ⟨⟨r₁, left₁⟩, hrun, hchecks⟩ := exists_ok_of_any
    (p := fun x : SyncResult × Db => decide (storedCount x.1.outcomes = 1) &&
      (guestOrder.second x.2).toOption.any fun y : SyncResult × Db => decide (y.1.updated = 0))
    (x := guestOrder.first) (by decide +kernel)
  obtain ⟨rfl, rfl⟩ := Prod.mk.inj (Except.ok.inj (hfirst.symm.trans hrun))
  obtain ⟨hstored, hlost⟩ := Bool.and_eq_true_iff.mp hchecks
  rw [hsecond] at hlost
  have hnone : r'.updated = 0 := of_decide_eq_true hlost
  rw [hnone, of_decide_eq_true hstored] at hupdated
  cases hupdated

/-- An order for a camera, and one for more straps than an integer column holds. -/
def cameraOrders : TwoRuns :=
  ofOrders [
    [("id", .str "A-1"), ("customer_email", .str "ann@example.com"),
      ("items", .arr [.obj [("name", .str "camera"), ("quantity", .int 1),
        ("unit_price", .int 300)]])],
    [("id", .str "A-2"), ("customer_email", .str "ann@example.com"),
      ("items", .arr [.obj [("name", .str "strap"), ("quantity", .int 3000000000),
        ("unit_price", .int 10)]])]]

theorem idempotent_iff_sample : cameraOrders.Idempotent := by
  obtain ⟨ns, hns, hrest⟩ := exists_ok_of_any
    (p := fun ns => (normalizeFeed cameraOrders.env.py cameraOrders.again).toOption.any fun ms =>
      ns.all (fun n => cameraOrders.env.backend.takesStr (.varchar 120) n.sourceOrderId) &&
        allRepeatable cameraOrders.secondEnv
          (cameraOrders.secondShelf (cameraOrders.firstEntries ns).2.db)
          (ms.zip (cameraOrders.firstEntries ns).1))
    (x := normalizeFeed cameraOrders.env.py cameraOrders.feed) (by decide +kernel)
  obtain ⟨ms, hms, hchecks⟩ := exists_ok_of_any hrest
  obtain ⟨haudited, hentries⟩ := Bool.and_eq_true_iff.mp hchecks
  exact (cameraOrders.idempotent_iff hns hms).mpr ⟨List.all_eq_true.mp haudited, hentries⟩

end TwoRuns

end SyncIdempotence
