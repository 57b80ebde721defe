import CrmPortal.OrderSync

/-!
# What one entry and one run of the sync do

One inversion lemma for each program of the sync, and from them the frame of an
entry: customers and products are only added to, an order keeps its key and its
creation time, and the orders of other source ids keep their rows and items. A
run is the entries one after another, so the frames compose over the feed.
-/

namespace OrderSyncSpec

open PyValue IdentityTable Transaction CrmDatabase OrderNormalization OrderSync

theorem resolveCustomer_ok_iff {env : SyncEnv} {n : NormalizedOrder} {s t : CustomerTable}
    {id : Nat} : resolveCustomer env n s = (.ok id, t) ↔
      (lookupCustomer s n.customerEmail = some id ∧ t = s) ∨
      (lookupCustomer s n.customerEmail = none ∧ ∃ name,
        env.backend.bindText (.varchar 200) n.customerName = some name ∧
        env.backend.takesStr (.varchar 200) (insertedEmail n) = true ∧
        env.backend.takesFloat n.total = true ∧
        s.insert (newCustomer env n name) = some (id, t)) := by
  unfold resolveCustomer
  rw [Tx.bind_of_ok _ (Tx.read_apply s)]
  rcases hl : lookupCustomer s n.customerEmail with _ | found
  · simp only [Tx.bind_ok_iff, Tx.orRaise_ok_iff, Tx.check_ok_iff, Tx.write_ok_iff,
      Tx.pure_ok_iff, reduceCtorEq, false_and, false_or, true_and]
    constructor
    · rintro ⟨name, m, ⟨hname, rfl⟩, _, m, ⟨hemail, rfl⟩, _, m, ⟨htotal, rfl⟩, ⟨id', inserted⟩,
        m, ⟨hinsert, rfl⟩, _, m', rfl, rfl, rfl⟩
      exact ⟨name, hname, hemail, htotal, hinsert⟩
    · rintro ⟨name, hname, hemail, htotal, hinsert⟩
      exact ⟨name, s, ⟨hname, rfl⟩, ⟨⟩, s, ⟨hemail, rfl⟩, ⟨⟩, s, ⟨htotal, rfl⟩, (id, t), s,
        ⟨hinsert, rfl⟩, ⟨⟩, t, rfl, rfl, rfl⟩
  · simp only [Tx.pure_ok_iff, Option.some.injEq, reduceCtorEq, false_and, or_false]

/-- What the upsert binds, whichever branch it takes. -/
structure OrderBound (env : SyncEnv) (n : NormalizedOrder) (notes address : String) : Prop where
  notes : env.backend.bindText .text n.notes = some notes
  address : env.backend.bindText .text n.shippingAddress = some address
  columns : orderColumnsTaken env n = true

theorem upsertOrder_ok_iff {env : SyncEnv} {customerId : Nat} {n : NormalizedOrder}
    {s t : OrderTable} {action : SyncAction} {id : Nat} :
    upsertOrder env customerId n s = (.ok (action, id), t) ↔
      ∃ notes address, OrderBound env n notes address ∧
        ((s.find (env.sourceName, n.sourceOrderId) = none ∧ action = .created ∧
            env.backend.takesStr (.varchar 120) n.sourceOrderId = true ∧
            s.insert (newOrder env customerId n notes address) = some (id, t)) ∨
          (s.find (env.sourceName, n.sourceOrderId) = some id ∧ action = .updated ∧
            t = s.modify id (updatedOrder env customerId n notes address)
              (updatedOrder_sourceKey env customerId n notes address))) := by
  unfold upsertOrder
  rw [Tx.bind_of_ok _ (Tx.read_apply s)]
  simp only [Tx.bind_ok_iff (x := Tx.orRaise _ _), Tx.bind_ok_iff (x := Tx.check _ _),
    Tx.orRaise_ok_iff, Tx.check_ok_iff]
  rcases hf : s.find (env.sourceName, n.sourceOrderId) with _ | found
  · simp only [Tx.bind_ok_iff, Tx.orRaise_ok_iff, Tx.check_ok_iff, Tx.write_ok_iff,
      Tx.pure_ok_iff, reduceCtorEq, false_and, or_false, true_and, Prod.mk.injEq]
    constructor
    · rintro ⟨notes, m, ⟨hnotes, rfl⟩, address, m, ⟨haddress, rfl⟩, _, m, ⟨hcolumns, rfl⟩, _, m,
        ⟨hid, rfl⟩, ⟨id', inserted⟩, m, ⟨hinsert, rfl⟩, _, m', rfl, ⟨rfl, rfl⟩, rfl⟩
      exact ⟨notes, address, ⟨hnotes, haddress, hcolumns⟩, rfl, hid, hinsert⟩
    · rintro ⟨notes, address, ⟨hnotes, haddress, hcolumns⟩, rfl, hid, hinsert⟩
      exact ⟨notes, s, ⟨hnotes, rfl⟩, address, s, ⟨haddress, rfl⟩, ⟨⟩, s, ⟨hcolumns, rfl⟩, ⟨⟩, s,
        ⟨hid, rfl⟩, (id, t), s, ⟨hinsert, rfl⟩, ⟨⟩, t, rfl, ⟨rfl, rfl⟩, rfl⟩
  · simp only [Tx.bind_ok_iff, Tx.write_ok_iff, Tx.pure_ok_iff, reduceCtorEq, false_and,
      false_or, Prod.mk.injEq, Option.some.injEq]
    constructor
    · rintro ⟨notes, m, ⟨hnotes, rfl⟩, address, m, ⟨haddress, rfl⟩, _, m, ⟨hcolumns, rfl⟩, _, m',
        rfl, ⟨rfl, rfl⟩, rfl⟩
      exact ⟨notes, address, ⟨hnotes, haddress, hcolumns⟩, rfl, rfl, rfl⟩
    · rintro ⟨notes, address, ⟨hnotes, haddress, hcolumns⟩, rfl, rfl, rfl⟩
      exact ⟨notes, s, ⟨hnotes, rfl⟩, address, s, ⟨haddress, rfl⟩, ⟨⟩, s, ⟨hcolumns, rfl⟩, ⟨⟩, _,
        rfl, ⟨rfl, rfl⟩, rfl⟩

/-- The catalogue after a new product has been written and cached. -/
def grown (py : Builtins) (c : Catalogue) (products : ProductTable)
    (sku name : String) (id : Nat) : Catalogue where
  products := products
  cache := cachePut (cachePut c.cache (py.lower sku) id) (py.lower name) id

theorem resolveProduct_ok_iff {env : SyncEnv} {item : NormalizedItem} {c d : Catalogue}
    {id : Nat} : resolveProduct env item c = (.ok id, d) ↔
      (c.cache (itemRef env.py item) = some id ∧ d = c) ∨
      (c.cache (itemRef env.py item) = none ∧ ∃ text name products,
        hashedText env.py item = .ok text ∧ baseName item = .str name ∧
        env.backend.takesStr (.varchar 200) name = true ∧
        env.backend.takesFloat item.unitPrice = true ∧
        c.products.insert (newProduct env item name (syncSku env.py text)) = some (id, products) ∧
        d = grown env.py c products (syncSku env.py text) name id) := by
  unfold resolveProduct
  rw [Tx.bind_of_ok _ (Tx.read_apply c)]
  rcases hc : c.cache (itemRef env.py item) with _ | found
  · simp only [Tx.bind_ok_iff, Tx.orRaise_ok_iff, Tx.ofExcept_ok_iff, Tx.check_ok_iff,
      Tx.write_ok_iff, Tx.pure_ok_iff, reduceCtorEq, false_and, false_or, true_and]
    constructor
    · rintro ⟨text, m, ⟨htext, rfl⟩, name, m, ⟨hname, rfl⟩, _, m, ⟨hprice, rfl⟩, ⟨id', inserted⟩,
        m, ⟨hinsert, rfl⟩, _, m₁, rfl, _, m₂, rfl, spelled, m₃, ⟨hspelled, rfl⟩, _, m₄, rfl,
        rfl, rfl⟩
      have hstr : baseName item = .str spelled := Json.asStr_ok_iff.mp hspelled
      have hbound := hname
      rw [hstr] at hbound
      obtain rfl : name = spelled := env.backend.bindText_str _ _ _ hbound
      refine ⟨text, name, inserted, htext, hstr, ?_, hprice, hinsert, rfl⟩
      simp [Backend.takesStr, hbound]
    · rintro ⟨text, name, products, htext, hstr, htaken, hprice, hinsert, rfl⟩
      have hbound : env.backend.bindText (.varchar 200) (baseName item) = some name := by
        rw [hstr]
        exact Backend.bindText_of_takesStr htaken
      exact ⟨text, c, ⟨htext, rfl⟩, name, c, ⟨hbound, rfl⟩, ⟨⟩, c, ⟨hprice, rfl⟩, (id, products),
        c, ⟨hinsert, rfl⟩, ⟨⟩, _, rfl, ⟨⟩, _, rfl, name, _, ⟨Json.asStr_ok_iff.mpr hstr, rfl⟩, ⟨⟩,
        _, rfl, rfl, rfl⟩
  · simp only [Tx.pure_ok_iff, Option.some.injEq, reduceCtorEq, false_and, or_false]

/-- The row that an item becomes once its product is known. -/
def itemRow (orderId : Nat) (item : NormalizedItem) (productId : Nat) : OrderItem where
  orderId := orderId
  productId := some productId
  quantity := item.quantity
  unitPrice := item.unitPrice

/-- The resolver run over the items of one order, for the products it returns. -/
def resolveItems (env : SyncEnv) : List NormalizedItem → Tx Catalogue PyExc (List Nat)
  | [] => pure []
  | item :: rest => do
    let id ← resolveProduct env item
    let ids ← resolveItems env rest
    return id :: ids

/-- The session with the catalogue `c` and some more item rows. -/
def stored (s : SyncSession) (c : Catalogue) (rows : List OrderItem) : SyncSession where
  db := { s.db with products := c.products, orderItems := s.db.orderItems ++ rows }
  productCache := c.cache

theorem syncItem_ok_iff {env : SyncEnv} {orderId : Nat} {item : NormalizedItem}
    {s t : SyncSession} {u : PUnit} : syncItem env orderId item s = (.ok u, t) ↔
      ∃ id c, resolveProduct env item s.catalogue = (.ok id, c) ∧
        env.backend.takesInt item.quantity = true ∧ env.backend.takesFloat item.unitPrice = true ∧
        (c.products.row id).isSome = true ∧ t = stored s c [itemRow orderId item id] := by
  unfold syncItem addOrderItem onCatalogue
  simp only [Tx.bind_ok_iff, Tx.focus_ok_iff, Tx.read_ok_iff, Tx.check_ok_iff, Tx.write_ok_iff]
  constructor
  · rintro ⟨id, m, ⟨c, hc, rfl⟩, _, m, ⟨rfl, rfl⟩, _, m, ⟨hq, rfl⟩, _, m, ⟨hp, rfl⟩, _, m,
      ⟨hrow, rfl⟩, rfl⟩
    exact ⟨id, c, hc, hq, hp, hrow, rfl⟩
  · rintro ⟨id, c, hc, hq, hp, hrow, rfl⟩
    exact ⟨id, _, ⟨c, hc, rfl⟩, _, _, ⟨rfl, rfl⟩, ⟨⟩, _, ⟨hq, rfl⟩, ⟨⟩, _, ⟨hp, rfl⟩, ⟨⟩, _,
      ⟨hrow, rfl⟩, rfl⟩

theorem resolveProduct_extends {env : SyncEnv} {item : NormalizedItem} {c d : Catalogue} {id : Nat}
    (h : resolveProduct env item c = (.ok id, d)) : Table.Extends c.products d.products := by
  rcases resolveProduct_ok_iff.mp h with ⟨_, rfl⟩ | ⟨_, _, _, _, _, _, _, _, hinsert, rfl⟩
  · exact Table.Extends.refl _
  · exact Table.insert_extends hinsert

theorem resolveItems_extends {env : SyncEnv} {items : List NormalizedItem} {c d : Catalogue}
    {ids : List Nat} (h : resolveItems env items c = (.ok ids, d)) :
    Table.Extends c.products d.products := by
  induction items generalizing c ids with
  | nil =>
    obtain ⟨_, rfl⟩ := Tx.pure_ok_iff.mp h
    exact Table.Extends.refl _
  | cons item rest ih =>
    obtain ⟨id, m, hid, hrest⟩ := Tx.bind_ok_iff.mp h
    obtain ⟨tail, m', htail, hpure⟩ := Tx.bind_ok_iff.mp hrest
    obtain ⟨_, rfl⟩ := Tx.pure_ok_iff.mp hpure
    exact (resolveProduct_extends hid).trans (ih htail)

/-- Storing the items resolves their products in turn, and every product that a
row refers to is there. -/
theorem syncItems_ok {env : SyncEnv} {orderId : Nat} {items : List NormalizedItem}
    {s t : SyncSession} {u : PUnit} (h : Tx.forEach (syncItem env orderId) items s = (.ok u, t)) :
    ∃ ids c, resolveItems env items s.catalogue = (.ok ids, c) ∧
      (∀ id ∈ ids, ∃ product, c.products.row id = some product) ∧
      t = stored s c (List.zipWith (itemRow orderId) items ids) := by
  induction items generalizing s with
  | nil =>
    obtain ⟨_, rfl⟩ := Tx.pure_ok_iff.mp h
    refine ⟨[], t.catalogue, rfl, by simp, ?_⟩
    simp [stored, SyncSession.catalogue]
  | cons item rest ih =>
    obtain ⟨_, m, hitem, hrest⟩ := Tx.bind_ok_iff.mp h
    obtain ⟨id, c, hid, _, _, hrow, rfl⟩ := syncItem_ok_iff.mp hitem
    obtain ⟨ids, d, hids, hrows, rfl⟩ := ih hrest
    obtain ⟨product, hproduct⟩ := Option.isSome_iff_exists.mp hrow
    refine ⟨id :: ids, d, ?_, ?_, ?_⟩
    · refine Tx.bind_ok_iff.mpr ⟨id, c, hid, ?_⟩
      exact Tx.bind_ok_iff.mpr ⟨ids, d, hids, rfl⟩
    · intro id' hmem
      rcases List.mem_cons.mp hmem with rfl | hmem
      · exact ⟨product, resolveItems_extends hids _ _ hproduct⟩
      · exact hrows id' hmem
    · simp [stored]

/-- The session after an entry was stored: its order and customer are in the
tables, its old item rows are gone and the new ones are at the end. -/
def entryResult (env : SyncEnv) (n : NormalizedOrder) (s : SyncSession)
    (action : SyncAction) (orderId : Nat) (customers : CustomerTable) (orders : OrderTable)
    (c : Catalogue) (ids : List Nat) : SyncSession where
  db := { s.db with
    customers := customers
    products := c.products
    orders := orders
    orderItems := s.db.orderItems.filter (fun item => decide (item.orderId ≠ orderId)) ++
      List.zipWith (itemRow orderId) n.items ids
    orderSyncAudit := s.db.orderSyncAudit ++ [auditRow env n.sourceOrderId action.label "success"
      (.text s!"{action.label} order from {env.sourceName}")] }
  productCache := c.cache

theorem storeEntry_ok {env : SyncEnv} {n : NormalizedOrder} {s t : SyncSession}
    {action : SyncAction} {orderId : Nat} (h : storeEntry env n s = (.ok (action, orderId), t)) :
    ∃ customerId customers orders ids c,
      resolveCustomer env n s.db.customers = (.ok customerId, customers) ∧
      upsertOrder env customerId n s.db.orders = (.ok (action, orderId), orders) ∧
      resolveItems env n.items s.catalogue = (.ok ids, c) ∧
      (∀ id ∈ ids, ∃ product, c.products.row id = some product) ∧
      env.backend.takesStr (.varchar 120) n.sourceOrderId = true ∧
      t = entryResult env n s action orderId customers orders c ids := by
  unfold storeEntry onCustomers onOrders replaceOrderItems at h
  simp only [Tx.bind_ok_iff, Tx.focus_ok_iff, Tx.check_ok_iff, Tx.write_ok_iff,
    Tx.pure_ok_iff] at h
  obtain ⟨customerId, m, ⟨customers, hcustomer, rfl⟩, ⟨action', orderId'⟩, m,
    ⟨orders, horder, rfl⟩, _, m, ⟨_, m', rfl, hitems⟩, _, m'', ⟨htaken, rfl⟩, _, _, rfl,
    hresult, rfl⟩ := h
  obtain ⟨rfl, rfl⟩ : action' = action ∧ orderId' = orderId := Prod.mk.inj hresult
  obtain ⟨ids, c, hids, hrows, rfl⟩ := syncItems_ok hitems
  exact ⟨customerId, customers, orders, ids, c, hcustomer, horder, hids, hrows, htaken, rfl⟩

theorem resolveCustomer_extends {env : SyncEnv} {n : NormalizedOrder} {s t : CustomerTable}
    {id : Nat} (h : resolveCustomer env n s = (.ok id, t)) : Table.Extends s t := by
  rcases resolveCustomer_ok_iff.mp h with ⟨_, rfl⟩ | ⟨_, _, _, _, _, hinsert⟩
  · exact Table.Extends.refl _
  · exact Table.insert_extends hinsert

/-- The customer of an order has the address that the entry gives, or the one
made up from its source id. -/
theorem resolveCustomer_email {env : SyncEnv} {n : NormalizedOrder} {s t : CustomerTable}
    {id : Nat} (h : resolveCustomer env n s = (.ok id, t)) :
    ∃ customer, t.row id = some customer ∧ customer.email = insertedEmail n := by
  rcases resolveCustomer_ok_iff.mp h with ⟨hfound, rfl⟩ | ⟨_, name, _, _, _, hinsert⟩
  · unfold lookupCustomer at hfound
    by_cases hempty : n.customerEmail = ""
    · simp [hempty] at hfound
    · rw [if_neg hempty] at hfound
      obtain ⟨customer, hrow, hkey⟩ := (t.find_eq_some_iff _ _).mp hfound
      refine ⟨customer, hrow, ?_⟩
      rw [insertedEmail, if_neg hempty]
      exact Option.some.inj hkey
  · obtain ⟨_, _, _, hrow⟩ := Table.insert_eq_some hinsert
    exact ⟨newCustomer env n name, by simp [hrow], rfl⟩

/-- The update branch assigns what the insert branch does, and leaves the
creation time. -/
theorem updatedOrder_eq {env : SyncEnv} {n : NormalizedOrder} {order : Order}
    (hkey : order.sourceKey = some (env.sourceName, n.sourceOrderId))
    (customerId : Nat) (notes address : String) :
    updatedOrder env customerId n notes address order =
      { newOrder env customerId n notes address with createdAt := order.createdAt } := by
  unfold Order.sourceKey at hkey
  rcases hsystem : order.sourceSystem with _ | system
  · simp [hsystem] at hkey
  rcases hid : order.sourceOrderId with _ | id
  · simp [hsystem, hid] at hkey
  simp only [hsystem, hid, Option.some.injEq, Prod.mk.injEq] at hkey
  simp [updatedOrder, newOrder, hsystem, hid, hkey.1, hkey.2]

/-- The order that an upsert leaves, in either branch. -/
theorem upsertOrder_row {env : SyncEnv} {customerId : Nat} {n : NormalizedOrder}
    {s t : OrderTable} {action : SyncAction} {id : Nat}
    (h : upsertOrder env customerId n s = (.ok (action, id), t)) :
    ∃ notes address created, OrderBound env n notes address ∧
      t.row id = some { newOrder env customerId n notes address with createdAt := created } ∧
      (∀ j, j ≠ id → t.row j = s.row j) ∧
      ((action = .created ∧ s.find (env.sourceName, n.sourceOrderId) = none ∧
          s.row id = none ∧ created = some n.createdAt) ∨
        (action = .updated ∧ ∃ old, s.row id = some old ∧
          old.sourceKey = some (env.sourceName, n.sourceOrderId) ∧
          created = old.createdAt)) := by
  obtain ⟨notes, address, hbound, ⟨hnone, rfl, _, hinsert⟩ | ⟨hfound, rfl, rfl⟩⟩ :=
    upsertOrder_ok_iff.mp h
  · obtain ⟨_, hfree, _, hrow⟩ := Table.insert_eq_some hinsert
    refine ⟨notes, address, some n.createdAt, hbound, ?_, ?_, Or.inl ⟨rfl, hnone, hfree, rfl⟩⟩
    · rw [hrow id, if_pos rfl]
      rfl
    · intro j hj
      rw [hrow j, if_neg hj]
  · obtain ⟨old, hold, hkey⟩ := (s.find_eq_some_iff _ _).mp hfound
    refine ⟨notes, address, old.createdAt, hbound, ?_, ?_,
      Or.inr ⟨rfl, old, hold, hkey, rfl⟩⟩
    · rw [Table.modify_row, if_pos rfl, hold, Option.map_some, updatedOrder_eq hkey]
    · intro j hj
      rw [Table.modify_row, if_neg hj]

/-- The order belongs to none of the source ids, or to another system. -/
def Apart (env : SyncEnv) (ids : List String) (order : Order) : Prop :=
  ∀ id ∈ ids, order.sourceKey ≠ some (env.sourceName, id)

/-- What may differ after the entries with the given source ids. -/
structure Frame (env : SyncEnv) (ids : List String) (a b : Db) : Prop where
  customers : Table.Extends a.customers b.customers
  products : Table.Extends a.products b.products
  kept : ∀ i order, a.orders.row i = some order → ∃ order', b.orders.row i = some order' ∧
    order'.sourceKey = order.sourceKey ∧ order'.createdAt = order.createdAt
  others : ∀ i order, Apart env ids order →
    (b.orders.row i = some order ↔ a.orders.row i = some order)
  items : ∀ i order, a.orders.row i = some order → Apart env ids order →
    b.itemsOf i = a.itemsOf i

/-- The four tables of the sync hold the same rows. -/
structure SyncRows (a b : Db) : Prop where
  customers : ∀ i, a.customers.row i = b.customers.row i
  products : ∀ i, a.products.row i = b.products.row i
  orders : ∀ i, a.orders.row i = b.orders.row i
  orderItems : a.orderItems = b.orderItems

theorem SyncRows.refl (a : Db) : SyncRows a a :=
  ⟨fun _ => rfl, fun _ => rfl, fun _ => rfl, rfl⟩

theorem Frame.ofRows {env : SyncEnv} {ids : List String} {a b : Db} (h : SyncRows b a) :
    Frame env ids a b where
  customers := fun i r hr => (h.customers i).trans hr
  products := fun i r hr => (h.products i).trans hr
  kept := fun i order horder => ⟨order, (h.orders i).trans horder, rfl, rfl⟩
  others := fun i order _ => by rw [h.orders i]
  items := fun i _ _ _ => by rw [Db.itemsOf, Db.itemsOf, h.orderItems]

theorem Frame.trans {env : SyncEnv} {ids more : List String} {a b c : Db}
    (h : Frame env ids a b) (k : Frame env more b c) : Frame env (ids ++ more) a c where
  customers := h.customers.trans k.customers
  products := h.products.trans k.products
  kept := by
    intro i order horder
    obtain ⟨mid, hmid, hkey, hcreated⟩ := h.kept i order horder
    obtain ⟨last, hlast, hkey', hcreated'⟩ := k.kept i mid hmid
    exact ⟨last, hlast, hkey'.trans hkey, hcreated'.trans hcreated⟩
  others := by
    intro i order hapart
    have first := h.others i order fun id hid => hapart id (List.mem_append_left more hid)
    have second := k.others i order fun id hid => hapart id (List.mem_append_right ids hid)
    exact second.trans first
  items := by
    intro i order horder hapart
    have hfirst : Apart env ids order := fun id hid => hapart id (List.mem_append_left more hid)
    have hmid := (h.others i order hfirst).mpr horder
    have hitems := k.items i order hmid fun id hid => hapart id (List.mem_append_right ids hid)
    exact hitems.trans (h.items i order horder hfirst)

/-- The row of an item refers to the order, and to the product resolved for it. -/
theorem mem_itemRows {orderId : Nat} {items : List NormalizedItem} {ids : List Nat}
    {item : OrderItem} (h : item ∈ List.zipWith (itemRow orderId) items ids) :
    item.orderId = orderId ∧ ∃ id ∈ ids, item.productId = some id := by
  induction items generalizing ids with
  | nil => cases h
  | cons first rest ih =>
    cases ids with
    | nil => cases h
    | cons id tail =>
      rw [List.zipWith_cons_cons] at h
      rcases List.mem_cons.mp h with rfl | hlater
      · exact ⟨rfl, id, List.mem_cons_self, rfl⟩
      · obtain ⟨horder, id', hid', hproduct⟩ := ih hlater
        exact ⟨horder, id', List.mem_cons_of_mem _ hid', hproduct⟩

theorem itemsOf_replaced (s : SyncSession) (orderId i : Nat) (items : List NormalizedItem)
    (ids : List Nat) :
    (s.db.orderItems.filter (fun item => decide (item.orderId ≠ orderId)) ++
      List.zipWith (itemRow orderId) items ids).filter (fun item => decide (item.orderId = i)) =
    if i = orderId then List.zipWith (itemRow orderId) items ids else s.db.itemsOf i := by
  have hrows : ∀ item ∈ List.zipWith (itemRow orderId) items ids, item.orderId = orderId :=
    fun item hitem => (mem_itemRows hitem).1
  rw [List.filter_append, List.filter_filter]
  by_cases hi : i = orderId
  · subst hi
    have hold : s.db.orderItems.filter
        (fun item => decide (item.orderId = i) && decide (item.orderId ≠ i)) = [] := by
      rw [List.filter_eq_nil_iff]
      intro item _
      simp
    rw [hold, List.nil_append, if_pos rfl, List.filter_eq_self]
    intro item hitem
    simp [hrows item hitem]
  · have hnew : (List.zipWith (itemRow orderId) items ids).filter
        (fun item => decide (item.orderId = i)) = [] := by
      rw [List.filter_eq_nil_iff]
      intro item hitem
      simp [hrows item hitem, Ne.symm hi]
    rw [hnew, List.append_nil, if_neg hi]
    refine List.filter_congr fun item _ => ?_
    by_cases h : item.orderId = i
    · simp [h, hi]
    · simp [h]

theorem storeEntry_frame {env : SyncEnv} {n : NormalizedOrder} {s t : SyncSession}
    {action : SyncAction} {orderId : Nat} (h : storeEntry env n s = (.ok (action, orderId), t)) :
    Frame env [n.sourceOrderId] s.db t.db := by
  obtain ⟨customerId, customers, orders, ids, c, hcustomer, horder, hids, _, _, rfl⟩ :=
    storeEntry_ok h
  obtain ⟨notes, address, created, _, hrow, hothers, hbefore⟩ := upsertOrder_row horder
  -- a row of the table that the upsert leaves alone has another key
  have hne : ∀ i order, Apart env [n.sourceOrderId] order →
      orders.row i = some order ∨ s.db.orders.row i = some order → i ≠ orderId := by
    rintro i order hapart hrows rfl
    have hkey := hapart n.sourceOrderId (List.mem_singleton_self _)
    rcases hrows with hnew | hold
    · rw [hrow] at hnew
      obtain rfl := Option.some.inj hnew
      exact hkey rfl
    · rcases hbefore with ⟨_, _, hfree, _⟩ | ⟨_, old, holdrow, holdkey, _⟩
      · rw [hfree] at hold
        cases hold
      · rw [holdrow] at hold
        obtain rfl := Option.some.inj hold
        exact hkey holdkey
  refine ⟨resolveCustomer_extends hcustomer, resolveItems_extends hids, ?_, ?_, ?_⟩
  · intro i order hold
    by_cases hi : i = orderId
    · subst hi
      rcases hbefore with ⟨_, _, hfree, _⟩ | ⟨_, old, holdrow, holdkey, hcreated⟩
      · rw [hfree] at hold
        cases hold
      · rw [holdrow] at hold
        obtain rfl := Option.some.inj hold
        exact ⟨_, hrow, holdkey.symm, hcreated⟩
    · exact ⟨order, (hothers i hi).trans hold, rfl, rfl⟩
  · intro i order hapart
    constructor
    · intro hnew
      exact (hothers i (hne i order hapart (Or.inl hnew))).symm.trans hnew
    · intro hold
      exact (hothers i (hne i order hapart (Or.inr hold))).trans hold
  · intro i order hold hapart
    have hi := hne i order hapart (Or.inr hold)
    exact (itemsOf_replaced s orderId i n.items ids).trans (if_neg hi)

def skipRow (env : SyncEnv) : OrderSyncAudit :=
  auditRow env "" "skip" "invalid" (.text "Missing source order id")

/-- The three ways through the loop body. -/
theorem syncEntry_cases (env : SyncEnv) (n : NormalizedOrder) (s : SyncSession) :
    (n.sourceOrderId = "" ∧ syncEntry env n s = (.failed, s.addAudit (skipRow env))) ∨
    (n.sourceOrderId ≠ "" ∧ ∃ action id t, storeEntry env n s = (.ok (action, id), t) ∧
      syncEntry env n s =
        (.stored action ⟨id, n.sourceOrderId, n.status, n.backlogStatus, n.total⟩, t)) ∨
    (n.sourceOrderId ≠ "" ∧ ∃ exc m, storeEntry env n s = (.error exc, m) ∧
      syncEntry env n s = (.failed, (SyncSession.rollback s m).addAudit
        (auditRow env n.sourceOrderId "upsert" "failed" (.strOf exc)))) := by
  unfold syncEntry Tx.savepoint
  by_cases hid : n.sourceOrderId = ""
  · exact Or.inl ⟨hid, if_pos hid⟩
  · simp only [if_neg hid]
    rcases hrun : storeEntry env n s with ⟨exc | ⟨action, id⟩, t⟩
    · exact Or.inr (Or.inr ⟨hid, exc, t, rfl, rfl⟩)
    · exact Or.inr (Or.inl ⟨hid, action, id, t, rfl, rfl⟩)

/-- Stored or failed, an entry changes nothing outside its own source id. -/
theorem syncEntry_frame (env : SyncEnv) (n : NormalizedOrder) (s : SyncSession) :
    Frame env [n.sourceOrderId] s.db (syncEntry env n s).2.db := by
  rcases syncEntry_cases env n s with ⟨_, h⟩ | ⟨_, action, id, t, hstore, h⟩ |
    ⟨_, exc, m, _, h⟩
  · rw [h]
    exact Frame.ofRows ⟨fun _ => rfl, fun _ => rfl, fun _ => rfl, rfl⟩
  · rw [h]
    exact storeEntry_frame hstore
  · rw [h]
    exact Frame.ofRows ⟨fun _ => rfl, fun _ => rfl, fun _ => rfl, rfl⟩

/-- An entry refers to rows that are there. -/
theorem syncEntry_foreignKeys {env : SyncEnv} {n : NormalizedOrder} {s : SyncSession}
    (hs : s.db.ForeignKeys) : (syncEntry env n s).2.db.ForeignKeys := by
  rcases syncEntry_cases env n s with ⟨_, h⟩ | ⟨_, action, orderId, t, hstore, h⟩ |
    ⟨_, exc, m, _, h⟩
  · rw [h]
    exact ⟨hs.customer, hs.order, hs.product⟩
  · have frame := storeEntry_frame hstore
    obtain ⟨customerId, customers, orders, ids, c, hcustomer, horder, _, hids, _, rfl⟩ :=
      storeEntry_ok hstore
    obtain ⟨notes, address, created, _, hrow, hothers, _⟩ := upsertOrder_row horder
    have kept : ∀ i, (s.db.orders.row i).isSome → (orders.row i).isSome := by
      intro i hi
      obtain ⟨order, horder⟩ := Option.isSome_iff_exists.mp hi
      obtain ⟨order', horder', _⟩ := frame.kept i order horder
      exact Option.isSome_of_eq_some horder'
    rw [h]
    refine ⟨?_, ?_, ?_⟩
    · intro i order id hi hid
      change orders.row i = some order at hi
      by_cases hown : i = orderId
      · subst hown
        rw [hrow] at hi
        cases hi
        obtain rfl : customerId = id := Option.some.inj hid
        obtain ⟨customer, hcustomerRow, _⟩ := resolveCustomer_email hcustomer
        exact Option.isSome_of_eq_some hcustomerRow
      · rw [hothers i hown] at hi
        exact frame.customers.isSome (hs.customer i order id hi hid)
    · intro item hitem
      rcases List.mem_append.mp hitem with hold | hnew
      · exact kept _ (hs.order item (List.mem_of_mem_filter hold))
      · rw [(mem_itemRows hnew).1]
        exact Option.isSome_of_eq_some hrow
    · intro item hitem id hid
      rcases List.mem_append.mp hitem with hold | hnew
      · exact frame.products.isSome (hs.product item (List.mem_of_mem_filter hold) id hid)
      · obtain ⟨_, id', hid', hproduct⟩ := mem_itemRows hnew
        obtain rfl : id' = id := Option.some.inj (hproduct.symm.trans hid)
        obtain ⟨product, hproductRow⟩ := hids id' hid'
        exact Option.isSome_of_eq_some hproductRow
  · rw [h]
    exact ⟨hs.customer, hs.order, hs.product⟩

/-- The feed as the loop normalises it. -/
def normalizeFeed (py : Builtins) : List Arrival → Except PyExc (List NormalizedOrder)
  | [] => .ok []
  | entry :: rest => do
    let n ← normalizeExternalOrder py entry.now entry.raw
    let ns ← normalizeFeed py rest
    return n :: ns

/-- The entries of a feed that normalises, one after another. -/
def syncAll (env : SyncEnv) : List NormalizedOrder → SyncSession → List EntryOutcome × SyncSession
  | [], s => ([], s)
  | n :: rest, s =>
    let (outcome, t) := syncEntry env n s
    let (outcomes, u) := syncAll env rest t
    (outcome :: outcomes, u)

theorem normalizeFeed_cons_ok_iff {py : Builtins} {entry : Arrival} {rest : List Arrival}
    {ns : List NormalizedOrder} : normalizeFeed py (entry :: rest) = .ok ns ↔
      ∃ n tail, normalizeExternalOrder py entry.now entry.raw = .ok n ∧
        normalizeFeed py rest = .ok tail ∧ ns = n :: tail := by
  simp only [normalizeFeed, bind_ok_iff]
  constructor
  · rintro ⟨n, hn, tail, htail, h⟩
    exact ⟨n, tail, hn, htail, (Except.ok.inj h).symm⟩
  · rintro ⟨n, tail, hn, htail, rfl⟩
    exact ⟨n, hn, tail, htail, rfl⟩

/-- The loop ends normally exactly on a feed that normalises, and then it has
run the entries in turn and counted each outcome. -/
theorem syncLoop_ok_iff {env : SyncEnv} {feed : List Arrival} {r r' : SyncResult}
    {s s' : SyncSession} : syncLoop env feed r s = .ok (r', s') ↔
      ∃ ns, normalizeFeed env.py feed = .ok ns ∧
        r' = (syncAll env ns s).1.foldl SyncResult.count r ∧ s' = (syncAll env ns s).2 := by
  induction feed generalizing r s with
  | nil =>
    constructor
    · intro h
      obtain ⟨rfl, rfl⟩ := Prod.mk.inj (Except.ok.inj h)
      exact ⟨[], rfl, rfl, rfl⟩
    · rintro ⟨ns, hns, rfl, rfl⟩
      obtain rfl := Except.ok.inj hns
      rfl
  | cons entry rest ih =>
    simp only [normalizeFeed_cons_ok_iff]
    rcases hn : normalizeExternalOrder env.py entry.now entry.raw with exc | n
    · simp only [syncLoop, hn, reduceCtorEq, false_and, exists_false]
    · simp only [syncLoop, hn, ih]
      constructor
      · rintro ⟨tail, htail, rfl, rfl⟩
        exact ⟨n :: tail, ⟨n, tail, rfl, htail, rfl⟩, rfl, rfl⟩
      · rintro ⟨_, ⟨n', tail, hn', htail, rfl⟩, rfl, rfl⟩
        obtain rfl := Except.ok.inj hn'
        exact ⟨tail, htail, rfl, rfl⟩

theorem normalizeFeed_append_ok_iff {py : Builtins} {xs ys : List Arrival}
    {ns : List NormalizedOrder} : normalizeFeed py (xs ++ ys) = .ok ns ↔
      ∃ ms ks, normalizeFeed py xs = .ok ms ∧ normalizeFeed py ys = .ok ks ∧ ns = ms ++ ks := by
  induction xs generalizing ns with
  | nil =>
    constructor
    · intro h
      exact ⟨[], ns, rfl, h, rfl⟩
    · rintro ⟨ms, ks, hms, hks, rfl⟩
      obtain rfl := Except.ok.inj hms
      exact hks
  | cons entry rest ih =>
    simp only [List.cons_append, normalizeFeed_cons_ok_iff, ih]
    constructor
    · rintro ⟨n, _, hn, ⟨ms, ks, hms, hks, rfl⟩, rfl⟩
      exact ⟨n :: ms, ks, ⟨n, ms, hn, hms, rfl⟩, hks, rfl⟩
    · rintro ⟨_, ks, ⟨n, ms, hn, hms, rfl⟩, hks, rfl⟩
      exact ⟨n, ms ++ ks, hn, ⟨ms, ks, hms, hks, rfl⟩, rfl⟩

theorem normalizeFeed_sourceOrderId {py : Builtins} {feed : List Arrival}
    {ns : List NormalizedOrder} (h : normalizeFeed py feed = .ok ns) :
    ns.map NormalizedOrder.sourceOrderId = feed.map fun a => sourceOrderId py a.raw := by
  induction feed generalizing ns with
  | nil =>
    obtain rfl := Except.ok.inj h
    rfl
  | cons entry rest ih =>
    obtain ⟨n, tail, hn, htail, rfl⟩ := normalizeFeed_cons_ok_iff.mp h
    rw [List.map_cons, List.map_cons, ih htail, normalize_sourceOrderId hn]

/-- What an entry is counted as: created, updated, or neither. -/
def countedAs : EntryOutcome → Option SyncAction
  | .stored action _ => some action
  | .failed => none

/-- The counters for stored entries, one lemma for both. -/
theorem foldl_count_stored (outcomes : List EntryOutcome) (r : SyncResult) :
    (outcomes.foldl SyncResult.count r).created =
        r.created + outcomes.countP (fun o => decide (countedAs o = some .created)) ∧
      (outcomes.foldl SyncResult.count r).updated =
        r.updated + outcomes.countP (fun o => decide (countedAs o = some .updated)) := by
  induction outcomes generalizing r with
  | nil => exact ⟨rfl, rfl⟩
  | cons outcome rest ih =>
    obtain ⟨hcreated, hupdated⟩ := ih (r.count outcome)
    rw [List.foldl_cons, List.countP_cons, List.countP_cons, hcreated, hupdated]
    rcases outcome with ⟨_ | _, order⟩ | _ <;> simp [SyncResult.count, countedAs] <;> omega

theorem foldl_count_failed (outcomes : List EntryOutcome) (r : SyncResult) :
    (outcomes.foldl SyncResult.count r).failed =
      r.failed + outcomes.countP EntryOutcome.isFailed := by
  induction outcomes generalizing r with
  | nil => rfl
  | cons outcome rest ih =>
    rw [List.foldl_cons, ih, List.countP_cons]
    rcases outcome with ⟨_ | _, order⟩ | _ <;> simp [SyncResult.count, EntryOutcome.isFailed]
    omega

theorem foldl_count_outcomes (outcomes : List EntryOutcome) (r : SyncResult) :
    (outcomes.foldl SyncResult.count r).outcomes = r.outcomes ++ outcomes := by
  induction outcomes generalizing r with
  | nil => exact (List.append_nil _).symm
  | cons outcome rest ih =>
    rw [List.foldl_cons, ih]
    rcases outcome with ⟨_ | _, order⟩ | _ <;> simp [SyncResult.count]

/-- Every entry is counted once. -/
theorem foldl_count_total (outcomes : List EntryOutcome) (r : SyncResult) :
    (outcomes.foldl SyncResult.count r).created + (outcomes.foldl SyncResult.count r).updated +
      (outcomes.foldl SyncResult.count r).failed =
    r.created + r.updated + r.failed + outcomes.length := by
  induction outcomes generalizing r with
  | nil => rfl
  | cons outcome rest ih =>
    rw [List.foldl_cons, ih, List.length_cons]
    rcases outcome with ⟨_ | _, order⟩ | _ <;> simp only [SyncResult.count] <;> omega

theorem syncAll_length (env : SyncEnv) (ns : List NormalizedOrder) (s : SyncSession) :
    (syncAll env ns s).1.length = ns.length := by
  induction ns generalizing s with
  | nil => rfl
  | cons n rest ih => simp only [syncAll, List.length_cons, ih]

theorem syncAll_append (env : SyncEnv) (xs ys : List NormalizedOrder) (s : SyncSession) :
    syncAll env (xs ++ ys) s =
      ((syncAll env xs s).1 ++ (syncAll env ys (syncAll env xs s).2).1,
        (syncAll env ys (syncAll env xs s).2).2) := by
  induction xs generalizing s with
  | nil => rfl
  | cons n rest ih => simp only [List.cons_append, syncAll, ih]

theorem syncAll_frame (env : SyncEnv) (ns : List NormalizedOrder) (s : SyncSession) :
    Frame env (ns.map NormalizedOrder.sourceOrderId) s.db (syncAll env ns s).2.db := by
  induction ns generalizing s with
  | nil => exact Frame.ofRows (SyncRows.refl s.db)
  | cons n rest ih => exact (syncEntry_frame env n s).trans (ih _)

theorem syncAll_foreignKeys {env : SyncEnv} {ns : List NormalizedOrder} {s : SyncSession}
    (hs : s.db.ForeignKeys) : (syncAll env ns s).2.db.ForeignKeys := by
  induction ns generalizing s with
  | nil => exact hs
  | cons n rest ih => exact ih (syncEntry_foreignKeys hs)

/-- The session in which a run starts. -/
def startSession (env : SyncEnv) (db : Db) (listing : Table.Listing db.products) : SyncSession :=
  ⟨db, productLookup env.py listing.rows⟩

theorem syncExternalOrders_ok_iff {env : SyncEnv} {db db' : Db}
    {listing : Table.Listing db.products} {feed : List Arrival} {r : SyncResult} :
    syncExternalOrders env db listing feed = .ok (r, db') ↔
      ∃ ns, normalizeFeed env.py feed = .ok ns ∧
        r = (syncAll env ns (startSession env db listing)).1.foldl SyncResult.count
          SyncResult.zero ∧
        db' = (syncAll env ns (startSession env db listing)).2.db ∧
        (db'.orderSyncAudit.drop db.orderSyncAudit.length).all (auditTaken env) = true := by
  unfold syncExternalOrders
  rcases hloop : syncLoop env feed SyncResult.zero ⟨db, productLookup env.py listing.rows⟩ with
    exc | ⟨r₁, s₁⟩
  · constructor
    · intro h
      cases h
    · rintro ⟨ns, hns, rfl, rfl, _⟩
      have hok : syncLoop env feed SyncResult.zero (startSession env db listing) = .ok _ :=
        syncLoop_ok_iff.mpr ⟨ns, hns, rfl, rfl⟩
      rw [startSession, hloop] at hok
      cases hok
  · obtain ⟨ns, hns, rfl, rfl⟩ := syncLoop_ok_iff.mp hloop
    dsimp only
    constructor
    · intro h
      split at h
      · next haudit =>
        obtain ⟨rfl, rfl⟩ := Prod.mk.inj (Except.ok.inj h)
        exact ⟨ns, hns, rfl, rfl, haudit⟩
      · cases h
    · rintro ⟨ns', hns', rfl, rfl, haudit⟩
      obtain rfl := Except.ok.inj (hns.symm.trans hns')
      exact if_pos haudit

/-- What a run leaves: its result, or what the rollback of a failed run leaves.
The products may be listed in any order. -/
def SyncLeads (env : SyncEnv) (feed : List Arrival) (db db' : Db) : Prop :=
  ∃ listing : Table.Listing db.products, match syncExternalOrders env db listing feed with
    | .ok (_, reached) => db' = reached
    | .error _ => ∃ reached, db' = db.rollback reached

theorem syncLeads_cases {env : SyncEnv} {feed : List Arrival} {db db' : Db}
    (h : SyncLeads env feed db db') :
    (∃ ns s, s.db = db ∧ normalizeFeed env.py feed = .ok ns ∧ db' = (syncAll env ns s).2.db) ∨
      ∃ reached, db' = db.rollback reached := by
  obtain ⟨listing, h⟩ := h
  rcases hrun : syncExternalOrders env db listing feed with exc | ⟨r, reached⟩
  · rw [hrun] at h
    exact Or.inr h
  · rw [hrun] at h
    obtain ⟨ns, hns, _, hreached, _⟩ := syncExternalOrders_ok_iff.mp hrun
    exact Or.inl ⟨ns, startSession env db listing, rfl, hns, h.trans hreached⟩

end OrderSyncSpec
