import CrmPortal.SimulationRuns
import CrmPortal.BootstrapSeed
import CrmPortal.Customers
import CrmPortal.ShopMirror
import CrmPortal.Library.References

/-!
# What refers to what, over every run

Orders name customers, order lines name orders and products, products name shops.
The handlers, the simulation, the sync and the starts of the portal write these
tables from seven modules. Each of them reads or inserts what it is going to name in the
transaction that names it, or leaves it to the foreign keys of the orders and their lines
to refuse; the two deletions count what names the row. So no reference dangles.
-/

namespace ReferentialIntegrity

open PyValue IdentityTable Transaction UnitOfWork CrmDatabase RequestContext ShopCatalogSync
  Products Shops CatalogAtomicity OrderNormalization OrderSync OrderSyncSpec Orders OrdersSpec
  Simulation BacklogClassification SimulationRuns BootstrapShops BootstrapSeed BootstrapAdmin
  References

/-- The REFERENCES clauses of the order tables and of the products. -/
structure Intact (db : Db) : Prop where
  customer : Named (identities db.customers) (contents db.orders) Order.customerId
  order : Named (identities db.orders) {item | item ∈ db.orderItems} (some ∘ OrderItem.orderId)
  product : Named (identities db.products) {item | item ∈ db.orderItems} OrderItem.productId
  shop : Named (identities db.shops) (contents db.products) Product.shopId

/-- The order tables of an intact database, in the words of the schema. -/
theorem Intact.foreignKeys {db : Db} (h : Intact db) : db.ForeignKeys where
  customer := fun i order id hrow hid => h.customer order ⟨i, hrow⟩ id hid
  order := fun item hitem => h.order item hitem item.orderId rfl
  product := fun item hitem id hid => h.product item hitem id hid

theorem intact_iff {db : Db} : Intact db ↔ db.ForeignKeys ∧
    ∀ i p id, db.products.row i = some p → p.shopId = some id → (db.shops.row id).isSome := by
  constructor
  · intro h
    exact ⟨h.foreignKeys, fun i p id hrow hid => h.shop p ⟨i, hrow⟩ id hid⟩
  · rintro ⟨keys, hshop⟩
    refine ⟨?_, ?_, ?_, ?_⟩
    · rintro order ⟨i, hrow⟩ id hid
      exact keys.customer i order id hrow hid
    · rintro item hitem id ⟨⟩
      exact keys.order item hitem
    · intro item hitem id hid
      exact keys.product item hitem id hid
    · rintro p ⟨i, hrow⟩ id hid
      exact hshop i p id hrow hid

/-- What a writer leaves: references as good as before, and every order under the
key and the time that it had. -/
structure Keeps (a b : Db) : Prop where
  intact : Intact a → Intact b
  orders : ∀ i o, a.orders.row i = some o →
    ∃ o', b.orders.row i = some o' ∧ o'.sourceKey = o.sourceKey ∧ o'.createdAt = o.createdAt
  customers : Table.Extends a.customers b.customers

theorem Keeps.refl (a : Db) : Keeps a a :=
  ⟨id, fun _ o h => ⟨o, h, rfl, rfl⟩, Table.Extends.refl _⟩

theorem Keeps.trans {a b c : Db} (h : Keeps a b) (k : Keeps b c) : Keeps a c where
  intact := fun ha => k.intact (h.intact ha)
  orders := by
    intro i o hrow
    obtain ⟨mid, hmid, hkey, htime⟩ := h.orders i o hrow
    obtain ⟨last, hlast, hkey', htime'⟩ := k.orders i mid hmid
    exact ⟨last, hlast, hkey'.trans hkey, htime'.trans htime⟩
  customers := h.customers.trans k.customers

/-- The tables that take part hold the same rows. -/
theorem Intact.congr {a b : Db} (h : Intact a) (same : Db.SameRows b a) : Intact b where
  customer := by
    rw [identities_congr same.customers, contents_congr same.orders]
    exact h.customer
  order := by
    rw [identities_congr same.orders, same.orderItems]
    exact h.order
  product := by
    rw [identities_congr same.products, same.orderItems]
    exact h.product
  shop := by
    rw [identities_congr same.shops, contents_congr same.products]
    exact h.shop

theorem Keeps.ofSameRows {a b : Db} (same : Db.SameRows b a) : Keeps a b :=
  ⟨fun h => h.congr same, fun i o hrow => ⟨o, (same.orders i).trans hrow, rfl, rfl⟩,
    fun i _ hrow => (same.customers i).trans hrow⟩

theorem Keeps.rollback (a reached : Db) : Keeps a (a.rollback reached) :=
  Keeps.ofSameRows (Db.rollback_sameRows a reached)

/-- A writer that leaves the orders and the customers alone. -/
theorem Keeps.ofIntact {a b : Db} (intact : Intact a → Intact b) (orders : b.orders = a.orders)
    (customers : b.customers = a.customers) : Keeps a b :=
  ⟨intact, fun i o hrow => ⟨o, by rw [orders, hrow], rfl, rfl⟩,
    by rw [customers]; exact Table.Extends.refl _⟩

/-- A new order of a customer that is there. -/
theorem keeps_insertOrder {db : Db} {row : Order} {id : Nat} {orders : OrderTable}
    (hinsert : db.orders.insert row = some (id, orders))
    (hcustomer : ∀ customer, row.customerId = some customer → (db.customers.row customer).isSome) :
    Keeps db { db with orders := orders } := by
  obtain ⟨-, -, -, hrow⟩ := Table.insert_eq_some hinsert
  refine ⟨fun h => ⟨?_, ?_, h.product, h.shop⟩, ?_, Table.Extends.refl _⟩
  · refine (h.customer.insert hcustomer).mono subset_rfl ?_
    exact contents_put hrow
  · exact h.order.mono (identities_put hrow) subset_rfl
  · intro i o hold
    exact ⟨o, Table.insert_extends hinsert i o hold, rfl, rfl⟩

/-- New lines of an order that is there, with products that are there. -/
theorem keeps_addItems {db : Db} {items : List OrderItem}
    (horder : ∀ item ∈ items, (db.orders.row item.orderId).isSome)
    (hproduct : ∀ item ∈ items, ∀ id, item.productId = some id → (db.products.row id).isSome) :
    Keeps db { db with orderItems := db.orderItems ++ items } := by
  refine Keeps.ofIntact (fun h => ⟨h.customer, ?_, ?_, h.shop⟩) rfl rfl
  · intro item hitem id hid
    rcases List.mem_append.mp hitem with hold | hnew
    · exact h.order item hold id hid
    · obtain rfl := Option.some.inj hid
      exact horder item hnew
  · intro item hitem id hid
    rcases List.mem_append.mp hitem with hold | hnew
    · exact h.product item hold id hid
    · exact hproduct item hnew id hid

theorem lineTaken_product {backend : Backend} {db : Db} {line : OrderLine}
    (h : lineTaken.{0} backend db line = .ok ⟨⟩) {id : Nat} (hid : line.productId = some id) :
    (db.products.row id).isSome := by
  unfold lineTaken at h
  split at h
  · cases h
  · split at h
    · next hall => simpa [hid] using hall
    · cases h

theorem insertLines_taken {backend : Backend} {id : Nat} {lines : List OrderLine} {db db' : Db}
    (h : insertLines backend id lines db = .ok db') :
    ∀ line ∈ lines, lineTaken.{0} backend db line = .ok ⟨⟩ := by
  obtain ⟨_, hlines, -⟩ := bind_ok_iff.mp h
  clear h
  induction lines with
  | nil =>
    intro line hline
    cases hline
  | cons first rest ih =>
    rw [List.forM_eq_forM, List.forM_cons] at hlines
    obtain ⟨⟨⟩, hfirst, hrest⟩ := bind_ok_iff.mp hlines
    rw [← List.forM_eq_forM] at hrest
    exact List.forall_mem_cons.mpr ⟨hfirst, ih hrest⟩

section OrderHandlers
variable {env : OrdersEnv} {request : OrderRequest} {w t : Work Db}

theorem getCustomer_there {customerId : Int} {customer : Nat × Customer}
    (h : getCustomer env customerId w = (.ok (some customer), t)) :
    w.state.customers.row customer.1 = some customer.2 := by
  unfold getCustomer at h
  split at h
  · obtain ⟨hnone, -⟩ := Tx.pure_ok_iff.mp h
    cases hnone
  · obtain ⟨_, m, hdemand, hquery⟩ := Tx.bind_ok_iff.mp h
    obtain ⟨-, rfl⟩ := demand_ok_iff.mp hdemand
    obtain ⟨-, hfound, -⟩ := query_ok_iff.mp hquery
    rcases customerId with id | id
    · obtain ⟨row, hrow, rfl⟩ := Option.map_eq_some_iff.mp hfound.symm
      exact hrow
    · cases hfound

/-- The customer is read, and each product of the lines is checked, in the transaction
that stores the order. -/
theorem createOrderBlock_keeps {body : Obj} {customerId : Int} {items : Json}
    {created : CreatedOrder}
    (h : createOrderBlock env request body customerId items w = (.ok created, t)) :
    Keeps w.state t.state := by
  simp only [createOrderBlock, Tx.bind_ok_iff, orReturn_ok_iff, attempt_ok_iff, orFail_ok_iff,
    Tx.read_ok_iff, execute_ok_iff, Tx.pure_ok_iff] at h
  obtain ⟨found, m₁, hfound, customer, _, ⟨hcustomer, hm₂⟩, xs, _, ⟨-, hm₃⟩, ids, m₄, ⟨-, hm₄⟩,
    products, m₅, hproducts, ⟨total, lines⟩, m₆, hlines, hstore⟩ := h
  obtain ⟨clientTotal, _, ⟨_, hm₇⟩, sourceSystem, _, ⟨-, hm₈⟩, sourceOrderId, _, ⟨-, hm₉⟩,
    notes, _, ⟨_, hm₁₀⟩, address, m, ⟨_, hm⟩, before, _, ⟨hbefore, hm'⟩, _, _,
    ⟨_, db₁, hinsert, rfl⟩, _, _, ⟨_, db₂, hitems, rfl⟩, -, rfl⟩ := hstore
  have hread : m.state = w.state := by
    rw [hm, hm₁₀, hm₉, hm₈, hm₇, (orderLines_reads xs .zero).state hlines,
      (getProducts_reads ids).state hproducts, hm₄, hm₃, hm₂,
      (getCustomer_reads customerId).state hfound]
  obtain rfl := hcustomer
  have hthere := getCustomer_there hfound
  rw [hm', hread] at hinsert
  obtain ⟨id, orders, hrow, rfl⟩ := insertOrder_ok hinsert
  have htaken := insertLines_taken hitems
  obtain rfl := insertLines_ok hitems
  obtain ⟨rfl, -, -, hrows⟩ := Table.insert_eq_some hrow
  have hid : before.state.orders.next = w.state.orders.next := by rw [hbefore, hread]
  refine (keeps_insertOrder hrow ?_).trans (keeps_addItems ?_ ?_)
  · rintro other ⟨⟩
    exact Option.isSome_of_eq_some hthere
  · intro item hitem
    obtain ⟨line, -, rfl⟩ := List.mem_map.mp hitem
    have hhere := (hrows w.state.orders.next).trans (if_pos rfl)
    rw [← hid] at hhere
    exact Option.isSome_of_eq_some hhere
  · intro item hitem id hproduct
    obtain ⟨line, hline, rfl⟩ := List.mem_map.mp hitem
    exact lineTaken_product (htaken line hline) hproduct

theorem createOrder_keeps (env : OrdersEnv) (request : OrderRequest) (w : World Push) :
    Keeps w.db (Orders.createOrder env request w).2.db := by
  rcases hrun : Orders.createOrder env request w with ⟨result, w'⟩
  rcases createOrder_created hrun with ⟨body, items, created, -, hcreated⟩ | ⟨-, hsame⟩
  · obtain ⟨customerId, t, -, hblock, hdb⟩ := hcreated.block
    have hkeeps := createOrderBlock_keeps hblock
    rw [← hdb] at hkeeps
    exact hkeeps
  · exact Keeps.ofSameRows hsame.rows

theorem updateOrderStatus_keeps (env : OrdersEnv) (id : Nat) (body : Json) (w : World Push) :
    Keeps w.db (Orders.updateOrderStatus env id body w).2.db := by
  rcases hrun : Orders.updateOrderStatus env id body w with ⟨result, w'⟩
  rcases updateOrderStatus_cases hrun with ⟨fields, -, -, hwritten⟩ | ⟨-, hsame⟩
  · have hmap : ∀ i, w'.db.orders.row i = (w.db.orders.row i).map
        (if i = id then withStatus (newStatus env.py fields) else fun o => o) := by
      intro i
      rw [hwritten.orders i]
      split
      · rfl
      · simp
    dsimp only
    rw [hwritten.rest]
    refine ⟨fun h => ⟨?_, ?_, h.product, h.shop⟩, ?_, Table.Extends.refl _⟩
    · refine h.customer.rewrite subset_rfl fun row hrow => Or.inr ?_
      obtain ⟨i, old, hold, rfl⟩ := contents_map hmap hrow
      refine ⟨old, ⟨i, hold⟩, ?_⟩
      split <;> rfl
    · exact h.order.mono (identities_map hmap).symm.subset subset_rfl
    · intro i o hold
      refine ⟨_, (hmap i).trans (by rw [hold]; rfl), ?_, ?_⟩
      · split <;> rfl
      · split <;> rfl
  · exact Keeps.ofSameRows hsame.rows

end OrderHandlers

/-- A product that the sync makes belongs to no shop. -/
theorem resolveItems_shop {env : SyncEnv} {items : List NormalizedItem} {c d : Catalogue}
    {ids : List Nat} (h : resolveItems env items c = (.ok ids, d)) :
    ∀ p ∈ contents d.products, p ∈ contents c.products ∨ p.shopId = none := by
  induction items generalizing c ids with
  | nil =>
    obtain ⟨-, rfl⟩ := Tx.pure_ok_iff.mp h
    intro p hp
    exact Or.inl hp
  | cons item rest ih =>
    simp only [resolveItems, Tx.bind_ok_iff, Tx.pure_ok_iff] at h
    obtain ⟨id, m, hid, tail, m', htail, -, rfl⟩ := h
    intro p hp
    rcases ih htail p hp with hmid | hnone
    · rcases resolveProduct_ok_iff.mp hid with ⟨-, rfl⟩ | ⟨-, _, _, _, -, -, -, -, hinsert, rfl⟩
      · exact Or.inl hmid
      · obtain ⟨-, -, -, hrow⟩ := Table.insert_eq_some hinsert
        rcases contents_put hrow hmid with rfl | hold
        · exact Or.inr rfl
        · exact Or.inl hold
    · exact Or.inr hnone

/-- One entry leaves the shops alone and names none. -/
theorem syncEntry_shop {env : SyncEnv} {n : NormalizedOrder} {s : SyncSession}
    (h : Named (identities s.db.shops) (contents s.db.products) Product.shopId) :
    Named (identities (syncEntry env n s).2.db.shops) (contents (syncEntry env n s).2.db.products)
      Product.shopId := by
  rcases syncEntry_cases env n s with ⟨-, hrun⟩ | ⟨-, action, id, t, hstore, hrun⟩ |
    ⟨-, exc, m, -, hrun⟩
  · rw [hrun]
    exact h
  · obtain ⟨customerId, customers, orders, ids, c, -, -, hids, -, -, rfl⟩ := storeEntry_ok hstore
    rw [hrun]
    refine h.rewrite subset_rfl fun p hp => ?_
    rcases resolveItems_shop hids p hp with hold | hnone
    · exact Or.inr ⟨p, hold, rfl⟩
    · left
      intro shop hshop
      rw [hnone] at hshop
      cases hshop
  · rw [hrun]
    exact h

theorem syncAll_shop {env : SyncEnv} {ns : List NormalizedOrder} {s : SyncSession}
    (h : Named (identities s.db.shops) (contents s.db.products) Product.shopId) :
    Named (identities (syncAll env ns s).2.db.shops) (contents (syncAll env ns s).2.db.products)
      Product.shopId := by
  induction ns generalizing s with
  | nil => exact h
  | cons n rest ih => exact ih (syncEntry_shop h)

theorem sync_keeps {env : SyncEnv} {feed : List Arrival} {db db' : Db}
    (h : SyncLeads env feed db db') : Keeps db db' := by
  rcases syncLeads_cases h with ⟨ns, s, rfl, -, rfl⟩ | ⟨reached, rfl⟩
  · have frame := syncAll_frame env ns s
    refine ⟨fun hintact => ?_, frame.kept, frame.customers⟩
    refine intact_iff.mpr ⟨syncAll_foreignKeys hintact.foreignKeys, ?_⟩
    intro i p id hrow hid
    exact syncAll_shop hintact.shop p ⟨i, hrow⟩ id hid
  · exact Keeps.rollback db reached

section Simulation
variable {env : SimulationEnv}

theorem foreignKey_there {Row Key : Type} {key : Row → Option Key} {backend : Backend}
    {table : Table Row key} {value : Json} {id : Nat}
    (h : foreignKey backend table value = .ok id) : (table.row id).isSome := by
  unfold foreignKey at h
  split at h
  · cases h
  · next n _ =>
    split at h
    · cases h
    · next id' row hfound =>
      obtain rfl := Except.ok.inj h
      rcases n with n | n
      · obtain ⟨found, hrow, hpair⟩ := Option.map_eq_some_iff.mp hfound
        obtain ⟨rfl, rfl⟩ := Prod.mk.inj hpair
        exact Option.isSome_of_eq_some hrow
      · cases hfound

theorem orderBySource_there {sid : String} {db : Db} {id : Nat}
    (h : orderBySource sid db = some id) :
    (db.orders.row id).isSome := by
  obtain ⟨⟨found, row⟩, hfind, rfl⟩ := Option.map_eq_some_iff.mp h
  have hmem := List.mem_of_find?_eq_some hfind
  exact Option.isSome_of_eq_some ((db.orders.listing.complete _ _).mp hmem)

theorem insertSimulated_keeps {customerId : Json} {o : SimulatedOrder} {db db' : Db}
    (h : insertSimulated env customerId o db = .ok db') : Keeps db db' := by
  obtain ⟨id, orderId, orders, hid, hinsert, rfl⟩ := insertSimulated_ok h
  refine keeps_insertOrder hinsert ?_
  rintro customer ⟨⟩
  exact foreignKey_there hid

theorem insertItem_keeps {orderId : Nat} {productId : Json} {quantity : Int} {price : PyFloat}
    {db db' : Db} (horder : (db.orders.row orderId).isSome)
    (h : insertItem env orderId productId quantity price db = .ok db') : Keeps db db' := by
  obtain ⟨id, hid, h⟩ := bind_ok_iff.mp h
  split at h
  · obtain rfl := Except.ok.inj h
    refine keeps_addItems ?_ ?_
    · rintro item hitem
      obtain rfl := List.mem_singleton.mp hitem
      exact horder
    · rintro item hitem product hproduct
      obtain rfl := List.mem_singleton.mp hitem
      obtain rfl := Option.some.inj hproduct
      exact foreignKey_there hid
  · cases h

/-- The item names the order that the SELECT before it has found. -/
theorem simulation_keeps (env : SimulationEnv) : Kept env Keeps where
  refl := Keeps.refl
  trans := fun _ _ _ => Keeps.trans
  rollback := Keeps.rollback
  store := by
    intro customerId productId quantity price o _
    exact respects_storeSimulated Keeps.refl (fun _ _ _ => Keeps.trans)
      (fun _ _ => insertSimulated_keeps) fun id db db' hfound h =>
        insertItem_keeps (orderBySource_there hfound) h

end Simulation

theorem orderCall_keeps {call : OrderCall} {db db' : Db} (h : call.Leads db db') :
    Keeps db db' := by
  cases call with
  | createOrder env request =>
    obtain rfl := h
    exact createOrder_keeps env request ⟨db, []⟩
  | updateOrderStatus env id body =>
    obtain rfl := h
    exact updateOrderStatus_keeps env id body ⟨db, []⟩
  | sync env feed => exact sync_keeps h
  | generateOrders env body draws =>
    obtain rfl := h
    exact (simulation_keeps env).generateOrders body draws db
  | generateBacklog env body draws =>
    obtain rfl := h
    exact (simulation_keeps env).generateBacklog body draws db
  | highValueOrder env body draw =>
    obtain rfl := h
    exact (simulation_keeps env).highValueOrder body draw db

section Catalogue
variable {env : HandlerEnv} {request : Request}

/-- A product under an identity of its own, of a shop that is there or of none. -/
theorem keeps_putProduct {db : Db} {id : Nat} {row : Product} {products : ProductTable}
    {auditLogs : List AuditLog}
    (hrow : ∀ j, products.row j = if j = id then some row else db.products.row j)
    (hshop : ∀ shop, row.shopId = some shop → (db.shops.row shop).isSome) :
    Keeps db { db with products := products, auditLogs := auditLogs } := by
  refine Keeps.ofIntact (fun h => ⟨h.customer, h.order, ?_, ?_⟩) rfl rfl
  · exact h.product.mono (identities_put hrow) subset_rfl
  · exact (h.shop.insert hshop).mono subset_rfl (contents_put hrow)

/-- A shop under an identity of its own. -/
theorem keeps_putShop {db : Db} {id : Nat} {row : Shop} {shops : ShopTable}
    {auditLogs : List AuditLog}
    (hrow : ∀ j, shops.row j = if j = id then some row else db.shops.row j) :
    Keeps db { db with shops := shops, auditLogs := auditLogs } :=
  Keeps.ofIntact (fun h => ⟨h.customer, h.order, h.product,
    h.shop.mono (identities_put hrow) subset_rfl⟩) rfl rfl

/-- The shop that the payload names has been read, or it names none. -/
theorem findShop_there {faults : Faults PyExc} {id : Option Nat} {shop : Option Shop}
    {w t : Work Db} (h : findShop faults id w = (.ok shop, t)) :
    t.state = w.state ∧ ∀ shopId, id = some shopId → (w.state.shops.row shopId).isSome := by
  obtain ⟨hstate, hfound⟩ := findShop_ok h
  refine ⟨hstate, ?_⟩
  rintro shopId rfl
  simp only [findShop, Tx.bind_ok_iff, orReturn_ok_iff, Tx.pure_ok_iff] at h
  obtain ⟨_, _, _, found, _, -, rfl, -⟩ := h
  exact Option.isSome_of_eq_some hfound.symm

theorem createProductBlock_keeps {actor : User} {payload : ProductMutation} {w t : Work Db}
    {serialized : SerializedProduct}
    (h : createProductBlock env request actor payload w = (.ok serialized, t)) :
    Keeps w.state t.state := by
  obtain ⟨products, shopName, hinsert, -, hstate⟩ := createProductBlock_ok h
  obtain ⟨-, -, -, hrow⟩ := Table.insert_eq_some hinsert
  simp only [createProductBlock, Tx.bind_ok_iff, query_ok_iff, ensure_ok_iff] at h
  obtain ⟨_, _, ⟨_, rfl, rfl⟩, _, _, ⟨_, rfl⟩, shop, m, hshop, -⟩ := h
  rw [hstate]
  exact keeps_putProduct hrow (findShop_there hshop).2

theorem updateProductBlock_keeps {actor : User} {id : Nat} {payload : ProductMutation}
    {w t : Work Db} {serialized : SerializedProduct}
    (h : updateProductBlock env request actor id payload w = (.ok serialized, t)) :
    Keeps w.state t.state := by
  obtain ⟨old, products, shopName, -, hreplace, -, hstate⟩ := updateProductBlock_ok h
  simp only [updateProductBlock, Tx.bind_ok_iff, query_ok_iff, ensure_ok_iff, orReturn_ok_iff] at h
  obtain ⟨_, _, ⟨_, rfl, rfl⟩, _, _, ⟨_, rfl⟩, _, _, ⟨_, rfl, rfl⟩, _, _, ⟨_, rfl⟩, shop, m, hshop,
    -⟩ := h
  rw [hstate]
  exact keeps_putProduct (Table.replace_eq_some hreplace).2 (findShop_there hshop).2

/-- No line names a product whose lines were counted as none. -/
theorem linkedOrders_zero {db : Db} {id : Nat} (h : linkedOrders db id = 0) :
    ∀ item ∈ db.orderItems, item.productId ≠ some id := by
  intro item hitem
  have hnone := List.countP_eq_zero.mp h item hitem
  simpa using hnone

/-- The product is taken away only if no line names it, and made inactive otherwise. -/
theorem deleteProductBlock_keeps {actor : User} {id : Nat} {w t : Work Db}
    {result : Bool × SerializedProduct}
    (h : deleteProductBlock env request actor id w = (.ok result, t)) :
    Keeps w.state t.state := by
  obtain ⟨old, products, row, hold, hrow, -, -, -, hstate, -⟩ := deleteProductBlock_ok h
  rw [hstate]
  by_cases hlinked : linkedOrders w.state id = 0
  · simp only [leftOf, if_pos hlinked] at hrow
    refine Keeps.ofIntact (fun hintact => ⟨hintact.customer, hintact.order, ?_, ?_⟩) rfl rfl
    · exact hintact.product.remove (linkedOrders_zero hlinked) fun j hj hne =>
        identities_delete hrow hj hne
    · exact hintact.shop.mono subset_rfl (contents_delete hrow)
  · simp only [leftOf, if_neg hlinked] at hrow
    refine Keeps.ofIntact (fun hintact => ⟨hintact.customer, hintact.order, ?_, ?_⟩) rfl rfl
    · exact hintact.product.mono (identities_put hrow) subset_rfl
    · have hshops : Named (identities w.state.shops)
          (Insert.insert (deactivated old) (contents w.state.products)) (·.shopId) :=
        hintact.shop.insert (hintact.shop old ⟨id, hold⟩)
      exact hshops.mono subset_rfl (contents_put hrow)

/-- No product names a shop whose products were counted as none. -/
theorem productCount_zero {db : Db} {id : Nat} (h : productCount db id = 0) :
    ∀ p ∈ contents db.products, p.shopId ≠ some id := by
  rintro p ⟨i, hrow⟩
  have hmem : (i, p) ∈ db.products.listing.rows := (db.products.listing.complete _ _).mpr hrow
  have hnone := List.countP_eq_zero.mp h (i, p) hmem
  simpa using hnone

theorem deleteShopBlock_keeps {actor : User} {id : Nat} {w t : Work Db} {u : PUnit}
    (h : deleteShopBlock env request actor id w = (.ok u, t)) : Keeps w.state t.state := by
  obtain ⟨old, -, hcount, hstate⟩ := deleteShopBlock_ok h
  rw [hstate]
  refine Keeps.ofIntact (fun hintact => ⟨hintact.customer, hintact.order, hintact.product, ?_⟩)
    rfl rfl
  exact hintact.shop.remove (productCount_zero hcount) fun j hj hne =>
    identities_delete (fun _ => rfl) hj hne

/-- A handler of the catalogue commits what its block has done, or nothing. -/
theorem managed_keeps {Answer Value : Type} {block : User → Block Db PyExc (Response Answer) Value}
    {finish : Value → Tx (World Push) PyExc (Response Answer)}
    (hleaves : ∀ actor, Leaves Response.IsError (block actor)) (hfinish : OnlyPushes finish)
    (w : World Push)
    (hblock : ∀ actor a t, block actor ⟨w.db, 0⟩ = (.ok a, t) → Keeps w.db t.state) :
    Keeps w.db (managed env request block finish w).2.db := by
  rcases managed_atomic hleaves hfinish w with ⟨actor, a, t, _, -, hrun, -, hend⟩ | ⟨-, hsame⟩
  · rw [hend]
    exact hblock actor a t hrun
  · exact Keeps.ofSameRows hsame.rows

theorem mapAnswer_world {A B : Type} (f : A → B)
    (x : Except PyExc (Response A) × World Push) : (mapAnswer f x).2 = x.2 := by
  rcases x with ⟨exc | ⟨message⟩ | answer, w⟩ <;> rfl

theorem catalogCall_keeps (env : HandlerEnv) (request : Request) (call : CatalogCall)
    (w : World Push) : Keeps w.db (call.perform env request w).2.db := by
  cases call with
  | createProduct payload =>
    rw [CatalogCall.perform, mapAnswer_world]
    exact managed_keeps (fun _ => createProductBlock_leaves payload)
      (onlyPushes_pushThenAnswer _ _) w fun _ _ _ => createProductBlock_keeps
  | updateProduct id payload =>
    rw [CatalogCall.perform, mapAnswer_world]
    exact managed_keeps (fun _ => updateProductBlock_leaves id payload)
      (onlyPushes_pushThenAnswer _ _) w fun _ _ _ => updateProductBlock_keeps
  | deleteProduct id =>
    rw [CatalogCall.perform, mapAnswer_world]
    exact managed_keeps (fun _ => deleteProductBlock_leaves id)
      (onlyPushes_pushThenAnswer _ _) w fun _ _ _ => deleteProductBlock_keeps
  | createShop payload =>
    rw [CatalogCall.perform, mapAnswer_world]
    refine managed_keeps (fun _ => createShopBlock_leaves payload) (onlyPushes_pure _) w ?_
    intro actor a t h
    obtain ⟨shops, hinsert, hstate⟩ := createShopBlock_ok h
    obtain ⟨-, -, -, hrow⟩ := Table.insert_eq_some hinsert
    rw [hstate]
    exact keeps_putShop hrow
  | updateShop id payload =>
    rw [CatalogCall.perform, mapAnswer_world]
    refine managed_keeps (fun _ => updateShopBlock_leaves id payload) (onlyPushes_pure _) w ?_
    intro actor a t h
    obtain ⟨old, shops, -, hreplace, hstate⟩ := updateShopBlock_ok h
    rw [hstate]
    exact keeps_putShop (Table.replace_eq_some hreplace).2
  | deleteShop id =>
    rw [CatalogCall.perform, mapAnswer_world]
    exact managed_keeps (fun _ => deleteShopBlock_leaves id) (onlyPushes_pure _) w
      fun _ _ _ => deleteShopBlock_keeps

theorem syncCatalogToShop_keeps (env : HandlerEnv) (request : Request) (w : World Push) :
    Keeps w.db (syncCatalogToShop env request w).2.db := by
  refine managed_keeps (fun _ => ShopMirror.syncCatalogBlock_leaves _)
    (onlyPushes_pushThenAnswer _ _) w ?_
  intro actor products t h
  simp only [syncCatalogBlock, Tx.bind_ok_iff, query_ok_iff, Tx.pure_ok_iff] at h
  obtain ⟨_, _, ⟨_, rfl, rfl⟩, _, m, haudit, -, rfl⟩ := h
  rw [recordAudit_ok haudit]
  exact Keeps.ofIntact (fun hintact => ⟨hintact.customer, hintact.order, hintact.product,
    hintact.shop⟩) rfl rfl

end Catalogue

theorem insertCustomer_keeps {row : Customer} {db db' : Db} (h : insertCustomer row db = .ok db') :
    Keeps db db' := by
  obtain ⟨id, customers, hinsert, rfl⟩ := insertCustomer_ok_iff.mp h
  have hextends := Table.insert_extends hinsert
  refine ⟨fun hintact => ⟨?_, hintact.order, hintact.product, hintact.shop⟩,
    fun i o hrow => ⟨o, hrow, rfl, rfl⟩, hextends⟩
  exact hintact.customer.mono (identities_extends hextends) subset_rfl

theorem createCustomer_keeps (env : Customers.CustomersEnv) (body : Json) (db : Db) :
    Keeps db (Customers.createCustomer env body db).2 := by
  unfold Customers.createCustomer
  rcases body.asDict with e | fields
  · exact Keeps.refl db
  rcases hnotes : (fields.getD "notes" (.str "")).asStr with e | notes
  · simp only [hnotes]
    exact Keeps.refl db
  have hblock : Respects Keeps (Customers.createCustomerBlock env fields notes) := by
    refine moves_execute Keeps.refl fun s s' h => ?_
    obtain ⟨row, -, hinsert⟩ := bind_ok_iff.mp h
    exact insertCustomer_keeps hinsert
  have hkeeps : Keeps db
      (run env.faults Db.rollback (Customers.createCustomerBlock env fields notes) db).state :=
    run_moves Keeps.rollback hblock db
  simp only [hnotes]
  rcases hrun : run env.faults Db.rollback (Customers.createCustomerBlock env fields notes) db with
    ⟨result, left⟩ | ⟨e, left⟩
  · rw [hrun] at hkeeps
    exact hkeeps
  · rw [hrun] at hkeeps
    exact hkeeps

theorem simulateCustomer_keeps (env : SimulationEnv) (lowerSql : String → String)
    (req : CreateCustomerRequest) (db : Db) :
    Keeps db (Simulation.createCustomer env lowerSql req db).2 := by
  rw [createCustomer_state]
  have keeps := simulation_keeps env
  refine keeps.ownSession (keeps.bind ?_ fun _ => keeps.reads (reads_pure _)) env.faults db
  refine keeps.bind (keeps.reads (reads_query _)) fun existing => ?_
  refine keeps.bind (keeps.reads (reads_ensure _ _)) fun _ => ?_
  refine moves_execute Keeps.refl fun s s' h => ?_
  split at h
  · exact insertCustomer_keeps h
  · cases h

theorem addRandomCustomer_keeps (env : SimulationEnv) (drawn : RandomCustomer) (db : Db) :
    Keeps db (Simulation.addRandomCustomer env drawn db).2 := by
  rw [addRandomCustomer_state]
  have keeps := simulation_keeps env
  exact keeps.ownSession (moves_execute Keeps.refl fun _ _ h => insertCustomer_keeps h)
    env.faults db

/-- A part of a start: no shop and no product goes. -/
structure StartKeeps (s t : Store) : Prop where
  db : Keeps s.db t.db
  shops : identities s.db.shops ⊆ identities t.db.shops
  products : identities s.db.products ⊆ identities t.db.products

theorem StartKeeps.refl (s : Store) : StartKeeps s s := ⟨Keeps.refl s.db, subset_rfl, subset_rfl⟩

theorem StartKeeps.trans {a b c : Store} (h : StartKeeps a b) (k : StartKeeps b c) :
    StartKeeps a c :=
  ⟨h.db.trans k.db, h.shops.trans k.shops, h.products.trans k.products⟩

theorem StartKeeps.customer {s t : Store} (h : StartKeeps s t) {id : Nat}
    (there : (s.db.customers.row id).isSome) : (t.db.customers.row id).isSome :=
  h.db.customers.isSome there

theorem StartKeeps.order {s t : Store} (h : StartKeeps s t) {id : Nat}
    (there : (s.db.orders.row id).isSome) : (t.db.orders.row id).isSome := by
  obtain ⟨order, hrow⟩ := Option.isSome_iff_exists.mp there
  obtain ⟨order', hrow', -⟩ := h.db.orders id order hrow
  exact Option.isSome_of_eq_some hrow'

theorem putShop_keeps {s : Store} {shops : ShopTable} {id : Nat} {row : Shop}
    (contact : ShopContact)
    (hrow : ∀ j, shops.row j = if j = id then some row else s.db.shops.row j) :
    StartKeeps s (s.putShop shops id contact) :=
  ⟨keeps_putShop hrow, identities_put hrow, subset_rfl⟩

theorem ensureDemoShop_keeps (faults : Faults PyExc) (demo : DemoShop) (w : Work Store) :
    StartKeeps w.state (ensureDemoShop faults demo w).2.state := by
  unfold ensureDemoShop
  rcases query_cases faults (fun s => s.db.shops.find demo.shop.slug) w with hquery | ⟨e, hquery⟩
  · rw [Tx.bind_of_ok _ hquery]
    rcases w.state.db.shops.find demo.shop.slug with _ | id
    · dsimp only
      rw [Tx.bind_of_ok _ (Tx.read_apply _), Tx.bind_pure_state]
      refine moves_execute StartKeeps.refl (fun s t h => ?_) w.next
      unfold insertDemoShop at h
      split at h
      · cases h
      · next id shops hinsert =>
        obtain rfl := Except.ok.inj h
        exact putShop_keeps _ (Table.insert_eq_some hinsert).2.2.2
    · dsimp only
      rw [Tx.bind_of_ok _ (Tx.read_apply _)]
      split
      · exact StartKeeps.refl w.state
      · rw [Tx.bind_pure_state]
        refine moves_execute StartKeeps.refl (fun s t h => ?_) w.next
        unfold assignDemoShop at h
        split at h
        · cases h
        · next shops hreplace =>
          obtain rfl := Except.ok.inj h
          exact putShop_keeps _ (Table.replace_eq_some hreplace).2
  · rw [Tx.bind_of_error _ hquery]
    exact StartKeeps.refl w.state

/-- The products without a shop get one that is there. -/
theorem adoptProducts_keeps {shopId : Nat} {s : Store} (h : shopId ∈ identities s.db.shops) :
    StartKeeps s (adoptProducts shopId s) := by
  have hmap : ∀ j, (adoptProducts shopId s).db.products.row j =
      (s.db.products.row j).map (adopt shopId) := fun _ => rfl
  have hproducts : identities s.db.products ⊆ identities (adoptProducts shopId s).db.products :=
    (identities_map hmap).symm.subset
  refine ⟨Keeps.ofIntact (fun hintact => ⟨hintact.customer, hintact.order, ?_, ?_⟩) rfl rfl,
    subset_rfl, hproducts⟩
  · exact hintact.product.mono hproducts subset_rfl
  · refine hintact.shop.rewrite subset_rfl fun p hp => ?_
    obtain ⟨j, old, hold, rfl⟩ := contents_map hmap hp
    by_cases hnone : old.shopId = none
    · left
      intro id hid
      rw [adopt, if_pos hnone] at hid
      obtain rfl := Option.some.inj hid
      exact h
    · right
      exact ⟨old, ⟨j, hold⟩, by rw [adopt_of_assigned hnone]⟩

theorem ensureDemoShops_keeps (faults : Faults PyExc) (w : Work Store) :
    StartKeeps w.state (ensureDemoShops faults w).2.state := by
  unfold ensureDemoShops
  have hprimary := ensureDemoShop_keeps faults primaryStore w
  rcases ensureDemoShop_cases faults primaryStore w with ⟨first, m, hfirst, hplaced⟩ |
    ⟨e, m, hfirst, -⟩
  · rw [hfirst] at hprimary
    rw [Tx.bind_of_ok _ hfirst]
    obtain ⟨row, hrow, -⟩ := Option.map_eq_some_iff.mp hplaced.shop
    have hlab := ensureDemoShop_keeps faults labStore m
    rcases hsecond : ensureDemoShop faults labStore m with ⟨e | second, n⟩
    · rw [hsecond] at hlab
      rw [Tx.bind_of_error _ hsecond]
      exact hprimary.trans hlab
    · rw [hsecond] at hlab
      rw [Tx.bind_of_ok _ hsecond]
      have hthere : first ∈ identities n.state.db.shops := hlab.shops (mem_identities hrow)
      refine (hprimary.trans hlab).trans ?_
      rcases execute_cases faults (fun s => .ok (adoptProducts first s)) n with
        ⟨_, t, hadopt, rfl, hrun⟩ | ⟨e, t, hsame, hrun⟩
      · rw [hrun, ← Except.ok.inj hadopt]
        exact adoptProducts_keeps hthere
      · rw [hrun]
        exact hsame ▸ StartKeeps.refl n.state
  · rw [hfirst] at hprimary
    rw [Tx.bind_of_error _ hfirst]
    exact hprimary

theorem bootstrapBlock_keeps (env : BootstrapEnv) (faults : Faults PyExc) (password : String)
    (w : Work Store) : Keeps w.state.db (bootstrapBlock env faults password w).2.state.db := by
  obtain ⟨m, ⟨hdb, -⟩, hblock | hblock⟩ := bootstrapBlock_cases env faults password w
  · rw [hblock, hdb]
    exact Keeps.refl w.state.db
  · rw [hblock, ← hdb]
    exact (ensureDemoShops_keeps faults m).db

section Seed
variable {faults : Faults PyExc} {w t : Work Store}

theorem addRow_ok {next : Db → Nat} {insert : Db → Except PyExc Db} {id : Nat}
    (h : addRow faults next insert w = (.ok id, t)) : id = next w.state.db ∧
      ∃ db, insert w.state.db = .ok db ∧ t.state = { w.state with db := db } := by
  simp only [addRow, Tx.bind_ok_iff, Tx.read_ok_iff, execute_ok_iff, Tx.pure_ok_iff] at h
  obtain ⟨before, m, ⟨hbefore, hm⟩, _, _, ⟨-, s, hs, rfl⟩, rfl, rfl⟩ := h
  rw [hm] at hs
  rw [hbefore]
  rcases hinsert : insert w.state.db with e | db
  · rw [hinsert] at hs
    cases hs
  · rw [hinsert] at hs
    obtain rfl := Except.ok.inj hs
    exact ⟨rfl, db, rfl, rfl⟩

theorem addCustomer_keeps {row : Customer} {id : Nat} (h : addCustomer faults row w = (.ok id, t)) :
    StartKeeps w.state t.state ∧ (t.state.db.customers.row id).isSome := by
  obtain ⟨rfl, db, hinsert, hstate⟩ := addRow_ok h
  have hkeeps := insertCustomer_keeps hinsert
  obtain ⟨id, customers, hrow, rfl⟩ := insertCustomer_ok_iff.mp hinsert
  obtain ⟨rfl, -, -, hrows⟩ := Table.insert_eq_some hrow
  rw [hstate]
  exact ⟨⟨hkeeps, subset_rfl, subset_rfl⟩,
    Option.isSome_of_eq_some ((hrows w.state.db.customers.next).trans (if_pos rfl))⟩

theorem addProduct_keeps {row : Product} {id : Nat} (h : addProduct faults row w = (.ok id, t))
    (hshop : ∀ shop, row.shopId = some shop → shop ∈ identities w.state.db.shops) :
    StartKeeps w.state t.state ∧ id ∈ identities t.state.db.products := by
  obtain ⟨rfl, db, hinsert, hstate⟩ := addRow_ok h
  unfold insertProduct at hinsert
  split at hinsert
  · cases hinsert
  · next products hrow =>
    obtain rfl := Except.ok.inj hinsert
    obtain ⟨rfl, -, -, hrows⟩ := Table.insert_eq_some hrow
    rw [hstate]
    refine ⟨⟨?_, subset_rfl, identities_put hrows⟩,
      mem_identities ((hrows w.state.db.products.next).trans (if_pos rfl))⟩
    exact keeps_putProduct hrows fun shop hid => hshop shop hid

theorem addOrder_keeps {row : Order} {id : Nat} (h : addOrder faults row w = (.ok id, t))
    (hcustomer : ∀ customer, row.customerId = some customer →
      (w.state.db.customers.row customer).isSome) :
    StartKeeps w.state t.state ∧ (t.state.db.orders.row id).isSome := by
  obtain ⟨rfl, db, hinsert, hstate⟩ := addRow_ok h
  unfold insertSeedOrder at hinsert
  split at hinsert
  · cases hinsert
  · next orders hrow =>
    obtain rfl := Except.ok.inj hinsert
    have hkeeps := keeps_insertOrder hrow hcustomer
    obtain ⟨rfl, -, -, hrows⟩ := Table.insert_eq_some hrow
    rw [hstate]
    exact ⟨⟨hkeeps, subset_rfl, subset_rfl⟩,
      Option.isSome_of_eq_some ((hrows w.state.db.orders.next).trans (if_pos rfl))⟩

/-- Rows are added one by one: what they need stays, and so do those that were added. -/
theorem addAll_keeps {Row : Type} {add : Row → StartBlock Nat} (Needs : Row → Store → Prop)
    (There : Store → Nat → Prop)
    (hadd : ∀ row w id t, Needs row w.state → add row w = (.ok id, t) →
      StartKeeps w.state t.state ∧ There t.state id)
    (hneeds : ∀ row s t, StartKeeps s t → Needs row s → Needs row t)
    (hthere : ∀ id s t, StartKeeps s t → There s id → There t id) {rows : List Row}
    {ids : List Nat} (hrows : ∀ row ∈ rows, Needs row w.state)
    (h : addAll add rows w = (.ok ids, t)) :
    StartKeeps w.state t.state ∧ ids.length = rows.length ∧ ∀ id ∈ ids, There t.state id := by
  induction rows generalizing w ids with
  | nil =>
    obtain ⟨rfl, rfl⟩ := Tx.pure_ok_iff.mp h
    exact ⟨StartKeeps.refl _, rfl, nofun⟩
  | cons row more ih =>
    simp only [addAll, Tx.bind_ok_iff, Tx.pure_ok_iff] at h
    obtain ⟨id, m, hfirst, rest, n, hrest, rfl, rfl⟩ := h
    obtain ⟨hkeeps, hid⟩ := hadd row w id m (hrows row List.mem_cons_self) hfirst
    obtain ⟨hmore, hlength, hids⟩ := ih
      (fun other hother => hneeds other _ _ hkeeps (hrows other (List.mem_cons_of_mem _ hother)))
      hrest
    refine ⟨hkeeps.trans hmore, congrArg Nat.succ hlength, ?_⟩
    exact List.forall_mem_cons.mpr ⟨hthere id _ _ hmore hid, hids⟩

theorem identityOf_mem {ids : List Nat} {i : Nat} (h : i < ids.length) :
    identityOf ids i ∈ ids := by
  unfold identityOf
  rw [List.getD_eq_getElem?_getD, List.getElem?_eq_getElem h]
  exact List.getElem_mem h

theorem seedOrders_customer {env : SeedEnv} {customers : List Nat}
    (h : customers.length = seedCustomers.length) : ∀ row ∈ seedOrders env customers,
      ∀ id, row.customerId = some id → id ∈ customers := by
  have hmem : ∀ i < 4, some (identityOf customers i) = some (identityOf customers i) ∧
      identityOf customers i ∈ customers :=
    fun i hi => ⟨rfl, identityOf_mem (by rw [h]; exact hi)⟩
  simp only [seedOrders, List.forall_mem_cons, List.not_mem_nil, false_imp_iff, implies_true,
    and_true, Option.some.injEq]
  refine ⟨?_, ?_, ?_⟩
  · rintro _ rfl
    exact (hmem 0 (by omega)).2
  · rintro _ rfl
    exact (hmem 1 (by omega)).2
  · rintro _ rfl
    exact (hmem 3 (by omega)).2

theorem seedItems_named {orders products : List Nat} (horders : orders.length = 3)
    (hproducts : products.length = 12) : ∀ item ∈ seedItems orders products,
      item.orderId ∈ orders ∧ ∀ id, item.productId = some id → id ∈ products := by
  have horder : ∀ i < 3, identityOf orders i ∈ orders := fun i hi =>
    identityOf_mem (by omega)
  have hproduct : ∀ i < 12, identityOf products i ∈ products := fun i hi =>
    identityOf_mem (by omega)
  simp only [seedItems, List.forall_mem_cons, List.not_mem_nil, false_imp_iff, implies_true,
    and_true, Option.some.injEq, forall_eq']
  exact ⟨⟨horder 0 (by omega), hproduct 0 (by omega)⟩, ⟨horder 0 (by omega), hproduct 2 (by omega)⟩,
    ⟨horder 1 (by omega), hproduct 1 (by omega)⟩, ⟨horder 1 (by omega), hproduct 2 (by omega)⟩,
    ⟨horder 2 (by omega), hproduct 0 (by omega)⟩, ⟨horder 2 (by omega), hproduct 3 (by omega)⟩⟩

/-- Every row of the dataset names what this transaction has inserted before it, or the
shop that carries the slug. -/
theorem seedDataset_keeps {env : SeedEnv} {u : PUnit} (h : seedDataset env faults w = (.ok u, t)) :
    StartKeeps w.state t.state := by
  simp only [seedDataset, primaryShop, Tx.bind_ok_iff, Tx.read_ok_iff, Tx.pure_ok_iff,
    execute_ok_iff] at h
  obtain ⟨customers, m₁, hcustomers, shopId, m₁', ⟨now, m, ⟨hnow, hm⟩, hshop, hm'⟩, products, m₂,
    hproducts, orders, m₃, horders, _, _, ⟨-, s₁, hitems, rfl⟩, -, s₂, haudit, rfl⟩ := h
  obtain ⟨hkeeps₁, hcount₁, hthere₁⟩ := addAll_keeps (fun _ _ => True)
    (fun s id => (s.db.customers.row id).isSome)
    (fun _ _ _ _ _ h => addCustomer_keeps h) (fun _ _ _ _ _ => trivial)
    (fun _ _ _ h => h.customer) (fun _ _ => trivial) hcustomers
  obtain rfl : m₁' = m₁ := hm'.trans hm
  have hslug : ∀ id, shopId = some id → id ∈ identities m₁'.state.db.shops := by
    intro id hid
    rw [← hshop, hnow] at hid
    obtain ⟨row, hrow, -⟩ := (Table.find_eq_some_iff _ _ _).mp hid
    exact mem_identities hrow
  have hshops : ∀ row ∈ seedProducts shopId, ∀ id, row.shopId = some id →
      id ∈ identities m₁'.state.db.shops := by
    have hsame : ∀ row ∈ seedProducts shopId, row.shopId = shopId := by
      simp [seedProducts, seedProduct]
    exact fun row hrow id hid => hslug id ((hsame row hrow).symm.trans hid)
  obtain ⟨hkeeps₂, hcount₂, hthere₂⟩ := addAll_keeps
    (fun (row : Product) s => ∀ id, row.shopId = some id → id ∈ identities s.db.shops)
    (fun s id => id ∈ identities s.db.products)
    (fun _ _ _ _ hneeds h => addProduct_keeps h hneeds)
    (fun _ _ _ h hneeds id hid => h.shops (hneeds id hid)) (fun _ _ _ h hid => h.products hid)
    hshops hproducts
  obtain ⟨hkeeps₃, hcount₃, hthere₃⟩ := addAll_keeps
    (fun (row : Order) s => ∀ id, row.customerId = some id → (s.db.customers.row id).isSome)
    (fun s id => (s.db.orders.row id).isSome)
    (fun _ _ _ _ hneeds h => addOrder_keeps h hneeds)
    (fun _ _ _ h hneeds id hid => h.customer (hneeds id hid)) (fun _ _ _ h hid => h.order hid)
    (fun row hrow id hid =>
      hkeeps₂.customer (hthere₁ id (seedOrders_customer hcount₁ row hrow id hid))) horders
  have hnamed := seedItems_named hcount₃ hcount₂
  have hstored : Keeps m₃.state.db { m₃.state.db with
      orderItems := m₃.state.db.orderItems ++ seedItems orders products } :=
    keeps_addItems (fun item hitem => hthere₃ _ (hnamed item hitem).1) fun item hitem id hid =>
      Option.isSome_iff_exists.mpr
        (mem_identities_iff.mp (hkeeps₃.products (hthere₂ id ((hnamed item hitem).2 id hid))))
  obtain rfl := Except.ok.inj hitems
  obtain rfl := Except.ok.inj haudit
  have haudited : ∀ db : Db, Keeps db { db with auditLogs := db.auditLogs ++ [seedAudit] } :=
    fun db => Keeps.ofIntact (fun hintact => ⟨hintact.customer, hintact.order, hintact.product,
      hintact.shop⟩) rfl rfl
  refine hkeeps₁.trans (hkeeps₂.trans (hkeeps₃.trans ⟨?_, subset_rfl, subset_rfl⟩))
  exact hstored.trans (haudited _)

theorem startBlock_keeps {env : SeedEnv} {password : String} {u : PUnit}
    (h : startBlock env faults password w = (.ok u, t)) : Keeps w.state.db t.state.db := by
  have hblock := bootstrapBlock_keeps env.toBootstrapEnv faults password w
  simp only [startBlock, Tx.bind_ok_iff, Tx.read_ok_iff] at h
  obtain ⟨before, m, ⟨-, hm⟩, _, n, hrun, hseed⟩ := h
  rw [hm] at hrun
  rw [hrun] at hblock
  split at hseed
  · obtain ⟨-, rfl⟩ := Tx.pure_ok_iff.mp hseed
    exact hblock
  · exact hblock.trans (seedDataset_keeps hseed).db

end Seed

/-- A start commits what its block has done, or nothing. -/
theorem start_keeps (env : SeedEnv) (faults : Faults PyExc) (s : Store) :
    Keeps s.db (startDatabase env faults s).state.db := by
  unfold startDatabase
  split
  · exact Keeps.refl s.db
  · next password _ =>
    rcases hrun : run faults Store.rollback (startBlock env faults password) s with
      ⟨r | u, t⟩ | ⟨e, t⟩
    · exact r.elim
    · obtain ⟨w, hblock, rfl⟩ := run_committed hrun
      exact startBlock_keeps hblock
    · obtain ⟨reached, rfl⟩ := run_rolledBack hrun
      exact Keeps.rollback s.db reached.db

/-- What writes the tables: the requests of six modules, the sync, and the starts. -/
inductive Writer where
  | order (call : OrderCall)
  | catalogue (env : HandlerEnv) (request : Request) (call : CatalogCall)
  | syncCatalog (env : HandlerEnv) (request : Request)
  | createCustomer (env : Customers.CustomersEnv) (body : Json)
  | simulateCustomer (env : SimulationEnv) (lowerSql : String → String)
      (req : CreateCustomerRequest)
  | addRandomCustomer (env : SimulationEnv) (drawn : RandomCustomer)
  | start (env : SeedEnv) (faults : Faults PyExc)

def Writer.Leads (s t : Store) : Writer → Prop
  | .order call => ∃ db, call.Leads s.db db ∧ t = { s with db := db }
  | .catalogue env request call => t = (performCall env request call s).2
  | .syncCatalog env request =>
    t = { s with db := (syncCatalogToShop env request ⟨s.db, []⟩).2.db }
  | .createCustomer env body => t = { s with db := (Customers.createCustomer env body s.db).2 }
  | .simulateCustomer env lowerSql req =>
    t = { s with db := (Simulation.createCustomer env lowerSql req s.db).2 }
  | .addRandomCustomer env drawn =>
    t = { s with db := (Simulation.addRandomCustomer env drawn s.db).2 }
  | .start env faults => t = (startDatabase env faults s).state

/-- What the writers, in any order and with any faults, make of `start`. -/
inductive Reaches (start : Store) : Store → Prop where
  | start : Reaches start start
  | step {s t : Store} (writer : Writer) : Reaches start s → writer.Leads s t → Reaches start t

theorem writer_keeps {s t : Store} {writer : Writer} (h : writer.Leads s t) : Keeps s.db t.db := by
  cases writer with
  | order call =>
    obtain ⟨db, hcall, rfl⟩ := h
    exact orderCall_keeps hcall
  | catalogue env request call =>
    obtain rfl := h
    exact catalogCall_keeps env request call ⟨s.db, []⟩
  | syncCatalog env request =>
    obtain rfl := h
    exact syncCatalogToShop_keeps env request ⟨s.db, []⟩
  | createCustomer env body =>
    obtain rfl := h
    exact createCustomer_keeps env body s.db
  | simulateCustomer env lowerSql req =>
    obtain rfl := h
    exact simulateCustomer_keeps env lowerSql req s.db
  | addRandomCustomer env drawn =>
    obtain rfl := h
    exact addRandomCustomer_keeps env drawn s.db
  | start env faults =>
    obtain rfl := h
    exact start_keeps env faults s

theorem reaches_keeps {start s : Store} (h : Reaches start s) : Keeps start.db s.db := by
  induction h with
  | start => exact Keeps.refl start.db
  | step writer _ hleads ih => exact ih.trans (writer_keeps hleads)

/-- No run leaves an order without its customer, a line without its order or its
product, or a product without its shop. -/
theorem references_never_dangle {start s : Store} (keys : start.db.ForeignKeys)
    (shops : ∀ i p id, start.db.products.row i = some p → p.shopId = some id →
      (start.db.shops.row id).isSome) (h : Reaches start s) :
    s.db.ForeignKeys ∧ ∀ i p id, s.db.products.row i = some p → p.shopId = some id →
      (s.db.shops.row id).isSome :=
  intact_iff.mp ((reaches_keeps h).intact (intact_iff.mpr ⟨keys, shops⟩))

def emptyStore : Store := ⟨Accounts.Tables.empty, Db.empty, fun _ => ShopContact.default⟩

def firstStart : SeedEnv := { plainStart with now := 0, serverNow := 0 }

/-- The dataset of a first start. -/
def startedStore : Store := (startDatabase firstStart (fun _ => none) emptyStore).state

/-- An order of its first customer. -/
def orderedStore : Store :=
  { startedStore with
    db := (Orders.createOrder sampleOrdersEnv sampleOrderRequest ⟨startedStore.db, []⟩).2.db }

theorem startedStore_reached : Reaches emptyStore startedStore :=
  .step (.start firstStart fun _ => none) .start rfl

theorem orderedStore_reached : Reaches startedStore orderedStore :=
  .step (.order (.createOrder sampleOrdersEnv sampleOrderRequest)) .start ⟨_, rfl, rfl⟩

theorem reaches_trans {a b c : Store} (h : Reaches a b) (k : Reaches b c) : Reaches a c := by
  induction k with
  | start => exact h
  | step writer _ hleads ih => exact .step writer ih hleads

theorem references_never_dangle_sample :
    orderedStore.db.orderItems.length = 7 ∧ orderedStore.db.ForeignKeys ∧
      ∀ i p id, orderedStore.db.products.row i = some p → p.shopId = some id →
        (orderedStore.db.shops.row id).isSome := by
  refine ⟨by decide +kernel, references_never_dangle ⟨?_, ?_, ?_⟩ ?_
    (reaches_trans startedStore_reached orderedStore_reached)⟩
  · intro i order id hrow
    cases hrow
  · intro item hitem
    cases hitem
  · intro item hitem
    cases hitem
  · intro i p id hrow
    cases hrow

/-- No run takes an order away or gives it another source or time of creation, and
none changes or takes away a customer. -/
theorem orders_and_customers_stay {start s : Store} (h : Reaches start s) :
    (∀ i o, start.db.orders.row i = some o → ∃ o', s.db.orders.row i = some o' ∧
      o'.sourceKey = o.sourceKey ∧ o'.createdAt = o.createdAt) ∧
    ∀ i c, start.db.customers.row i = some c → s.db.customers.row i = some c :=
  ⟨(reaches_keeps h).orders, (reaches_keeps h).customers⟩

/-- The orders and customers of the dataset are there after the next order. -/
theorem orders_and_customers_stay_sample :
    (startedStore.db.orders.row 1).isSome ∧ (startedStore.db.customers.row 4).isSome ∧
    (∀ i o, startedStore.db.orders.row i = some o → ∃ o', orderedStore.db.orders.row i = some o' ∧
      o'.sourceKey = o.sourceKey ∧ o'.createdAt = o.createdAt) ∧
    ∀ i c, startedStore.db.customers.row i = some c → orderedStore.db.customers.row i = some c :=
  ⟨by decide +kernel, by decide +kernel, orders_and_customers_stay orderedStore_reached⟩

end ReferentialIntegrity
