import CrmPortal.OrderIntake
import CrmPortal.PriceTampering

/-!
# What a created order adds up to

Every line of a request becomes one row, at the price of the catalogue where the catalogue
has the product and at the submitted price elsewhere, and the total is the sum of the rows.
A submitted price may be negative, and then it takes the total below the catalogue's part.
-/

namespace OrderTotals

open PyValue IdentityTable Transaction UnitOfWork CrmDatabase RequestContext ShopCatalogSync
open Orders OrdersSpec PriceTampering

theorem add_assoc_float (a b c : PyFloat) : (a.add b).add c = a.add (b.add c) := by
  cases a <;> cases b <;> cases c <;> simp [PyFloat.add, add_assoc]

theorem add_comm_float (a b : PyFloat) : a.add b = b.add a := by
  cases a <;> cases b <;> simp [PyFloat.add, add_comm]

theorem zero_add_float (a : PyFloat) : PyFloat.zero.add a = a := by
  cases a <;> simp [PyFloat.add, PyFloat.zero]

instance : Zero PyFloat := ⟨.zero⟩

instance : Add PyFloat := ⟨PyFloat.add⟩

instance : AddCommMonoid PyFloat where
  add_assoc := add_assoc_float
  add_comm := add_comm_float
  zero_add := zero_add_float
  add_zero := fun a => (add_comm_float a .zero).trans (zero_add_float a)
  nsmul := nsmulRec

/-- A number is at most a sum that begins with it when the rest is at least zero. -/
theorem le_add_iff (q : ℚ) (x : PyFloat) :
    PyFloat.le (.fin q) (.fin q + x) = true ↔ PyFloat.le .zero x = true := by
  change PyFloat.le (.fin q) ((PyFloat.fin q).add x) = true ↔ PyFloat.le .zero x = true
  cases x <;> simp [PyFloat.add, PyFloat.le, PyFloat.zero]

/-- The lines as `create_order` takes them from the body. -/
def requestedLines (py : Builtins) (body : Obj) : Except PyExc (List Json) := do
  let items ← orderItems py body
  items.iterate

def requestedQuantity (py : Builtins) (fields : Obj) : Except PyExc Int :=
  ((fields.get "quantity").or (.int 0)).toInt py

/-- The product that a line names, if the catalogue has it. -/
def namedProduct (py : Builtins) (products : ProductTable) (fields : Obj) :
    Option (Nat × Product) :=
  if (fields.get "product_id").truthy then
    match (fields.get "product_id").toInt py with
    | .ok id => rowAt products id
    | .error _ => none
  else none

def submittedPrice (py : Builtins) (fields : Obj) : Except PyExc PyFloat :=
  ((fields.get "unit_price").or (.float .zero)).toFloat py

/-- The row of a line. -/
structure Recorded (py : Builtins) (products : ProductTable) (orderId : Nat) (fields : Obj)
    (row : OrderItem) : Prop where
  order : row.orderId = orderId
  quantity : requestedQuantity py fields = .ok row.quantity
  positive : 1 ≤ row.quantity
  product : row.productId = (namedProduct py products fields).map Prod.fst
  catalogue : ∀ k p, namedProduct py products fields = some (k, p) → row.unitPrice = p.price
  submitted : namedProduct py products fields = none →
    submittedPrice py fields = .ok row.unitPrice

/-- `quantity * unit_price`. -/
def amount (row : OrderItem) : PyFloat := (PyFloat.fin row.quantity).mul row.unitPrice

section Lines
variable {py : Builtins} {products : ProductTable} {items : List Json} {ids : List Int}

/-- An id of the products table is never 0. -/
theorem productsAsked_named (identities : products.row 0 = none)
    (hids : productIds py items = .ok ids) {fields : Obj} (hitem : Json.obj fields ∈ items)
    {id : Int}
    (hid : ((fields.get "product_id").or (.int 0)).toInt py = .ok id) :
    productsAsked products ids id = namedProduct py products fields := by
  unfold productsAsked namedProduct
  by_cases hnames : (fields.get "product_id").truthy = true
  · rw [Json.or_of_truthy hnames] at hid
    rw [if_pos hnames, hid, if_pos (productIds_mem hids hitem hnames hid)]
  · rw [Json.or_of_falsy (Bool.eq_false_iff.mpr hnames)] at hid
    obtain rfl : (0 : Int) = id := Except.ok.inj hid
    have hzero : rowAt products 0 = none := by
      change (products.row 0).map (Prod.mk 0) = none
      rw [identities]
      rfl
    rw [if_neg hnames, hzero, ite_self]

theorem orderLine_recorded (identities : products.row 0 = none)
    (hids : productIds py items = .ok ids) {item : Json} (hitem : item ∈ items) {w t : Work Db}
    {line : OrderLine} (orderId : Nat)
    (h : orderLine py (productsAsked products ids) item w = (.ok line, t)) :
    ∃ fields, item = .obj fields ∧ Recorded py products orderId fields (lineRow orderId line) := by
  simp only [orderLine, Tx.bind_ok_iff, attempt_ok_iff, ensure_ok_iff, Tx.pure_ok_iff,
    Json.asDict_ok_iff] at h
  obtain ⟨fields, _, ⟨rfl, rfl⟩, quantity, _, ⟨hquantity, rfl⟩, _, _, ⟨hpositive, rfl⟩, id, _,
    ⟨hid, rfl⟩, price, _, ⟨hprice, rfl⟩, rfl, rfl⟩ := h
  have hnamed := productsAsked_named identities hids hitem hid
  rw [hnamed] at hprice
  refine ⟨fields, rfl, rfl, hquantity, of_decide_eq_true hpositive, ?_, ?_, ?_⟩
  · rw [← hnamed]
    rfl
  · intro k p hfound
    rw [hfound] at hprice
    exact (Except.ok.inj hprice).symm
  · intro hnone
    rw [hnone] at hprice
    exact hprice

theorem namedProduct_row {fields : Obj} {k : Nat} {p : Product}
    (h : namedProduct py products fields = some (k, p)) : products.row k = some p := by
  unfold namedProduct at h
  split at h
  · split at h
    · next id _ =>
      cases id with
      | ofNat i =>
        obtain ⟨found, hfound, hpair⟩ := Option.map_eq_some_iff.mp h
        obtain ⟨rfl, rfl⟩ := Prod.mk.inj hpair
        exact hfound
      | negSucc i => cases h
    · cases h
  · cases h

/-- What the loop keeps: a row for each line so far, and their sum. -/
theorem orderLines_recorded (identities : products.row 0 = none)
    (hids : productIds py items = .ok ids) (orderId : Nat) {rest : List Json}
    (hrest : ∀ item ∈ rest, item ∈ items) {start total : PyFloat} {w t : Work Db}
    {lines : List OrderLine}
    (h : orderLines py (productsAsked products ids) rest start w = (.ok (total, lines), t)) :
    List.Forall₂ (fun item row => ∃ fields, item = .obj fields ∧
        Recorded py products orderId fields row) rest (lines.map (lineRow orderId)) ∧
      total = start + ((lines.map (lineRow orderId)).map amount).sum := by
  induction rest generalizing start total w t lines with
  | nil =>
    simp only [orderLines, Tx.pure_ok_iff] at h
    obtain ⟨rfl, rfl⟩ := Prod.mk.inj h.1
    exact ⟨List.Forall₂.nil, (add_zero start).symm⟩
  | cons item rest ih =>
    simp only [orderLines, Tx.bind_ok_iff, attempt_ok_iff, Tx.pure_ok_iff] at h
    obtain ⟨line, m, hline, price, _, ⟨hprice, rfl⟩, ⟨sum, tail⟩, m', htail, hpair, -⟩ := h
    obtain ⟨rfl, rfl⟩ := Prod.mk.inj hpair
    have hfirst := orderLine_recorded identities hids (hrest item List.mem_cons_self) orderId hline
    obtain ⟨hrows, hsum⟩ := ih (fun item hmem => hrest item (List.mem_cons_of_mem _ hmem)) htail
    refine ⟨List.Forall₂.cons hfirst hrows, ?_⟩
    rw [hsum, intMul_ok hprice, List.map_cons, List.map_cons, List.sum_cons, ← add_assoc]
    rfl

end Lines

/-- One new order, with one row for each requested line, and their sum as its total. -/
structure OrderAdded (py : Builtins) (items : List Json) (id : Nat) (total : PyFloat)
    (db db' : Db) : Prop where
  free : db.orders.row id = none
  order : ∃ row, row.total = total ∧
    ∀ i, db'.orders.row i = if i = id then some row else db.orders.row i
  rows : ∃ rows, db'.orderItems = db.orderItems ++ rows ∧
    List.Forall₂ (fun item row => ∃ fields, item = .obj fields ∧
      Recorded py db.products id fields row) items rows ∧
    total = (rows.map amount).sum

/-- The orders and their items are as they were. -/
structure OrdersUnchanged (db db' : Db) : Prop where
  orders : ∀ i, db'.orders.row i = db.orders.row i
  orderItems : db'.orderItems = db.orderItems

section Requests
variable {env : OrdersEnv} {request : OrderRequest} {w w' : World Push}
  {result : Except PyExc (Response OrderAnswer)}

theorem created_orderAdded (identities : w.db.products.row 0 = none) {body : Obj} {items : Json}
    {created : CreatedOrder} (h : Created env request w.db w'.db body items created) :
    ∃ lines, requestedLines env.py body = .ok lines ∧
      OrderAdded env.py lines created.id created.total w.db w'.db := by
  obtain ⟨customerId, t, -, hblock, hdb⟩ := h.block
  obtain ⟨customer, notes, address, system, source, lines, -, -, hread, hstored⟩ :=
    createOrderBlock_ok hblock
  obtain ⟨xs, ids, hxs, hids, m, m', hlines⟩ := hread
  obtain ⟨hrows, hsum⟩ :=
    orderLines_recorded identities hids created.id (fun item hmem => hmem) hlines
  have hzero : PyFloat.zero = 0 := rfl
  rw [hzero, zero_add] at hsum
  refine ⟨xs, bind_ok_iff.mpr ⟨items, h.listed, hxs⟩, hstored.free, ?_, ?_⟩
  · refine ⟨createdOrder request customer created.total notes address system source, rfl,
      fun i => ?_⟩
    rw [hdb]
    exact hstored.orders i
  · refine ⟨lines.map (lineRow created.id), ?_, hrows, hsum⟩
    rw [hdb, hstored.rest]

/-- A request leaves the orders as they were, or adds one order that adds up. -/
theorem create_order_adds_up (identities : w.db.products.row 0 = none)
    (h : createOrder env request w = (result, w')) :
    (NotDone result ∧ OrdersUnchanged w.db w'.db) ∨
      ∃ id total body lines, result = .ok (.answer (.created id total)) ∧
        request.body = .obj body ∧ requestedLines env.py body = .ok lines ∧
        OrderAdded env.py lines id total w.db w'.db := by
  rcases createOrder_created h with ⟨body, items, created, hresult, hcreated⟩ | ⟨hrefused, hsame⟩
  · obtain ⟨lines, hlines, hadded⟩ := created_orderAdded identities hcreated
    exact Or.inr ⟨created.id, created.total, body, lines, hresult, hcreated.parsed, hlines, hadded⟩
  · exact Or.inl ⟨hrefused, hsame.rows.orders, hsame.rows.orderItems⟩

/-- `quantity * price` of the lines that name a product of the catalogue. -/
def catalogueAmount (py : Builtins) (products : ProductTable) : Json → PyFloat
  | .obj fields =>
    match namedProduct py products fields, requestedQuantity py fields with
    | some (_, p), .ok quantity => (PyFloat.fin quantity).mul p.price
    | _, _ => 0
  | _ => 0

/-- `quantity * unit_price` of the others. -/
def unlistedAmount (py : Builtins) (products : ProductTable) : Json → PyFloat
  | .obj fields =>
    match namedProduct py products fields, requestedQuantity py fields,
      submittedPrice py fields with
    | none, .ok quantity, .ok price => (PyFloat.fin quantity).mul price
    | _, _, _ => 0
  | _ => 0

theorem Recorded.amount_eq {py : Builtins} {products : ProductTable} {orderId : Nat} {fields : Obj}
    {row : OrderItem} (h : Recorded py products orderId fields row) :
    amount row = catalogueAmount py products (.obj fields) +
      unlistedAmount py products (.obj fields) := by
  rcases hnamed : namedProduct py products fields with _ | ⟨k, p⟩
  · simp only [amount, catalogueAmount, unlistedAmount, hnamed, h.quantity, h.submitted hnamed]
    exact (zero_add _).symm
  · simp only [amount, catalogueAmount, unlistedAmount, hnamed, h.quantity,
      h.catalogue k p hnamed]
    exact (add_zero _).symm

theorem recorded_sum {py : Builtins} {products : ProductTable} {orderId : Nat} {items : List Json}
    {rows : List OrderItem}
    (h : List.Forall₂ (fun item row => ∃ fields, item = .obj fields ∧
      Recorded py products orderId fields row) items rows) :
    (rows.map amount).sum = (items.map (catalogueAmount py products)).sum +
      (items.map (unlistedAmount py products)).sum := by
  induction h with
  | nil => exact (add_zero 0).symm
  | cons hfirst _ ih =>
    obtain ⟨fields, rfl, hrow⟩ := hfirst
    simp only [List.map_cons, List.sum_cons]
    rw [hrow.amount_eq, ih, add_add_add_comm]

/-- With numbers for prices the catalogue's part is a number. -/
theorem catalogueSum_number {py : Builtins} {products : ProductTable}
    (prices : ∀ k p, products.row k = some p → ∃ q, p.price = .fin q) (items : List Json) :
    ∃ q, (items.map (catalogueAmount py products)).sum = .fin q := by
  induction items with
  | nil => exact ⟨0, rfl⟩
  | cons item rest ih =>
    obtain ⟨q, hq⟩ := ih
    have hitem : ∃ r, catalogueAmount py products item = .fin r := by
      unfold catalogueAmount
      split
      · split
        · next k p n hnamed _ =>
          obtain ⟨x, hx⟩ := prices k p (namedProduct_row hnamed)
          exact ⟨n * x, by rw [hx]; rfl⟩
        · exact ⟨0, rfl⟩
      · exact ⟨0, rfl⟩
    obtain ⟨r, hr⟩ := hitem
    refine ⟨r + q, ?_⟩
    rw [List.map_cons, List.sum_cons, hq, hr]
    rfl

/-- The stored total of a created order, in its two parts. -/
theorem stored_total (identities : w.db.products.row 0 = none) {id : Nat} {total : PyFloat}
    (h : createOrder env request w = (.ok (.answer (.created id total)), w')) {body : Obj}
    (hbody : request.body = .obj body) :
    ∃ lines row, requestedLines env.py body = .ok lines ∧ w'.db.orders.row id = some row ∧
      row.total = (lines.map (catalogueAmount env.py w.db.products)).sum +
        (lines.map (unlistedAmount env.py w.db.products)).sum := by
  rcases createOrder_created h with ⟨body', items, created, hresult, hcreated⟩ | ⟨hrefused, -⟩
  · obtain rfl := Json.obj.inj (hbody.symm.trans hcreated.parsed)
    obtain ⟨lines, hlines, hadded⟩ := created_orderAdded identities hcreated
    obtain ⟨rfl, rfl⟩ := OrderAnswer.created.inj (Response.answer.inj (Except.ok.inj hresult))
    obtain ⟨row, htotal, hrows⟩ := hadded.order
    obtain ⟨rows, -, hrecorded, hsum⟩ := hadded.rows
    refine ⟨lines, row, hlines, ?_, ?_⟩
    · rw [hrows created.id, if_pos rfl]
    · rw [htotal, hsum, recorded_sum hrecorded]
  · rcases hrefused with ⟨message, hmessage⟩ | ⟨e, he⟩
    · cases hmessage
    · cases he

/-- The stored total covers the catalogue's part exactly when the other lines come to
zero or more. -/
theorem catalogue_floor_iff (identities : w.db.products.row 0 = none)
    (prices : ∀ k p, w.db.products.row k = some p → ∃ q, p.price = .fin q) {id : Nat}
    {total : PyFloat} (h : createOrder env request w = (.ok (.answer (.created id total)), w'))
    {body : Obj} {lines : List Json} {row : Order} (hbody : request.body = .obj body)
    (hlines : requestedLines env.py body = .ok lines) (hrow : w'.db.orders.row id = some row) :
    PyFloat.le (lines.map (catalogueAmount env.py w.db.products)).sum row.total = true ↔
      PyFloat.le .zero (lines.map (unlistedAmount env.py w.db.products)).sum = true := by
  obtain ⟨lines', row', hlines', hrow', htotal⟩ := stored_total identities h hbody
  obtain rfl := Except.ok.inj (hlines.symm.trans hlines')
  obtain rfl := Option.some.inj (hrow.symm.trans hrow')
  obtain ⟨q, hq⟩ : ∃ q, (lines.map (catalogueAmount env.py w.db.products)).sum = .fin q :=
    catalogueSum_number prices lines
  rw [htotal, hq, le_add_iff]

end Requests

theorem mugStore_identities : mugStore.products.row 0 = none := by decide

def isCreated : Except PyExc (Response OrderAnswer) → Bool
  | .ok (.answer (.created _ _)) => true
  | _ => false

theorem not_notDone {result : Except PyExc (Response OrderAnswer)} (h : isCreated result = true) :
    ¬ NotDone result := by
  rintro (⟨message, rfl⟩ | ⟨e, rfl⟩)
  · cases h
  · cases h

/-- Two mugs at twenty submitted, and ten in the catalogue: the order is created. -/
theorem two_mugs_add_up : ∃ w' id total body lines,
    createOrder sampleOrdersEnv (mugRequest 20) ⟨mugStore, []⟩ =
      (.ok (.answer (.created id total)), w') ∧
    (mugRequest 20).body = .obj body ∧ requestedLines sampleOrdersEnv.py body = .ok lines ∧
    OrderAdded sampleOrdersEnv.py lines id total mugStore w'.db := by
  have hcreated :
      isCreated (createOrder sampleOrdersEnv (mugRequest 20) ⟨mugStore, []⟩).1 = true := by
    decide +kernel
  rcases hrun : createOrder sampleOrdersEnv (mugRequest 20) ⟨mugStore, []⟩ with ⟨result, w'⟩
  rw [hrun] at hcreated
  have hidentities : (World.mk mugStore [] : World Push).db.products.row 0 = none :=
    mugStore_identities
  rcases create_order_adds_up hidentities hrun with
    ⟨hnot, -⟩ | ⟨id, total, body, lines, rfl, hbody, hlines, hadded⟩
  · exact absurd hnot (not_notDone hcreated)
  · exact ⟨w', id, total, body, lines, rfl, hbody, hlines, hadded⟩

def mixedBody (price : Int) : Obj :=
  [("customer_id", .int 1), ("items", .arr [sampleItem,
    .obj [("product_id", .int 99), ("quantity", .int 1), ("unit_price", .int price)]])]

def mixedRequest (price : Int) : OrderRequest :=
  { sampleOrderRequest with body := .obj (mixedBody price) }

theorem mugStore_prices : ∀ k p, mugStore.products.row k = some p → p.price = .fin 10 := by
  intro k p h
  have hrow : mugStore.products.row k = if k = 1 then
      some ⟨none, "Mug", "mug", none, .fin 10, none, none, none, some 1⟩ else none := rfl
  rw [hrow] at h
  split at h
  · obtain rfl := Option.some.inj h
    rfl
  · cases h

theorem created_of_isCreated {env : OrdersEnv} {request : OrderRequest} {w : World Push}
    (h : OrderIntake.isCreated (createOrder env request w).1 = true) :
    ∃ id total, createOrder env request w =
      (.ok (.answer (.created id total)), (createOrder env request w).2) := by
  generalize createOrder env request w = run at h ⊢
  obtain ⟨result, w'⟩ := run
  rcases result with exc | (message | ⟨id, total⟩ | _)
  · cases h
  · cases h
  · exact ⟨id, total, rfl⟩
  · cases h

/-- A line for a product that is not there, at minus fifteen. -/
theorem negative_line_undercuts : ¬ ∀ (env : OrdersEnv) (request : OrderRequest)
    (w w' : World Push) (id : Nat) (total : PyFloat) (body : Obj) (lines : List Json) (row : Order),
    w.db.products.row 0 = none →
    (∀ k p, w.db.products.row k = some p → ∃ q : ℚ, 0 ≤ q ∧ p.price = .fin q) →
    createOrder env request w = (.ok (.answer (.created id total)), w') →
    request.body = .obj body → requestedLines env.py body = .ok lines →
    w'.db.orders.row id = some row →
    PyFloat.le (lines.map (catalogueAmount env.py w.db.products)).sum row.total = true := by
  intro hall
  obtain ⟨id, total, hcreated⟩ := created_of_isCreated
    (show OrderIntake.isCreated
      (createOrder sampleOrdersEnv (mixedRequest (-15)) ⟨mugStore, []⟩).1 = true by decide +kernel)
  obtain ⟨lines, row, hlines, hrow, htotal⟩ := stored_total mugStore_identities hcreated rfl
  have hfloor := hall _ _ _ _ id total _ lines row mugStore_identities
    (fun k p h => ⟨10, by norm_num, mugStore_prices k p h⟩) hcreated rfl hlines hrow
  obtain rfl : [sampleItem, _] = lines := Except.ok.inj hlines
  rw [htotal] at hfloor
  revert hfloor
  decide +kernel

/-- At plus five the total covers the two mugs. -/
theorem positive_line_covers : ∃ lines row,
    requestedLines sampleOrdersEnv.py (mixedBody 5) = .ok lines ∧
    PyFloat.le (lines.map (catalogueAmount sampleOrdersEnv.py mugStore.products)).sum
      (row : Order).total = true := by
  obtain ⟨id, total, hcreated⟩ := created_of_isCreated
    (show OrderIntake.isCreated
      (createOrder sampleOrdersEnv (mixedRequest 5) ⟨mugStore, []⟩).1 = true by decide +kernel)
  obtain ⟨lines, row, hlines, hrow, -⟩ := stored_total mugStore_identities hcreated rfl
  refine ⟨lines, row, hlines, (catalogue_floor_iff mugStore_identities
    (fun k p h => ⟨10, mugStore_prices k p h⟩) hcreated rfl hlines hrow).mpr ?_⟩
  obtain rfl : [sampleItem, _] = lines := Except.ok.inj hlines
  decide +kernel

end OrderTotals
