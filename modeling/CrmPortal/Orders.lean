import CrmPortal.RequestContext
import CrmPortal.OrderNormalization
import CrmPortal.ShopCatalogSync

/-!
# The order handlers

`create_order` and `update_order_status`. A body is JSON of any shape and is
converted piece by piece, inside and outside the `get_db` block, so that it is
the first piece that does not convert which decides how the request fails.
-/

namespace Orders

open PyValue IdentityTable Transaction UnitOfWork CrmDatabase RequestContext ShopCatalogSync

/-- The configuration of the process and the faults of the block. -/
structure OrdersEnv where
  py : Builtins
  backend : Backend
  db : DbConfig
  internalKey : String
  faults : Faults PyExc

/-- A request, with what the server adds to it: an identifier and the time. -/
structure OrderRequest where
  internalServiceKey : Option String
  body : Json
  correlationId : String
  uuid : String
  now : DateTime

inductive OrderAnswer where
  | created (orderId : Nat) (total : PyFloat)
  | updated (orderId : Nat) (newStatus : String)

abbrev OrderBlock := Block Db PyExc (Response OrderAnswer)

/-- What a handler returns after its block, unless the block was left early. -/
def answerWith {Value : Type} (answer : Value → OrderAnswer) :
    Response OrderAnswer ⊕ Value → Tx (World Push) PyExc (Response OrderAnswer)
  | .inl response => return response
  | .inr value => return .answer (answer value)

/-- `hmac.compare_digest` takes strings of ASCII characters only. -/
def compareDigest (a b : String) : Except PyExc Bool :=
  if a.toList.all (fun c => decide (c.toNat < 128)) &&
      b.toList.all (fun c => decide (c.toNat < 128))
  then .ok (decide (a = b))
  else .error .typeError

def requireInternalKeyIfConfigured (env : OrdersEnv) (request : OrderRequest) :
    Except PyExc PUnit := do
  if env.internalKey = "" then return ⟨⟩
  let supplied := env.py.strip (request.internalServiceKey.getD "")
  if supplied = "" then .error (.httpException 401)
  else if ← compareDigest supplied env.internalKey then return ⟨⟩
  else .error (.httpException 401)

/-- The lines of the body, or one line made from its own product fields. -/
def orderItems (py : Builtins) (body : Obj) : Except PyExc Json := do
  let items := (body.get "items").or (.arr [])
  if !items.truthy && (body.get "product_id").truthy then
    let quantity ← ((body.get "quantity").or (.int 1)).toInt py
    let unitPrice ← ((body.get "unit_price").or (.int 0)).toFloat py
    return .arr [.obj [("product_id", body.get "product_id"), ("quantity", .int quantity),
      ("unit_price", .float unitPrice)]]
  else return items

/-- `[int(item.get("product_id") or 0) for item in items if item.get("product_id")]`. -/
def productIds (py : Builtins) : List Json → Except PyExc (List Int)
  | [] => return []
  | item :: rest => do
    let fields ← item.asDict
    if (fields.get "product_id").truthy then
      let id ← (fields.get "product_id").toInt py
      let ids ← productIds py rest
      return id :: ids
    else productIds py rest

/-- Primary keys are positive. -/
def rowAt {Row Key : Type} {key : Row → Option Key} (t : Table Row key) : Int → Option (Nat × Row)
  | .ofNat id => (t.row id).map (Prod.mk id)
  | .negSucc _ => none

/-- `db.get(Customer, customer_id) if customer_id else None`. -/
def getCustomer (env : OrdersEnv) (id : Int) : OrderBlock (Option (Nat × Customer)) :=
  if id = 0 then return none
  else do
    demand .dataError (env.backend.takesInt id)
    query env.faults fun db => rowAt db.customers id

/-- The products of the ids, by id; nothing is asked for no id. -/
def getProducts (env : OrdersEnv) (ids : List Int) : OrderBlock (Int → Option (Nat × Product)) :=
  if ids.isEmpty then return fun _ => none
  else do
    demand .dataError (ids.all env.backend.takesInt)
    query env.faults fun db id => if id ∈ ids then rowAt db.products id else none

structure OrderLine where
  productId : Option Nat
  quantity : Int
  unitPrice : PyFloat

/-- The price of the catalogue, or the line's own for a product that is not there. -/
def linePrice (py : Builtins) (product : Option (Nat × Product)) (fields : Obj) :
    Except PyExc PyFloat :=
  match product with
  | some (_, product) => .ok product.price
  | none => ((fields.get "unit_price").or (.float .zero)).toFloat py

def orderLine (py : Builtins) (products : Int → Option (Nat × Product)) (item : Json) :
    OrderBlock OrderLine := do
  let fields ← attempt item.asDict
  let quantity ← attempt (((fields.get "quantity").or (.int 0)).toInt py)
  ensure (.error "Quantity must be positive") (decide (0 < quantity))
  let id ← attempt (((fields.get "product_id").or (.int 0)).toInt py)
  let price ← attempt (linePrice py (products id) fields)
  return ⟨(products id).map Prod.fst, quantity, price⟩

/-- The loop over the items, with `computed_total` as its accumulator. -/
def orderLines (py : Builtins) (products : Int → Option (Nat × Product)) :
    List Json → PyFloat → OrderBlock (PyFloat × List OrderLine)
  | [], computedTotal => return (computedTotal, [])
  | item :: rest, computedTotal => do
    let line ← orderLine py products item
    let price ← attempt (PyFloat.intMul line.quantity line.unitPrice)
    let (total, lines) ← orderLines py products rest (computedTotal.add price)
    return (total, line :: lines)

/-- The check that logs "Order total tampering detected". -/
def totalTampered (clientTotal computedTotal : PyFloat) : Bool :=
  clientTotal.truthy && PyFloat.lt (.fin (1 / 100)) (clientTotal.sub computedTotal).abs

/-- `(body.get(key) or "").strip()`. -/
def strippedField (py : Builtins) (body : Obj) (key : String) : Except PyExc String := do
  let text ← ((body.get key).or (.str "")).asStr
  return py.strip text

def createdOrder (request : OrderRequest) (customer : Nat × Customer) (total : PyFloat)
    (notes address : Option String) (sourceSystem sourceOrderId : String) : Order where
  customerId := some customer.1
  total := total
  status := some "pending"
  notes := notes
  shippingAddress := address
  sourceSystem := some (if sourceSystem = "" then "enterprise-crm" else sourceSystem)
  sourceOrderId := some (if sourceOrderId = "" then s!"manual-{customer.1}-{request.uuid}"
    else sourceOrderId)
  sourceCustomerEmail := some customer.2.email
  syncStatus := some "local"
  backlogStatus := some "backlog"
  syncError := none
  sourcePayload := none
  correlationId := some request.correlationId
  lastSyncedAt := none
  createdAt := some request.now

/-- The columns that the body fills. -/
def createdOrderTaken (backend : Backend) (order : Order) : Bool :=
  backend.takesFloat order.total &&
    order.sourceSystem.all (backend.takesStr (.varchar 100)) &&
    order.sourceOrderId.all (backend.takesStr (.varchar 120))

def insertOrder (backend : Backend) (row : Order) (db : Db) : Except PyExc Db :=
  if createdOrderTaken backend row then
    match db.orders.insert row with
    | none => .error .integrityError
    | some (_, orders) => .ok { db with orders := orders }
  else .error .dataError

def lineRow (orderId : Nat) (line : OrderLine) : OrderItem where
  orderId := orderId
  productId := line.productId
  quantity := line.quantity
  unitPrice := line.unitPrice

def lineTaken (backend : Backend) (db : Db) (line : OrderLine) : Except PyExc PUnit :=
  if !(backend.takesInt line.quantity && backend.takesFloat line.unitPrice) then .error .dataError
  else if line.productId.all fun id => (db.products.row id).isSome then .ok ⟨⟩
  else .error .integrityError

/-- The order and its product are foreign keys. -/
def insertLines (backend : Backend) (orderId : Nat) (lines : List OrderLine) (db : Db) :
    Except PyExc Db := do
  lines.forM (lineTaken backend db)
  return { db with orderItems := db.orderItems ++ lines.map (lineRow orderId) }

/-- What the block hands on; `tampered` tells whether the event was logged. -/
structure CreatedOrder where
  id : Nat
  total : PyFloat
  tampered : Bool

def createOrderBlock (env : OrdersEnv) (request : OrderRequest) (body : Obj) (customerId : Int)
    (items : Json) : OrderBlock CreatedOrder := do
  let customer ← getCustomer env customerId
  let customer ← orReturn (.error "Customer not found") customer
  let items ← attempt items.iterate
  let ids ← attempt (productIds env.py items)
  let products ← getProducts env ids
  let (total, lines) ← orderLines env.py products items .zero
  let clientTotal ← attempt (((body.get "total").or (.float .zero)).toFloat env.py)
  let sourceSystem ← attempt (strippedField env.py body "source_system")
  let sourceOrderId ← attempt (strippedField env.py body "source_order_id")
  let notes ← orFail .dataError
    (env.backend.bindNullable .text (body.getD "notes" (.str "")))
  let address ← orFail .dataError
    (env.backend.bindNullable .text (body.getD "shipping_address" (.str "")))
  let before ← Tx.read
  let id := before.state.orders.next
  execute env.faults (insertOrder env.backend
    (createdOrder request customer total notes address sourceSystem sourceOrderId))
  execute env.faults (insertLines env.backend id lines)
  return ⟨id, total, totalTampered clientTotal total⟩

/-- The source key is not looked up first; the UNIQUE constraint is left to raise. -/
def createOrder (env : OrdersEnv) (request : OrderRequest) :
    Tx (World Push) PyExc (Response OrderAnswer) := do
  let _ ← Tx.ofExcept (requireInternalKeyIfConfigured env request)
  let body ← Tx.ofExcept request.body.asDict
  let customerId ← Tx.ofExcept (((body.get "customer_id").or (.int 0)).toInt env.py)
  let items ← Tx.ofExcept (orderItems env.py body)
  let ended ← getDb env.db env.faults (createOrderBlock env request body customerId items)
  answerWith (fun order => .created order.id order.total) ended

/-- `str(body.get("status") or "").strip().lower()`. -/
def newStatus (py : Builtins) (body : Obj) : String :=
  py.lower (py.strip (Json.toStr py ((body.get "status").or (.str ""))))

/-- The handler has its own list of statuses. -/
def statusBacklog (status : String) : String :=
  if status ∈ ["pending", "processing", "queued"] then "backlog" else "current"

def withStatus (status : String) (order : Order) : Order :=
  { order with status := some status, backlogStatus := some (statusBacklog status) }

theorem withStatus_sourceKey (status : String) (order : Order) :
    (withStatus status order).sourceKey = order.sourceKey := rfl

def writeStatus (backend : Backend) (id : Nat) (status : String) (db : Db) : Except PyExc Db :=
  if backend.takesStr (.varchar 50) status then
    .ok { db with orders := db.orders.modify id (withStatus status) (withStatus_sourceKey status) }
  else .error .dataError

def updateOrderStatusBlock (env : OrdersEnv) (orderId : Nat) (status : String) :
    OrderBlock PUnit := do
  let order ← query env.faults fun db => db.orders.row orderId
  let _ ← orReturn (.error "Order not found") order
  execute env.faults (writeStatus env.backend orderId status)

def updateOrderStatus (env : OrdersEnv) (orderId : Nat) (body : Json) :
    Tx (World Push) PyExc (Response OrderAnswer) := do
  let body ← Tx.ofExcept body.asDict
  let status := newStatus env.py body
  let ended ← getDb env.db env.faults (updateOrderStatusBlock env orderId status)
  answerWith (fun _ => .updated orderId status) ended

/-- A process without an internal key, whose database takes every statement. -/
def sampleOrdersEnv : OrdersEnv where
  py := asciiBuiltins fun _ => ""
  backend := postgres
  db := ⟨false, true⟩
  internalKey := ""
  faults := fun _ => none

/-- An order of the shop for customer 1. -/
def sampleOrderRequest : OrderRequest where
  internalServiceKey := none
  body := .obj [("customer_id", .int 1),
    ("items", .arr [.obj [("quantity", .int 2), ("unit_price", .int 10)]]),
    ("source_system", .str "octo-drone-shop"), ("source_order_id", .str "100")]
  correlationId := "corr-1"
  uuid := "0f1e2d3c4b5a"
  now := 0

/-- A database with one customer. -/
def sampleDb : Db :=
  match Db.empty.customers.insert
    ⟨"Ada", "ada@example.com", none, none, none, some .zero, none⟩ with
  | some (_, customers) => { Db.empty with customers := customers }
  | none => Db.empty

/-- What the sample request leaves there. -/
def sampleCreated : World Push := (createOrder sampleOrdersEnv sampleOrderRequest ⟨sampleDb, []⟩).2

end Orders
