import CrmPortal.Library.Transaction
import CrmPortal.Database
import CrmPortal.OrderNormalization

/-!
# The external order sync

`sync_external_orders` after the feed has been fetched. One database session and
one `product_cache` serve the whole feed; each entry is written inside its own
savepoint. A rolled-back savepoint takes the rows back but neither the cache nor
the identities of the ORM objects in it. An item row is written here when it is
added; the unit of work writes it at the next flush, before any later statement
can see the difference.
-/

namespace OrderSync

open PyValue IdentityTable Transaction CrmDatabase OrderNormalization

/-- The configuration and the context of a run. -/
structure SyncEnv where
  py : Builtins
  backend : Backend
  sourceName : String
  correlationId : String
  traceId : String

/-- The cache holds ORM products; only their id is read. -/
structure SyncSession where
  db : Db
  productCache : String → Option Nat

/-- What resolving a product reads and writes. -/
structure Catalogue where
  products : ProductTable
  cache : String → Option Nat

def SyncSession.catalogue (s : SyncSession) : Catalogue := ⟨s.db.products, s.productCache⟩

/-- A function of the source that touches one table is a program over that table. -/
def onCustomers {Value : Type} (x : Tx CustomerTable PyExc Value) : Tx SyncSession PyExc Value :=
  Tx.focus (fun s => s.db.customers)
    (fun s customers => { s with db := { s.db with customers := customers } }) x

def onOrders {Value : Type} (x : Tx OrderTable PyExc Value) : Tx SyncSession PyExc Value :=
  Tx.focus (fun s => s.db.orders)
    (fun s orders => { s with db := { s.db with orders := orders } }) x

def onCatalogue {Value : Type} (x : Tx Catalogue PyExc Value) : Tx SyncSession PyExc Value :=
  Tx.focus SyncSession.catalogue
    (fun s c => { db := { s.db with products := c.products }, productCache := c.cache }) x

inductive SyncAction where
  | created
  | updated
  deriving DecidableEq

def SyncAction.label : SyncAction → String
  | .created => "created"
  | .updated => "updated"

/-- `customer_email or f"{source_order_id}@external.local"`. -/
def insertedEmail (n : NormalizedOrder) : String :=
  if n.customerEmail = "" then n.sourceOrderId ++ "@external.local" else n.customerEmail

/-- The SELECT is skipped for an empty address. -/
def lookupCustomer (customers : CustomerTable) (email : String) : Option Nat :=
  if email = "" then none else customers.find email

def newCustomer (env : SyncEnv) (n : NormalizedOrder) (name : String) : Customer where
  name := name
  email := insertedEmail n
  phone := none
  company := some env.sourceName
  industry := some "Retail"
  revenue := some n.total
  notes := some s!"Auto-created from {env.sourceName} sync"

def resolveCustomer (env : SyncEnv) (n : NormalizedOrder) : Tx CustomerTable PyExc Nat := do
  let customers ← Tx.read
  match lookupCustomer customers n.customerEmail with
  | some id => return id
  | none =>
    let name ← Tx.orRaise .dataError (env.backend.bindText (.varchar 200) n.customerName)
    Tx.check .dataError (env.backend.takesStr (.varchar 200) (insertedEmail n))
    Tx.check .dataError (env.backend.takesFloat n.total)
    let (id, inserted) ← Tx.orRaise .integrityError (customers.insert (newCustomer env n name))
    Tx.write fun _ => inserted
    return id

def newOrder (env : SyncEnv) (customerId : Nat) (n : NormalizedOrder)
    (notes address : String) : Order where
  sourceSystem := some env.sourceName
  sourceOrderId := some n.sourceOrderId
  createdAt := some n.createdAt
  customerId := some customerId
  total := n.total
  status := some n.status
  notes := some notes
  shippingAddress := some address
  sourceCustomerEmail := some n.customerEmail
  syncStatus := some "synced"
  backlogStatus := some n.backlogStatus
  syncError := some ""
  sourcePayload := some (env.py.dumps (.obj n.payload))
  lastSyncedAt := some n.lastSyncedAt
  correlationId := some env.correlationId

/-- The assignments of the update branch; the other columns are left alone. -/
def updatedOrder (env : SyncEnv) (customerId : Nat) (n : NormalizedOrder)
    (notes address : String) (order : Order) : Order :=
  { order with
    customerId := some customerId
    total := n.total
    status := some n.status
    notes := some notes
    shippingAddress := some address
    sourceCustomerEmail := some n.customerEmail
    syncStatus := some "synced"
    backlogStatus := some n.backlogStatus
    syncError := some ""
    sourcePayload := some (env.py.dumps (.obj n.payload))
    lastSyncedAt := some n.lastSyncedAt
    correlationId := some env.correlationId }

theorem updatedOrder_sourceKey (env : SyncEnv) (customerId : Nat) (n : NormalizedOrder)
    (notes address : String) (order : Order) :
    (updatedOrder env customerId n notes address order).sourceKey = order.sourceKey := rfl

/-- The columns that both branches of the upsert write. -/
def orderColumnsTaken (env : SyncEnv) (n : NormalizedOrder) : Bool :=
  env.backend.takesFloat n.total && env.backend.takesStr (.varchar 50) n.status &&
    env.backend.takesStr (.varchar 200) n.customerEmail &&
    env.backend.takesStr .text (env.py.dumps (.obj n.payload))

def upsertOrder (env : SyncEnv) (customerId : Nat) (n : NormalizedOrder) :
    Tx OrderTable PyExc (SyncAction × Nat) := do
  let orders ← Tx.read
  let notes ← Tx.orRaise .dataError (env.backend.bindText .text n.notes)
  let address ← Tx.orRaise .dataError (env.backend.bindText .text n.shippingAddress)
  Tx.check .dataError (orderColumnsTaken env n)
  match orders.find (env.sourceName, n.sourceOrderId) with
  | none =>
    Tx.check .dataError (env.backend.takesStr (.varchar 120) n.sourceOrderId)
    let (id, inserted) ← Tx.orRaise .integrityError
      (orders.insert (newOrder env customerId n notes address))
    Tx.write fun _ => inserted
    return (.created, id)
  | some id =>
    Tx.write fun orders => orders.modify id (updatedOrder env customerId n notes address)
      (updatedOrder_sourceKey env customerId n notes address)
    return (.updated, id)

/-- `str(product_ref or product_name or "").lower()`. -/
def itemRef (py : Builtins) (item : NormalizedItem) : String :=
  py.lower (Json.toStr py ((item.productRef.or item.productName).or (.str "")))

/-- `product_name or "Synced Item"`. -/
def baseName (item : NormalizedItem) : Json := item.productName.or (.str "Synced Item")

def syncSku (py : Builtins) (text : String) : String := "SYNC-" ++ py.md5 text

def newProduct (env : SyncEnv) (item : NormalizedItem) (name sku : String) : Product where
  shopId := none
  name := name
  sku := sku
  description := some s!"Auto-created from {env.sourceName}"
  price := item.unitPrice
  stock := some 999
  category := some "External Sync"
  imageUrl := none
  isActive := some 1

/-- `cache[key] = product`. -/
def cachePut (cache : String → Option Nat) (key : String) (id : Nat) : String → Option Nat :=
  fun k => if k = key then some id else cache k

def Catalogue.remember (c : Catalogue) (key : String) (id : Nat) : Catalogue :=
  { c with cache := cachePut c.cache key id }

/-- The text that is hashed: the reference, or the name when that is empty. -/
def hashedText (py : Builtins) (item : NormalizedItem) : Except PyExc String :=
  if itemRef py item ≠ "" then .ok (itemRef py item) else (baseName item).asStr

/-- A cached product is returned as it is, whether its row still exists or not.
The name is lower-cased only after the row is flushed and its SKU is cached. -/
def resolveProduct (env : SyncEnv) (item : NormalizedItem) : Tx Catalogue PyExc Nat := do
  let c ← Tx.read
  match c.cache (itemRef env.py item) with
  | some id => return id
  | none =>
    let text ← Tx.ofExcept (hashedText env.py item)
    let sku := syncSku env.py text
    let name ← Tx.orRaise .dataError (env.backend.bindText (.varchar 200) (baseName item))
    Tx.check .dataError (env.backend.takesFloat item.unitPrice)
    let (id, inserted) ← Tx.orRaise .integrityError
      (c.products.insert (newProduct env item name sku))
    Tx.write fun c => { c with products := inserted }
    Tx.write fun c => c.remember (env.py.lower sku) id
    let spelled ← Tx.ofExcept (baseName item).asStr
    Tx.write fun c => c.remember (env.py.lower spelled) id
    return id

/-- One OrderItem row; `product_id` is a foreign key. -/
def addOrderItem (env : SyncEnv) (orderId : Nat) (item : NormalizedItem) (productId : Nat) :
    Tx SyncSession PyExc PUnit := do
  let s ← Tx.read
  Tx.check .dataError (env.backend.takesInt item.quantity)
  Tx.check .dataError (env.backend.takesFloat item.unitPrice)
  Tx.check .integrityError (s.db.products.row productId).isSome
  Tx.write fun s => { s with db := { s.db with
    orderItems := s.db.orderItems ++ [⟨orderId, some productId, item.quantity, item.unitPrice⟩] } }

def syncItem (env : SyncEnv) (orderId : Nat) (item : NormalizedItem) :
    Tx SyncSession PyExc PUnit := do
  let productId ← onCatalogue (resolveProduct env item)
  addOrderItem env orderId item productId

def SyncSession.dropItems (s : SyncSession) (orderId : Nat) : SyncSession :=
  { s with db := { s.db with
    orderItems := s.db.orderItems.filter (fun item => decide (item.orderId ≠ orderId)) } }

def replaceOrderItems (env : SyncEnv) (orderId : Nat) (items : List NormalizedItem) :
    Tx SyncSession PyExc PUnit := do
  Tx.write fun s => s.dropItems orderId
  Tx.forEach (syncItem env orderId) items

def auditRow (env : SyncEnv) (sourceOrderId action status : String) (message : Message) :
    OrderSyncAudit where
  sourceSystem := env.sourceName
  sourceOrderId := sourceOrderId
  syncAction := action
  syncStatus := status
  message := message
  correlationId := env.correlationId
  traceId := env.traceId

def auditTaken (env : SyncEnv) (row : OrderSyncAudit) : Bool :=
  env.backend.takesStr (.varchar 120) row.sourceOrderId

def SyncSession.addAudit (s : SyncSession) (row : OrderSyncAudit) : SyncSession :=
  { s with db := { s.db with orderSyncAudit := s.db.orderSyncAudit ++ [row] } }

structure SyncedOrder where
  id : Nat
  sourceOrderId : String
  status : String
  backlogStatus : String
  total : PyFloat

inductive EntryOutcome where
  | stored (action : SyncAction) (order : SyncedOrder)
  | failed

def EntryOutcome.isFailed : EntryOutcome → Bool
  | .failed => true
  | .stored _ _ => false

/-- What is done inside the savepoint; its audit row is flushed on leaving it. -/
def storeEntry (env : SyncEnv) (n : NormalizedOrder) :
    Tx SyncSession PyExc (SyncAction × Nat) := do
  let customerId ← onCustomers (resolveCustomer env n)
  let (action, orderId) ← onOrders (upsertOrder env customerId n)
  replaceOrderItems env orderId n.items
  let row := auditRow env n.sourceOrderId action.label "success"
    (.text s!"{action.label} order from {env.sourceName}")
  Tx.check .dataError (auditTaken env row)
  Tx.write fun s => s.addAudit row
  return (action, orderId)

/-- ROLLBACK TO SAVEPOINT: the rows come back, the cache stays. -/
def SyncSession.rollback (start reached : SyncSession) : SyncSession where
  db := start.db.rollback reached.db
  productCache := reached.productCache

def syncEntry (env : SyncEnv) (n : NormalizedOrder) (s : SyncSession) :
    EntryOutcome × SyncSession :=
  if n.sourceOrderId = "" then
    (.failed, s.addAudit (auditRow env "" "skip" "invalid" (.text "Missing source order id")))
  else match Tx.savepoint SyncSession.rollback (storeEntry env n) s with
    | (.ok (action, orderId), t) =>
      (.stored action ⟨orderId, n.sourceOrderId, n.status, n.backlogStatus, n.total⟩, t)
    | (.error exc, t) =>
      (.failed, t.addAudit (auditRow env n.sourceOrderId "upsert" "failed" (.strOf exc)))

/-- `outcomes` is not in the dict that the code returns: it keeps, for each entry
in turn, which of the counters it went to. -/
structure SyncResult where
  created : Nat
  updated : Nat
  failed : Nat
  orders : List SyncedOrder
  outcomes : List EntryOutcome

def SyncResult.zero : SyncResult := ⟨0, 0, 0, [], []⟩

def SyncResult.count (r : SyncResult) (outcome : EntryOutcome) : SyncResult :=
  match outcome with
  | .stored .created order => { r with
      created := r.created + 1, orders := r.orders ++ [order], outcomes := r.outcomes ++ [outcome] }
  | .stored .updated order => { r with
      updated := r.updated + 1, orders := r.orders ++ [order], outcomes := r.outcomes ++ [outcome] }
  | .failed => { r with failed := r.failed + 1, outcomes := r.outcomes ++ [outcome] }

/-- A raw order and the time at which the loop reaches it. -/
structure Arrival where
  raw : Obj
  now : DateTime

/-- The normaliser runs outside the `try`. -/
def syncLoop (env : SyncEnv) :
    List Arrival → SyncResult → SyncSession → Except PyExc (SyncResult × SyncSession)
  | [], r, s => .ok (r, s)
  | entry :: rest, r, s =>
    match normalizeExternalOrder env.py entry.now entry.raw with
    | .error exc => .error exc
    | .ok n => syncLoop env rest (r.count (syncEntry env n s).1) (syncEntry env n s).2

/-- `_product_lookup`: later entries of the listing overwrite earlier ones. -/
def productLookup (py : Builtins) (listing : List (Nat × Product)) : String → Option Nat :=
  listing.foldl (fun cache product =>
    cachePut (cachePut (cachePut cache (py.lower product.2.sku) product.1)
      (py.lower product.2.name) product.1) (toString product.1) product.1) (fun _ => none)

/-- The session part of `sync_external_orders`. An audit row that was added
outside a savepoint and that the table does not take makes the final commit
raise, whichever flush meets it first, and then nothing is stored. -/
def syncExternalOrders (env : SyncEnv) (db : Db) (listing : Table.Listing db.products)
    (feed : List Arrival) : Except PyExc (SyncResult × Db) :=
  match syncLoop env feed SyncResult.zero ⟨db, productLookup env.py listing.rows⟩ with
  | .error exc => .error exc
  | .ok (r, s) =>
    if (s.db.orderSyncAudit.drop db.orderSyncAudit.length).all (auditTaken env) then
      .ok (r, s.db)
    else .error .dataError

/-- The hashes of the references in the sample feeds. -/
def sampleHash : String → String
  | "camera" => "DD6D2DCC"
  | "strap" => "6EBB759D"
  | _ => ""

def sampleEnv : SyncEnv where
  py := asciiBuiltins sampleHash
  backend := postgres
  sourceName := "octo-drone-shop"
  correlationId := "run-1"
  traceId := "trace-1"

/-- A raw order with one item. -/
def sampleOrder (id email ref : String) (quantity unitPrice : Int) : Obj :=
  [("id", .str id), ("customer_email", .str email),
    ("items", .arr [.obj [("sku", .str ref), ("quantity", .int quantity),
      ("unit_price", .int unitPrice)]])]

end OrderSync
