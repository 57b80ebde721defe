import CrmPortal.ShopCatalogSync

/-!
# The product handlers

`create_product`, `update_product`, `delete_product` and `sync_catalog_to_shop`,
one statement after another. A handler answers an error inside the `get_db`
block, and pushes to the shop after it.
-/

namespace Products

open PyValue IdentityTable Transaction UnitOfWork CrmDatabase RequestContext ShopCatalogSync

/-- The characters of the SKU pattern. -/
def isSkuChar (c : Char) : Bool := c.isAlphanum || c == '.' || c == '_' || c == '-'

/-- A request body that has passed validation. -/
structure ProductMutation where
  name : String
  sku : String
  description : String
  price : PyFloat
  stock : Int
  category : String
  imageUrl : Option String
  shopId : Option Nat
  isActive : Int
  nameLength : 1 ≤ name.length ∧ name.length ≤ 200
  skuLength : 2 ≤ sku.length ∧ sku.length ≤ 50
  skuPattern : sku.toList.all isSkuChar = true
  descriptionLength : description.length ≤ 4000
  priceRange : PyFloat.le .zero price = true ∧ PyFloat.le price (.fin 1000000) = true
  stockRange : 0 ≤ stock ∧ stock ≤ 1000000
  categoryLength : category.length ≤ 100
  imageUrlLength : ∀ url ∈ imageUrl, url ≠ "" ∧ url.length ≤ 500
  shopIdRange : ∀ id ∈ shopId, 1 ≤ id
  isActiveRange : 0 ≤ isActive ∧ isActive ≤ 1

/-- `Product(**payload.model_dump())`. Every column that the CRM writes is in the
body, so an update that assigns each field leaves the same row. -/
def ProductMutation.row (p : ProductMutation) : Product where
  shopId := p.shopId
  name := p.name
  sku := p.sku
  description := some p.description
  price := p.price
  stock := some p.stock
  category := some p.category
  imageUrl := p.imageUrl
  isActive := some p.isActive

/-- The configuration of the process and the faults of the block. -/
structure HandlerEnv where
  py : Builtins
  db : DbConfig
  shop : ShopConfig
  faults : Faults PyExc

/-- The frame of a catalogue handler: the guard, the `get_db` block, and what
comes after the block unless it was left early. -/
def managed {Answer Value : Type} (env : HandlerEnv) (request : Request)
    (block : User → Block Db PyExc (Response Answer) Value)
    (finish : Value → Tx (World Push) PyExc (Response Answer)) :
    Tx (World Push) PyExc (Response Answer) := do
  let actor ← Tx.ofExcept (requireManagementUser env.py request)
  let ended ← getDb env.db env.faults (block actor)
  match ended with
  | .inl response => return response
  | .inr value => finish value

inductive ProductAnswer where
  | created (product : SerializedProduct) (sync : ShopSync)
  | updated (product : SerializedProduct) (sync : ShopSync)
  | catalogSynced (status : String) (productCount : Nat) (sync : ShopSync)
  | archived (product : SerializedProduct) (reason : String) (sync : ShopSync)
  | deleted (productId : Nat) (product : SerializedProduct) (sync : ShopSync)

/-- What a product handler does after its block: push, then answer. -/
def pushThenAnswer {Value : Type} (env : HandlerEnv) (action : PushAction)
    (products : Value → List SerializedProduct) (answer : Value → ShopSync → ProductAnswer)
    (value : Value) : Tx (World Push) PyExc (Response ProductAnswer) := do
  let sync ← syncProductsToShop env.py env.shop action (products value)
  return .answer (answer value sync)

abbrev ProductBlock := Block Db PyExc (Response ProductAnswer)

/-- `_record_audit` of the catalogue modules. -/
def auditRow (request : Request) (actor : User) (action resource details : String) : AuditLog where
  userId := actor.userId
  action := action
  resource := resource
  details := details
  ipAddress := request.clientHost
  userAgent := some request.userAgent
  traceId := request.correlationId

def recordAudit {Answer : Type} (faults : Faults PyExc) (row : AuditLog) :
    Block Db PyExc (Response Answer) PUnit :=
  execute faults fun db => .ok { db with auditLogs := db.auditLogs ++ [row] }

/-- The shop that the payload names, if it names one. -/
def findShop (faults : Faults PyExc) : Option Nat → ProductBlock (Option Shop)
  | none => return none
  | some id => do
    let shop ← query faults fun db => db.shops.row id
    let shop ← orReturn (.error "Shop not found") shop
    return some shop

def insertProduct (row : Product) (db : Db) : Except PyExc Db :=
  match db.products.insert row with
  | none => .error .integrityError
  | some (_, products) => .ok { db with products := products }

def replaceProduct (id : Nat) (row : Product) (db : Db) : Except PyExc Db :=
  match db.products.replace id row with
  | none => .error .integrityError
  | some products => .ok { db with products := products }

def createProductBlock (env : HandlerEnv) (request : Request) (actor : User)
    (payload : ProductMutation) : ProductBlock SerializedProduct := do
  let existing ← query env.faults fun db => db.products.find payload.sku
  ensure (.error "SKU already exists") existing.isNone
  let shop ← findShop env.faults payload.shopId
  let before ← Tx.read
  let id := before.state.products.next
  execute env.faults (insertProduct payload.row)
  recordAudit env.faults (auditRow request actor "products.create" s!"products/{id}"
    s!"Created product {payload.sku}")
  return serializeProduct id (shop.map Shop.name) payload.row

def createProduct (env : HandlerEnv) (request : Request) (payload : ProductMutation) :
    Tx (World Push) PyExc (Response ProductAnswer) :=
  managed env request (createProductBlock env request · payload)
    (pushThenAnswer env .upsert (fun serialized => [serialized]) .created)

/-- Another product with the SKU. -/
def duplicateSku (db : Db) (id : Nat) (sku : String) : Bool :=
  match db.products.find sku with
  | some other => decide (other ≠ id)
  | none => false

def updateProductBlock (env : HandlerEnv) (request : Request) (actor : User) (productId : Nat)
    (payload : ProductMutation) : ProductBlock SerializedProduct := do
  let product ← query env.faults fun db => db.products.row productId
  let _ ← orReturn (.error "Product not found") product
  let duplicate ← query env.faults fun db => duplicateSku db productId payload.sku
  ensure (.error "SKU already exists") (!duplicate)
  let shop ← findShop env.faults payload.shopId
  execute env.faults (replaceProduct productId payload.row)
  recordAudit env.faults (auditRow request actor "products.update" s!"products/{productId}"
    s!"Updated product {payload.sku}")
  return serializeProduct productId (shop.map Shop.name) payload.row

def updateProduct (env : HandlerEnv) (request : Request) (productId : Nat)
    (payload : ProductMutation) : Tx (World Push) PyExc (Response ProductAnswer) :=
  managed env request (updateProductBlock env request · productId payload)
    (pushThenAnswer env .upsert (fun serialized => [serialized]) .updated)

/-- `selectinload(Product.shop)`: the name of the shop a product belongs to. -/
def shopName (db : Db) (p : Product) : Option String :=
  (p.shopId.bind db.shops.row).map Shop.name

def syncCatalogBlock (env : HandlerEnv) (request : Request) (actor : User) :
    ProductBlock (List SerializedProduct) := do
  let products ← query env.faults fun db =>
    db.products.listing.rows.map fun row => serializeProduct row.1 (shopName db row.2) row.2
  recordAudit env.faults (auditRow request actor "products.sync.shop" "products"
    s!"Triggered full catalog sync for {products.length} products")
  return products

/-- `shop_sync.get("synced")`. -/
def ShopSync.synced : ShopSync → Bool
  | .skipped _ => true
  | .answered synced _ _ _ _ => synced
  | _ => false

def syncCatalogToShop (env : HandlerEnv) (request : Request) :
    Tx (World Push) PyExc (Response ProductAnswer) :=
  managed env request (syncCatalogBlock env request)
    (pushThenAnswer env .upsert id fun products sync => .catalogSynced
      (if ShopSync.synced sync then "completed" else "warning") products.length sync)

/-- `func.count(OrderItem.id)` for one product. -/
def linkedOrders (db : Db) (productId : Nat) : Nat :=
  db.orderItems.countP fun item => decide (item.productId = some productId)

/-- `product.is_active = 0`. -/
def deactivated (p : Product) : Product := { p with isActive := some 0 }

theorem deactivated_skuKey (p : Product) : (deactivated p).skuKey = p.skuKey := rfl

def archiveProduct (id : Nat) (db : Db) : Db :=
  { db with products := db.products.modify id deactivated deactivated_skuKey }

def dropProduct (id : Nat) (db : Db) : Db :=
  { db with products := db.products.delete id }

/-- What the block leaves behind for the answer: archived or deleted, and the
product as the shop is told of it. -/
def deleteProductBlock (env : HandlerEnv) (request : Request) (actor : User) (productId : Nat) :
    ProductBlock (Bool × SerializedProduct) := do
  let product ← query env.faults fun db => db.products.row productId
  let product ← orReturn (.error "Product not found") product
  let linked ← query env.faults fun db => linkedOrders db productId
  if linked ≠ 0 then
    execute env.faults fun db => .ok (archiveProduct productId db)
    let snapshot := serializeProduct productId none (deactivated product)
    recordAudit env.faults (auditRow request actor "products.archive" s!"products/{productId}"
      s!"Archived product {product.sku} because it has order history")
    return (true, snapshot)
  else
    let snapshot := { serializeProduct productId none product with isActive := 0 }
    execute env.faults fun db => .ok (dropProduct productId db)
    recordAudit env.faults (auditRow request actor "products.delete" s!"products/{productId}"
      s!"Deleted product {product.sku}")
    return (false, snapshot)

def deleteProduct (env : HandlerEnv) (request : Request) (productId : Nat) :
    Tx (World Push) PyExc (Response ProductAnswer) :=
  managed env request (deleteProductBlock env request · productId)
    (pushThenAnswer env .deactivate (fun left => [left.2]) fun left sync =>
      if left.1 then .archived left.2
        "Product has historical orders and was deactivated instead of deleted" sync
      else .deleted productId left.2 sync)

/-- A process whose database takes every statement and whose shop takes every push. -/
def sampleHandlerEnv : HandlerEnv where
  py := asciiBuiltins fun _ => ""
  db := ⟨false, true⟩
  shop := ⟨"https://shop.example", "key", fun _ => .answered 200 (.obj [])⟩
  faults := fun _ => none

def sampleManager : Request := ⟨some ⟨some 1, some "manager"⟩, some "10.0.0.1", "cli", "corr-1"⟩

/-- The mutation with the given SKU of four letters or digits. -/
def sampleMutation (a b c d : Char) (h : [a, b, c, d].all isSkuChar = true) : ProductMutation where
  name := "Camera"
  sku := String.ofList [a, b, c, d]
  description := ""
  price := .fin 300
  stock := 5
  category := "Optics"
  imageUrl := none
  shopId := none
  isActive := 1
  nameLength := by decide
  skuLength := by simp
  skuPattern := by simpa using h
  descriptionLength := by decide
  priceRange := by decide +kernel
  stockRange := by decide
  categoryLength := by decide
  imageUrlLength := by intro url h; cases h
  shopIdRange := by intro id h; cases h
  isActiveRange := by decide

end Products
