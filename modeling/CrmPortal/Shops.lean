import CrmPortal.Products

/-!
# The shop handlers

`create_shop`, `update_shop` and `delete_shop`. A shop with products is refused
by an exception inside the `get_db` block, the other refusals are early returns.
-/

namespace Shops

open PyValue IdentityTable Transaction UnitOfWork CrmDatabase RequestContext ShopCatalogSync
  Products

def allowedShopStatuses : List String := ["active", "maintenance", "inactive"]

/-- The characters of the slug pattern. -/
def isSlugChar (c : Char) : Bool := c.isLower || c.isDigit || c == '-'

/-- A request body that has passed validation, which has put the status in lower
and the currency in upper case. -/
structure ShopMutation where
  name : String
  slug : String
  storefrontUrl : String
  crmBaseUrl : String
  region : String
  currency : String
  status : String
  notes : String
  nameLength : 1 ≤ name.length ∧ name.length ≤ 200
  slugLength : 2 ≤ slug.length ∧ slug.length ≤ 80
  slugPattern : slug.toList.all isSlugChar = true
  urlLengths : storefrontUrl.length ≤ 500 ∧ crmBaseUrl.length ≤ 500
  regionLength : 2 ≤ region.length ∧ region.length ≤ 80
  statusAllowed : status ∈ allowedShopStatuses
  notesLength : notes.length ≤ 4000

def ShopMutation.row (p : ShopMutation) : Shop where
  name := p.name
  slug := p.slug
  storefrontUrl := p.storefrontUrl
  crmBaseUrl := p.crmBaseUrl
  region := p.region
  currency := some p.currency
  status := some p.status
  notes := some p.notes

/-- The dict of `_serialize_shop`, less its timestamps. -/
structure SerializedShop where
  id : Nat
  shop : Shop
  productCount : Nat

inductive ShopAnswer where
  | created (shop : SerializedShop)
  | updated (shop : SerializedShop)
  | deleted (shopId : Nat)

abbrev ShopBlock := Block Db PyExc (Response ShopAnswer)

def insertShop (row : Shop) (db : Db) : Except PyExc Db :=
  match db.shops.insert row with
  | none => .error .integrityError
  | some (_, shops) => .ok { db with shops := shops }

def replaceShop (id : Nat) (row : Shop) (db : Db) : Except PyExc Db :=
  match db.shops.replace id row with
  | none => .error .integrityError
  | some shops => .ok { db with shops := shops }

def dropShop (id : Nat) (db : Db) : Db := { db with shops := db.shops.delete id }

/-- `func.count(Product.id)` for one shop. -/
def productCount (db : Db) (shopId : Nat) : Nat :=
  db.products.listing.rows.countP fun row => decide (row.2.shopId = some shopId)

def createShopBlock (env : HandlerEnv) (request : Request) (actor : User)
    (payload : ShopMutation) : ShopBlock SerializedShop := do
  let duplicate ← query env.faults fun db => db.shops.find payload.slug
  ensure (.error "Shop slug already exists") duplicate.isNone
  let before ← Tx.read
  let id := before.state.shops.next
  execute env.faults (insertShop payload.row)
  recordAudit env.faults (auditRow request actor "shops.create" s!"shops/{id}"
    s!"Created shop {payload.slug}")
  return ⟨id, payload.row, 0⟩

def createShop (env : HandlerEnv) (request : Request) (payload : ShopMutation) :
    Tx (World Push) PyExc (Response ShopAnswer) :=
  managed env request (createShopBlock env request · payload) fun shop =>
    return .answer (.created shop)

/-- Another shop with the slug. -/
def duplicateSlug (db : Db) (id : Nat) (slug : String) : Bool :=
  match db.shops.find slug with
  | some other => decide (other ≠ id)
  | none => false

def updateShopBlock (env : HandlerEnv) (request : Request) (actor : User) (shopId : Nat)
    (payload : ShopMutation) : ShopBlock SerializedShop := do
  let shop ← query env.faults fun db => db.shops.row shopId
  let _ ← orReturn (.error "Shop not found") shop
  let duplicate ← query env.faults fun db => duplicateSlug db shopId payload.slug
  ensure (.error "Shop slug already exists") (!duplicate)
  execute env.faults (replaceShop shopId payload.row)
  let count ← query env.faults fun db => productCount db shopId
  recordAudit env.faults (auditRow request actor "shops.update" s!"shops/{shopId}"
    s!"Updated shop {payload.slug}")
  return ⟨shopId, payload.row, count⟩

def updateShop (env : HandlerEnv) (request : Request) (shopId : Nat) (payload : ShopMutation) :
    Tx (World Push) PyExc (Response ShopAnswer) :=
  managed env request (updateShopBlock env request · shopId payload) fun shop =>
    return .answer (.updated shop)

/-- A shop that products still name is refused with 409. -/
def deleteShopBlock (env : HandlerEnv) (request : Request) (actor : User) (shopId : Nat) :
    ShopBlock PUnit := do
  let shop ← query env.faults fun db => db.shops.row shopId
  let shop ← orReturn (.error "Shop not found") shop
  let count ← query env.faults fun db => productCount db shopId
  demand (.httpException 409) (decide (count = 0))
  execute env.faults fun db => .ok (dropShop shopId db)
  recordAudit env.faults (auditRow request actor "shops.delete" s!"shops/{shopId}"
    s!"Deleted shop {shop.slug}")

def deleteShop (env : HandlerEnv) (request : Request) (shopId : Nat) :
    Tx (World Push) PyExc (Response ShopAnswer) :=
  managed env request (deleteShopBlock env request · shopId) fun _ =>
    return .answer (.deleted shopId)

end Shops
