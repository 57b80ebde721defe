import CrmPortal.RequestContext

/-!
# Pushing catalogue changes to the shop

`shop_catalog_sync.py`: the payload of a product and the request that carries
it. The HTTP call is a parameter; a call that raises is answered like a failed
one, a body that is no JSON object raises when its `error` is looked up.
-/

namespace ShopCatalogSync

open PyValue Transaction CrmDatabase RequestContext

/-- The dict of `_serialize_product`, less `created_at`. -/
structure SerializedProduct where
  id : Nat
  shopId : Option Nat
  shopName : Option String
  name : String
  sku : String
  description : Option String
  price : PyFloat
  stock : Int
  category : Option String
  imageUrl : Option String
  isActive : Int
  status : String
  deriving DecidableEq

/-- `float(x or 0)`: a NaN is truthy and stays. -/
def floatOrZero (x : PyFloat) : PyFloat := if x.truthy then x else .zero

def serializeProduct (id : Nat) (shopName : Option String) (p : Product) : SerializedProduct where
  id := id
  shopId := p.shopId
  shopName := shopName
  name := p.name
  sku := p.sku
  description := p.description
  price := floatOrZero p.price
  stock := p.stock.getD 0
  category := p.category
  imageUrl := p.imageUrl
  isActive := p.isActive.getD 0
  status := if p.isActive.getD 0 ≠ 0 then "active" else "inactive"

/-- What the shop is told about one product. -/
structure ShopRecord where
  name : String
  sku : String
  description : String
  price : PyFloat
  stock : Int
  category : String
  imageUrl : String
  isActive : Int
  deriving DecidableEq

def buildShopSyncPayload (py : Builtins) (product : SerializedProduct) : ShopRecord where
  name := py.strip product.name
  sku := py.upper (py.strip product.sku)
  description := py.strip (product.description.getD "")
  price := floatOrZero product.price
  stock := product.stock
  category := py.strip (product.category.getD "")
  imageUrl := py.strip (product.imageUrl.getD "")
  isActive := if product.isActive ≠ 0 then 1 else 0

inductive PushAction where
  | upsert
  | deactivate
  deriving DecidableEq

/-- The body of the request, less the constant `source`. -/
structure Push where
  action : PushAction
  products : List ShopRecord
  deriving DecidableEq

inductive HttpOutcome where
  | raised (reason : String)
  | answered (statusCode : Int) (body : Json)

structure ShopConfig where
  shopUrl : String
  internalKey : String
  post : Push → HttpOutcome

/-- The dict that `sync_products_to_shop` returns. -/
inductive ShopSync where
  | notConfigured (reason : String)
  | skipped (action : PushAction)
  | failed (action : PushAction) (count : Nat) (reason : String)
  | answered (synced : Bool) (action : PushAction) (count : Nat) (statusCode : Int) (body : Json)

/-- `response.status_code in (200, 201) and not body.get("error")`. -/
def accepted (statusCode : Int) (body : Json) : Except PyExc Bool := do
  if statusCode = 200 ∨ statusCode = 201 then
    let d ← body.asDict
    return !(d.get "error").truthy
  else
    return false

/-- The base URL without its slashes at the end is empty. -/
def ShopConfig.noUrl (cfg : ShopConfig) : Bool := cfg.shopUrl.toList.all (fun c => c == '/')

def syncProductsToShop (py : Builtins) (cfg : ShopConfig) (action : PushAction)
    (products : List SerializedProduct) : Tx (World Push) PyExc ShopSync :=
  let prepared := products.map (buildShopSyncPayload py)
  if cfg.noUrl then return .notConfigured "OCTO_DRONE_SHOP_URL not configured"
  else if cfg.internalKey = "" then return .notConfigured "DRONE_SHOP_INTERNAL_KEY not configured"
  else if prepared.isEmpty then return .skipped action
  else do
    let push : Push := ⟨action, prepared⟩
    Tx.write fun w => { w with trace := w.trace ++ [.sent push] }
    match cfg.post push with
    | .raised reason => return .failed action prepared.length reason
    | .answered statusCode body =>
      let synced ← Tx.ofExcept (accepted statusCode body)
      return .answered synced action prepared.length statusCode body

/-- The shop is reachable as far as the configuration goes. -/
structure ShopConfig.Configured (cfg : ShopConfig) : Prop where
  url : cfg.noUrl = false
  key : cfg.internalKey ≠ ""

/-- The one request that a configured shop is sent, if there is anything to tell. -/
theorem syncProductsToShop_sends {py : Builtins} {cfg : ShopConfig} (hcfg : cfg.Configured)
    {action : PushAction} {products : List SerializedProduct} (hsome : products ≠ [])
    (w : World Push) : (syncProductsToShop py cfg action products w).2 =
      { w with trace := w.trace ++
        [.sent ⟨action, products.map (buildShopSyncPayload py)⟩] } := by
  have hprepared : (products.map (buildShopSyncPayload py)).isEmpty = false := by
    simpa using hsome
  unfold syncProductsToShop
  simp only [hcfg.url, hcfg.key, hprepared, Bool.false_eq_true, if_false]
  rw [Tx.bind_of_ok _ (Tx.write_apply _ _)]
  rcases cfg.post ⟨action, products.map (buildShopSyncPayload py)⟩ with
    reason | ⟨statusCode, body⟩
  · rfl
  · rcases haccepted : accepted statusCode body with exc | synced
    · simp [haccepted, Tx.ofExcept, Tx.bind_apply]
    · simp [haccepted, Tx.ofExcept, Tx.bind_apply]

/-- Pushing changes no row; it adds at most the one request to the trace. -/
theorem syncProductsToShop_world (py : Builtins) (cfg : ShopConfig) (action : PushAction)
    (products : List SerializedProduct) (w : World Push) :
    ∃ pushes : List Push, (syncProductsToShop py cfg action products w).2 =
      { w with trace := w.trace ++ pushes.map .sent } ∧
      ∀ push ∈ pushes, push.action = action ∧
        push.products = products.map (buildShopSyncPayload py) := by
  by_cases hsent : cfg.Configured ∧ products ≠ []
  · exact ⟨[⟨action, products.map (buildShopSyncPayload py)⟩],
      syncProductsToShop_sends hsent.1 hsent.2 w, by simp⟩
  · refine ⟨[], ?_, by simp⟩
    have silent : w = { w with trace := w.trace ++ ([] : List Push).map .sent } := by simp
    unfold syncProductsToShop
    by_cases hurl : cfg.noUrl = true
    · rw [if_pos hurl]
      exact silent
    by_cases hkey : cfg.internalKey = ""
    · rw [if_neg hurl, if_pos hkey]
      exact silent
    have hempty : products = [] := by
      by_contra hsome
      exact hsent ⟨⟨Bool.eq_false_iff.mpr hurl, hkey⟩, hsome⟩
    rw [if_neg hurl, if_neg hkey, hempty]
    exact silent

end ShopCatalogSync
