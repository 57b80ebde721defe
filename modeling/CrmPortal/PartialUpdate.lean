import CrmPortal.CatalogAtomicity

/-!
# What a PATCH does to the fields it does not mention

`update_product` and `update_shop` take the model of a new record, give every field the
body lacks the default of a new record, and assign all of them. A field that the body
lacks keeps its value exactly when that value is the default.
-/

namespace PartialUpdate

open PyValue IdentityTable Transaction UnitOfWork CrmDatabase RequestContext ShopCatalogSync
  Products Shops CatalogAtomicity

section Fields
variable {α : Type}

/-- `Field(..., ...)`. -/
def required (body : Obj) (key : String) (read : Json → Option α) : Option α :=
  (body.lookup key).bind read

/-- `Field(default=default, ...)`; the default itself is not checked. -/
def optional (body : Obj) (key : String) (read : Json → Option α) (default : α) : Option α :=
  match body.lookup key with
  | some v => read v
  | none => some default

def Lacks (body : Obj) (key : String) : Prop := body.lookup key = none

instance (body : Obj) (key : String) : Decidable (Lacks body key) :=
  inferInstanceAs (Decidable (_ = _))

theorem required_not_lacking {body : Obj} {key : String} {read : Json → Option α} {a : α}
    (h : required body key read = some a) : ¬ Lacks body key := by
  intro hlacks
  unfold required at h
  rw [hlacks] at h
  cases h

theorem optional_eq_default {body : Obj} {key : String} {read : Json → Option α} {default a : α}
    (h : optional body key read default = some a) (hlacks : Lacks body key) : a = default := by
  unfold optional at h
  rw [hlacks] at h
  exact (Option.some.inj h).symm

end Fields

/-- A field of the rows of a table: its name in a body, and the default of the model. -/
structure Field (Row : Type) where
  key : String
  Value : Type
  get : Row → Value
  default : Option Value

def Field.Same {Row : Type} (f : Field Row) (a b : Row) : Prop := f.get a = f.get b

def Field.HasDefault {Row : Type} (f : Field Row) (a : Row) : Prop := f.default = some (f.get a)

/-- Among rows with the default in the fields that are lacking, only the others count. -/
theorem same_iff_default {Row : Type} {fields : List (Field Row)} {lacking : Field Row → Prop}
    {new old : Row} (h : ∀ f ∈ fields, lacking f → f.HasDefault new) :
    (∀ f ∈ fields, lacking f → f.Same new old) ↔ ∀ f ∈ fields, lacking f → f.HasDefault old := by
  constructor
  · intro hsame f hf hlacks
    unfold Field.HasDefault
    rw [← hsame f hf hlacks]
    exact h f hf hlacks
  · intro hdefault f hf hlacks
    exact Option.some.inj ((h f hf hlacks).symm.trans (hdefault f hf hlacks))

theorem empty_text : "".length ≤ 4000 := Nat.zero_le 4000

theorem empty_category : "".length ≤ 100 := Nat.zero_le 100

theorem zero_stock : 0 ≤ (0 : Int) ∧ (0 : Int) ≤ 1000000 := by decide

theorem no_url : ∀ url ∈ (none : Option String), url ≠ "" ∧ url.length ≤ 500 := by
  rintro url ⟨⟩

theorem no_shop : ∀ id ∈ (none : Option Nat), 1 ≤ id := by
  rintro id ⟨⟩

theorem active_flag : 0 ≤ (1 : Int) ∧ (1 : Int) ≤ 1 := by decide

theorem active_status : "active" ∈ allowedShopStatuses := by decide

/-- How each value of a body is checked and converted. -/
structure ProductReaders where
  name : Json → Option { s : String // 1 ≤ s.length ∧ s.length ≤ 200 }
  sku : Json → Option { s : String //
    (2 ≤ s.length ∧ s.length ≤ 50) ∧ s.toList.all isSkuChar = true }
  description : Json → Option { s : String // s.length ≤ 4000 }
  price : Json → Option { x : PyFloat //
    PyFloat.le .zero x = true ∧ PyFloat.le x (.fin 1000000) = true }
  stock : Json → Option { n : Int // 0 ≤ n ∧ n ≤ 1000000 }
  category : Json → Option { s : String // s.length ≤ 100 }
  imageUrl : Json → Option { u : Option String // ∀ url ∈ u, url ≠ "" ∧ url.length ≤ 500 }
  shopId : Json → Option { i : Option Nat // ∀ id ∈ i, 1 ≤ id }
  isActive : Json → Option { n : Int // 0 ≤ n ∧ n ≤ 1 }

def readProduct (read : ProductReaders) (body : Obj) : Option ProductMutation := do
  let name ← required body "name" read.name
  let sku ← required body "sku" read.sku
  let description ← optional body "description" read.description ⟨"", empty_text⟩
  let price ← required body "price" read.price
  let stock ← optional body "stock" read.stock ⟨0, zero_stock⟩
  let category ← optional body "category" read.category ⟨"", empty_category⟩
  let imageUrl ← optional body "image_url" read.imageUrl ⟨none, no_url⟩
  let shopId ← optional body "shop_id" read.shopId ⟨none, no_shop⟩
  let isActive ← optional body "is_active" read.isActive ⟨1, active_flag⟩
  return ⟨name.1, sku.1, description.1, price.1, stock.1, category.1, imageUrl.1, shopId.1,
    isActive.1, name.2, sku.2.1, sku.2.2, description.2, price.2, stock.2, category.2,
    imageUrl.2, shopId.2, isActive.2⟩

def productFields : List (Field Product) :=
  [⟨"name", String, Product.name, none⟩,
    ⟨"sku", String, Product.sku, none⟩,
    ⟨"description", Option String, Product.description, some (some "")⟩,
    ⟨"price", PyFloat, Product.price, none⟩,
    ⟨"stock", Option Int, Product.stock, some (some 0)⟩,
    ⟨"category", Option String, Product.category, some (some "")⟩,
    ⟨"image_url", Option String, Product.imageUrl, some none⟩,
    ⟨"shop_id", Option Nat, Product.shopId, some none⟩,
    ⟨"is_active", Option Int, Product.isActive, some (some 1)⟩]

/-- What the shop is told of a product, under the same names. -/
def recordFields : List (Field ShopRecord) :=
  [⟨"name", String, ShopRecord.name, none⟩,
    ⟨"sku", String, ShopRecord.sku, none⟩,
    ⟨"description", String, ShopRecord.description, none⟩,
    ⟨"price", PyFloat, ShopRecord.price, none⟩,
    ⟨"stock", Int, ShopRecord.stock, none⟩,
    ⟨"category", String, ShopRecord.category, none⟩,
    ⟨"image_url", String, ShopRecord.imageUrl, none⟩,
    ⟨"is_active", Int, ShopRecord.isActive, none⟩]

/-- A body that is read gives every field it lacks the default. -/
theorem readProduct_default {read : ProductReaders} {body : Obj} {payload : ProductMutation}
    (h : readProduct read body = some payload) :
    ∀ f ∈ productFields, Lacks body f.key → f.HasDefault payload.row := by
  unfold readProduct at h
  obtain ⟨name, hname, h⟩ := Option.bind_eq_some_iff.mp h
  obtain ⟨sku, hsku, h⟩ := Option.bind_eq_some_iff.mp h
  obtain ⟨description, hdescription, h⟩ := Option.bind_eq_some_iff.mp h
  obtain ⟨price, hprice, h⟩ := Option.bind_eq_some_iff.mp h
  obtain ⟨stock, hstock, h⟩ := Option.bind_eq_some_iff.mp h
  obtain ⟨category, hcategory, h⟩ := Option.bind_eq_some_iff.mp h
  obtain ⟨imageUrl, himageUrl, h⟩ := Option.bind_eq_some_iff.mp h
  obtain ⟨shopId, hshopId, h⟩ := Option.bind_eq_some_iff.mp h
  obtain ⟨isActive, hisActive, h⟩ := Option.bind_eq_some_iff.mp h
  obtain rfl := Option.some.inj h
  intro f hf hlacks
  simp only [productFields, List.mem_cons, List.not_mem_nil, or_false] at hf
  rcases hf with rfl | rfl | rfl | rfl | rfl | rfl | rfl | rfl | rfl
  · exact absurd hlacks (required_not_lacking hname)
  · exact absurd hlacks (required_not_lacking hsku)
  · obtain rfl := optional_eq_default hdescription hlacks
    rfl
  · exact absurd hlacks (required_not_lacking hprice)
  · obtain rfl := optional_eq_default hstock hlacks
    rfl
  · obtain rfl := optional_eq_default hcategory hlacks
    rfl
  · obtain rfl := optional_eq_default himageUrl hlacks
    rfl
  · obtain rfl := optional_eq_default hshopId hlacks
    rfl
  · obtain rfl := optional_eq_default hisActive hlacks
    rfl

/-- Each field of the record depends on the field of its name alone. -/
theorem record_same (py : Builtins) (id : Nat) (first second : Option String) {new old : Product}
    {named : String → Prop} (h : ∀ f ∈ productFields, named f.key → f.Same new old) :
    ∀ g ∈ recordFields, named g.key →
      g.Same (buildShopSyncPayload py (serializeProduct id first new))
        (buildShopSyncPayload py (serializeProduct id second old)) := by
  simp only [productFields, List.forall_mem_cons, Field.Same] at h
  obtain ⟨hname, hsku, hdescription, hprice, hstock, hcategory, himageUrl, -, hisActive, -⟩ := h
  intro g hg hnamed
  simp only [recordFields, List.mem_cons, List.not_mem_nil, or_false] at hg
  rcases hg with rfl | rfl | rfl | rfl | rfl | rfl | rfl | rfl
  · simp only [Field.Same, buildShopSyncPayload, serializeProduct, hname hnamed]
  · simp only [Field.Same, buildShopSyncPayload, serializeProduct, hsku hnamed]
  · simp only [Field.Same, buildShopSyncPayload, serializeProduct, hdescription hnamed]
  · simp only [Field.Same, buildShopSyncPayload, serializeProduct, hprice hnamed]
  · simp only [Field.Same, buildShopSyncPayload, serializeProduct, hstock hnamed]
  · simp only [Field.Same, buildShopSyncPayload, serializeProduct, hcategory hnamed]
  · simp only [Field.Same, buildShopSyncPayload, serializeProduct, himageUrl hnamed]
  · simp only [Field.Same, buildShopSyncPayload, serializeProduct, hisActive hnamed]
    rfl

structure ShopReaders where
  name : Json → Option { s : String // 1 ≤ s.length ∧ s.length ≤ 200 }
  slug : Json → Option { s : String //
    (2 ≤ s.length ∧ s.length ≤ 80) ∧ s.toList.all isSlugChar = true }
  storefrontUrl : Json → Option { s : String // s.length ≤ 500 }
  crmBaseUrl : Json → Option { s : String // s.length ≤ 500 }
  region : Json → Option { s : String // 2 ≤ s.length ∧ s.length ≤ 80 }
  currency : Json → Option String
  status : Json → Option { s : String // s ∈ allowedShopStatuses }
  notes : Json → Option { s : String // s.length ≤ 4000 }

def readShop (read : ShopReaders) (body : Obj) : Option ShopMutation := do
  let name ← required body "name" read.name
  let slug ← required body "slug" read.slug
  let storefrontUrl ← required body "storefront_url" read.storefrontUrl
  let crmBaseUrl ← required body "crm_base_url" read.crmBaseUrl
  let region ← required body "region" read.region
  let currency ← optional body "currency" read.currency "USD"
  let status ← optional body "status" read.status ⟨"active", active_status⟩
  let notes ← optional body "notes" read.notes ⟨"", empty_text⟩
  return ⟨name.1, slug.1, storefrontUrl.1, crmBaseUrl.1, region.1, currency, status.1, notes.1,
    name.2, slug.2.1, slug.2.2, ⟨storefrontUrl.2, crmBaseUrl.2⟩, region.2, status.2, notes.2⟩

def shopFields : List (Field Shop) :=
  [⟨"name", String, Shop.name, none⟩,
    ⟨"slug", String, Shop.slug, none⟩,
    ⟨"storefront_url", String, Shop.storefrontUrl, none⟩,
    ⟨"crm_base_url", String, Shop.crmBaseUrl, none⟩,
    ⟨"region", String, Shop.region, none⟩,
    ⟨"currency", Option String, Shop.currency, some (some "USD")⟩,
    ⟨"status", Option String, Shop.status, some (some "active")⟩,
    ⟨"notes", Option String, Shop.notes, some (some "")⟩]

theorem readShop_default {read : ShopReaders} {body : Obj} {payload : ShopMutation}
    (h : readShop read body = some payload) :
    ∀ f ∈ shopFields, Lacks body f.key → f.HasDefault payload.row := by
  unfold readShop at h
  obtain ⟨name, hname, h⟩ := Option.bind_eq_some_iff.mp h
  obtain ⟨slug, hslug, h⟩ := Option.bind_eq_some_iff.mp h
  obtain ⟨storefrontUrl, hstorefrontUrl, h⟩ := Option.bind_eq_some_iff.mp h
  obtain ⟨crmBaseUrl, hcrmBaseUrl, h⟩ := Option.bind_eq_some_iff.mp h
  obtain ⟨region, hregion, h⟩ := Option.bind_eq_some_iff.mp h
  obtain ⟨currency, hcurrency, h⟩ := Option.bind_eq_some_iff.mp h
  obtain ⟨status, hstatus, h⟩ := Option.bind_eq_some_iff.mp h
  obtain ⟨notes, hnotes, h⟩ := Option.bind_eq_some_iff.mp h
  obtain rfl := Option.some.inj h
  intro f hf hlacks
  simp only [shopFields, List.mem_cons, List.not_mem_nil, or_false] at hf
  rcases hf with rfl | rfl | rfl | rfl | rfl | rfl | rfl | rfl
  · exact absurd hlacks (required_not_lacking hname)
  · exact absurd hlacks (required_not_lacking hslug)
  · exact absurd hlacks (required_not_lacking hstorefrontUrl)
  · exact absurd hlacks (required_not_lacking hcrmBaseUrl)
  · exact absurd hlacks (required_not_lacking hregion)
  · obtain rfl := optional_eq_default hcurrency hlacks
    rfl
  · obtain rfl := optional_eq_default hstatus hlacks
    rfl
  · obtain rfl := optional_eq_default hnotes hlacks
    rfl

section Updates
variable {env : HandlerEnv} {request : Request} {w : World Push} {id : Nat}

/-- An update that is not refused writes the payload, and tells the shop of it. -/
theorem updateProduct_written {payload : ProductMutation}
    (h : ¬ Untouched w (updateProduct env request id payload w).2) :
    (updateProduct env request id payload w).2.db.products.row id = some payload.row ∧
      ∃ pushes : List Push, (updateProduct env request id payload w).2.trace =
          w.trace ++ .committed :: pushes.map .sent ∧
        ∀ push ∈ pushes, ∃ shopName, push.products =
          [buildShopSyncPayload env.py (serializeProduct id shopName payload.row)] := by
  unfold updateProduct at h ⊢
  rcases managed_cases env request
      (pushThenAnswer env .upsert (fun serialized => [serialized]) .updated)
      (fun _ => updateProductBlock_leaves id payload) w with
    ⟨actor, serialized, t, -, hblock, hrun⟩ | ⟨-, hsame⟩
  · obtain ⟨old, products, shopName, -, hreplace, rfl, hstate⟩ := updateProductBlock_ok hblock
    obtain ⟨pushes, hworld, hpushes⟩ := syncProductsToShop_world env.py env.shop .upsert
      [serializeProduct id shopName payload.row] ⟨t.state, w.trace ++ [.committed]⟩
    rw [hrun, (pushThenAnswer_world env .upsert _ _ _ _).2, hworld, hstate]
    refine ⟨?_, pushes, ?_, fun push hpush => ⟨shopName, (hpushes push hpush).2⟩⟩
    · rw [(Table.replace_eq_some hreplace).2, if_pos rfl]
    · rw [List.append_assoc, List.singleton_append]
  · exact absurd hsame h

theorem updateShop_written {payload : ShopMutation}
    (h : ¬ Untouched w (updateShop env request id payload w).2) :
    (updateShop env request id payload w).2.db.shops.row id = some payload.row := by
  unfold updateShop at h ⊢
  rcases managed_cases env request (fun shop => return .answer (.updated shop))
      (fun _ => updateShopBlock_leaves id payload) w with
    ⟨actor, serialized, t, -, hblock, hrun⟩ | ⟨-, hsame⟩
  · obtain ⟨old, shops, -, hreplace, hstate⟩ := updateShopBlock_ok hblock
    rw [hrun, Tx.pure_apply, hstate]
    rw [(Table.replace_eq_some hreplace).2, if_pos rfl]
  · exact absurd hsame h

/-- Stored and pushed, a field that the body lacks is as it was. -/
structure ProductKept (env : HandlerEnv) (body : Obj) (id : Nat) (old : Product)
    (w w' : World Push) : Prop where
  stored : ∀ new, w'.db.products.row id = some new →
    ∀ f ∈ productFields, Lacks body f.key → f.Same new old
  pushed : ∀ push, .sent push ∈ w'.trace.drop w.trace.length → ∀ record ∈ push.products,
    ∀ g ∈ recordFields, Lacks body g.key →
      g.Same record (buildShopSyncPayload env.py (serializeProduct id none old))

def ShopKept (body : Obj) (id : Nat) (old : Shop) (w' : World Push) : Prop :=
  ∀ new, w'.db.shops.row id = some new → ∀ f ∈ shopFields, Lacks body f.key → f.Same new old

theorem productKept_iff {read : ProductReaders} {body : Obj} {payload : ProductMutation}
    {old : Product} (hread : readProduct read body = some payload)
    (h : ¬ Untouched w (updateProduct env request id payload w).2) :
    ProductKept env body id old w (updateProduct env request id payload w).2 ↔
      ∀ f ∈ productFields, Lacks body f.key → f.HasDefault old := by
  obtain ⟨hrow, pushes, htrace, hpushes⟩ := updateProduct_written h
  have hsame : (∀ f ∈ productFields, Lacks body f.key → f.Same payload.row old) ↔
      ∀ f ∈ productFields, Lacks body f.key → f.HasDefault old :=
    same_iff_default (readProduct_default hread)
  rw [← hsame]
  constructor
  · intro hkept
    exact hkept.stored payload.row hrow
  · intro hfields
    constructor
    · intro new hnew
      obtain rfl := Option.some.inj (hrow.symm.trans hnew)
      exact hfields
    · intro push hpush record hrecord
      rw [htrace, List.drop_left] at hpush
      have hsent : push ∈ pushes := by simpa using hpush
      obtain ⟨shopName, hproducts⟩ := hpushes push hsent
      rw [hproducts, List.mem_singleton] at hrecord
      subst hrecord
      exact record_same env.py id shopName none hfields

theorem shopKept_iff {read : ShopReaders} {body : Obj} {payload : ShopMutation} {old : Shop}
    (hread : readShop read body = some payload)
    (h : ¬ Untouched w (updateShop env request id payload w).2) :
    ShopKept body id old (updateShop env request id payload w).2 ↔
      ∀ f ∈ shopFields, Lacks body f.key → f.HasDefault old := by
  have hrow := updateShop_written h
  have hsame : (∀ f ∈ shopFields, Lacks body f.key → f.Same payload.row old) ↔
      ∀ f ∈ shopFields, Lacks body f.key → f.HasDefault old :=
    same_iff_default (readShop_default hread)
  rw [← hsame]
  constructor
  · intro hkept
    exact hkept payload.row hrow
  · intro hfields new hnew
    obtain rfl := Option.some.inj (hrow.symm.trans hnew)
    exact hfields

/-- An accepted PATCH keeps what its body lacks exactly where the default is stored. -/
theorem lacking_fields_kept_iff (env : HandlerEnv) (request : Request) (w : World Push)
    (id : Nat) (body : Obj) :
    (∀ (read : ProductReaders) (payload : ProductMutation) (old : Product),
      readProduct read body = some payload → w.db.products.row id = some old →
      ¬ Untouched w (updateProduct env request id payload w).2 →
      (ProductKept env body id old w (updateProduct env request id payload w).2 ↔
        ∀ f ∈ productFields, Lacks body f.key → f.HasDefault old)) ∧
    ∀ (read : ShopReaders) (payload : ShopMutation) (old : Shop),
      readShop read body = some payload → w.db.shops.row id = some old →
      ¬ Untouched w (updateShop env request id payload w).2 →
      (ShopKept body id old (updateShop env request id payload w).2 ↔
        ∀ f ∈ shopFields, Lacks body f.key → f.HasDefault old) :=
  ⟨fun _ _ _ hread _ h => productKept_iff hread h, fun _ _ _ hread _ h => shopKept_iff hread h⟩

end Updates

def checked {α : Type} (convert : Json → Option α) (p : α → Prop) [DecidablePred p] (v : Json) :
    Option { a : α // p a } :=
  (convert v).bind fun a => if h : p a then some ⟨a, h⟩ else none

def readText : Json → Option String
  | .str s => some s
  | _ => none

def readInt : Json → Option Int
  | .int n => some n
  | _ => none

def readFloat : Json → Option PyFloat
  | .int n => (PyFloat.ofInt n).toOption
  | .float x => some x
  | _ => none

def readNullable {α : Type} (convert : Json → Option α) : Json → Option (Option α)
  | .null => some none
  | v => (convert v).map some

/-- Values of the types of the fields, and no conversion. -/
def strictProductReaders : ProductReaders where
  name := checked readText _
  sku := checked readText _
  description := checked readText _
  price := checked readFloat _
  stock := checked readInt _
  category := checked readText _
  imageUrl := checked (readNullable readText) _
  shopId := checked (readNullable fun v => (readInt v).map Int.toNat) _
  isActive := checked readInt _

def strictShopReaders : ShopReaders where
  name := checked readText _
  slug := checked readText _
  storefrontUrl := checked readText _
  crmBaseUrl := checked readText _
  region := checked readText _
  currency := readText
  status := checked readText _
  notes := checked readText _

def priceBody : Obj := [("name", .str "Mug"), ("sku", .str "mug1"), ("price", .int 10)]

def pricePayload : ProductMutation :=
  (readProduct strictProductReaders priceBody).get (by decide +kernel)

theorem pricePayload_read : readProduct strictProductReaders priceBody = some pricePayload :=
  (Option.some_get _).symm

/-- One product, of this stock and state. -/
def mug (stock isActive : Int) : Product :=
  ⟨none, "Mug", "mug1", some "", .fin 10, some stock, some "", none, some isActive⟩

def mugWorld (stock isActive : Int) : World Push :=
  match Db.empty.products.insert (mug stock isActive) with
  | some (_, products) => ⟨{ Db.empty with products := products }, []⟩
  | none => ⟨Db.empty, []⟩

/-- What is committed is told by the audit row. -/
theorem written_of_audit {w w' : World Push} (h : w'.db.auditLogs.length ≠ w.db.auditLogs.length) :
    ¬ Untouched w w' :=
  fun hsame => h (congrArg List.length hsame.rows.auditLogs)

/-- An archived mug of which there are five is active and sold out after a PATCH of its price. -/
theorem price_update_restocks : ¬ ∀ (env : HandlerEnv) (request : Request) (w : World Push)
    (id : Nat) (body : Obj) (read : ProductReaders) (payload : ProductMutation) (old : Product),
    readProduct read body = some payload → w.db.products.row id = some old →
    ¬ Untouched w (updateProduct env request id payload w).2 →
    ProductKept env body id old w (updateProduct env request id payload w).2 := by
  intro hall
  have hwritten : ¬ Untouched (mugWorld 5 0)
      (updateProduct sampleHandlerEnv sampleManager 1 pricePayload (mugWorld 5 0)).2 :=
    written_of_audit (by decide +kernel)
  have hkept := hall _ _ _ _ _ _ _ (mug 5 0) pricePayload_read rfl hwritten
  have hfields := hkept.stored _ (updateProduct_written hwritten).1
  simp only [productFields, List.forall_mem_cons] at hfields
  have hstock := hfields.2.2.2.2.1 rfl
  revert hstock
  unfold Field.Same
  decide +kernel

def storeBody : Obj :=
  [("name", .str "Store"), ("slug", .str "store"), ("storefront_url", .str "https://a"),
    ("crm_base_url", .str "https://b"), ("region", .str "eu")]

def storePayload : ShopMutation := (readShop strictShopReaders storeBody).get (by decide +kernel)

theorem storePayload_read : readShop strictShopReaders storeBody = some storePayload :=
  (Option.some_get _).symm

def store : Shop :=
  ⟨"Shop", "shop", "https://a", "https://b", "eu", some "USD", some "active", some ""⟩

def storeWorld : World Push :=
  match Db.empty.shops.insert store with
  | some (_, shops) => ⟨{ Db.empty with shops := shops }, []⟩
  | none => ⟨Db.empty, []⟩

/-- A mug and a store that have the defaults keep them. -/
theorem defaults_are_kept :
    ProductKept sampleHandlerEnv priceBody 1 (mug 0 1) (mugWorld 0 1)
        (updateProduct sampleHandlerEnv sampleManager 1 pricePayload (mugWorld 0 1)).2 ∧
      ShopKept storeBody 1 store
        (updateShop sampleHandlerEnv sampleManager 1 storePayload storeWorld).2 := by
  constructor
  · refine ((lacking_fields_kept_iff sampleHandlerEnv sampleManager (mugWorld 0 1) 1 priceBody).1
      strictProductReaders pricePayload (mug 0 1) pricePayload_read rfl
      (written_of_audit (by decide +kernel))).mpr ?_
    simp only [productFields, List.forall_mem_cons]
    refine ⟨fun h => absurd h (by decide), fun h => absurd h (by decide), fun _ => rfl,
      fun h => absurd h (by decide), fun _ => rfl, fun _ => rfl, fun _ => rfl, fun _ => rfl,
      fun _ => rfl, List.forall_mem_nil _⟩
  · refine ((lacking_fields_kept_iff sampleHandlerEnv sampleManager storeWorld 1 storeBody).2
      strictShopReaders storePayload store storePayload_read rfl
      (written_of_audit (by decide +kernel))).mpr ?_
    simp only [shopFields, List.forall_mem_cons]
    refine ⟨fun h => absurd h (by decide), fun h => absurd h (by decide),
      fun h => absurd h (by decide), fun h => absurd h (by decide), fun h => absurd h (by decide),
      fun _ => rfl, fun _ => rfl, fun _ => rfl, List.forall_mem_nil _⟩

end PartialUpdate
