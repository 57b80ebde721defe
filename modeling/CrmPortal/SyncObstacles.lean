import CrmPortal.ProductCache

/-!
# What an entry fails on

Whether an entry can be stored is read off the entry itself, the rows it meets and
the keys of the product cache: its customer is there or can be made, its columns are
taken, and each item in turn finds its product or can have it made. An entry that
fails takes its rows back but leaves the keys of the products made for it in the
cache; they name no row, and a later item that meets one of them fails on it.
-/

namespace SyncObstacles

open PyValue IdentityTable Transaction CrmDatabase OrderNormalization OrderSync OrderSyncSpec
open ProductCache

/-- The rows of `db`, the product cache, and the keys whose products were rolled back. -/
structure Shelf where
  db : Db
  cache : String → Option Nat
  lost : List String
  live : ∀ key id, cache key = some id → (db.products.row id).isSome = true

/-- The keys and the SKUs of the products made for the items before. -/
structure Making where
  keys : List String
  skus : List String

def Making.none : Making := ⟨[], []⟩

/-- A product made for the item is cached under its SKU, and then under its name. -/
def madeKeys (py : Builtins) (item : NormalizedItem) (sku : String) : List String :=
  py.lower sku :: ((baseName item).asStr.toOption.map py.lower).toList

namespace Shelf

/-- The row that is cached for an item. -/
def product (py : Builtins) (shelf : Shelf) (item : NormalizedItem) : Option Nat :=
  if itemRef py item ∈ shelf.lost then none else shelf.cache (itemRef py item)

def products (py : Builtins) (shelf : Shelf) : List NormalizedItem → Option (List Nat)
  | [] => some []
  | item :: rest => do
    let id ← shelf.product py item
    let ids ← shelf.products py rest
    return id :: ids

/-- Nothing is cached under the item's reference. -/
def lacks (py : Builtins) (shelf : Shelf) (making : Making) (item : NormalizedItem) : Bool :=
  decide (itemRef py item ∉ making.keys) && decide (itemRef py item ∉ shelf.lost) &&
    (shelf.cache (itemRef py item)).isNone

/-- The SKU of the row that is inserted for the item, if one is. -/
def inserted (env : SyncEnv) (shelf : Shelf) (making : Making) (item : NormalizedItem) :
    Option String :=
  if shelf.lacks env.py making item &&
      (env.backend.bindText (.varchar 200) (baseName item)).isSome &&
      env.backend.takesFloat item.unitPrice then
    ((hashedText env.py item).toOption.map (syncSku env.py)).filter fun sku =>
      (shelf.db.products.find sku).isNone && decide (sku ∉ making.skus)
  else none

def after (env : SyncEnv) (shelf : Shelf) (making : Making) (item : NormalizedItem) : Making :=
  match shelf.inserted env making item with
  | some sku => ⟨madeKeys env.py item sku ++ making.keys, sku :: making.skus⟩
  | none => making

/-- The item has a product: one made before, a cached one, or one made for it whose name
can be lower-cased. -/
def has (env : SyncEnv) (shelf : Shelf) (making : Making) (item : NormalizedItem) : Bool :=
  decide (itemRef env.py item ∈ making.keys) || (shelf.product env.py item).isSome ||
    ((shelf.inserted env making item).isSome && (baseName item).asStr.isOk)

/-- The item has a product and its row is taken. -/
def serves (env : SyncEnv) (shelf : Shelf) (making : Making) (item : NormalizedItem) : Bool :=
  shelf.has env making item && env.backend.takesInt item.quantity &&
    env.backend.takesFloat item.unitPrice

/-- The items in turn, up to the first that is not served: what has been made by then,
and whether there is no such item. -/
def stock (env : SyncEnv) (shelf : Shelf) : Making → List NormalizedItem → Making × Bool
  | making, [] => (making, true)
  | making, item :: rest =>
    if shelf.serves env making item then shelf.stock env (shelf.after env making item) rest
    else (shelf.after env making item, false)

end Shelf

/-- The customer is there, or the table takes one made for the entry. -/
def customerReady (env : SyncEnv) (customers : CustomerTable) (n : NormalizedOrder) : Bool :=
  (lookupCustomer customers n.customerEmail).isSome ||
    ((env.backend.bindText (.varchar 200) n.customerName).isSome &&
      env.backend.takesStr (.varchar 200) (insertedEmail n) && env.backend.takesFloat n.total &&
      (customers.find (insertedEmail n)).isNone)

/-- The columns of the order are taken. -/
def orderReady (env : SyncEnv) (n : NormalizedOrder) : Bool :=
  (env.backend.bindText .text n.notes).isSome &&
    (env.backend.bindText .text n.shippingAddress).isSome && orderColumnsTaken env n

namespace Shelf

/-- The items are looked at. -/
def reached (env : SyncEnv) (shelf : Shelf) (n : NormalizedOrder) : Bool :=
  decide (n.sourceOrderId ≠ "") && customerReady env shelf.db.customers n && orderReady env n

/-- The entry has no id, no customer, a column that is refused, or an item without a product. -/
def obstructs (env : SyncEnv) (shelf : Shelf) (n : NormalizedOrder) : Bool :=
  !(shelf.reached env n && (shelf.stock env .none n.items).2)

/-- What has been made for the entry by the time it ends. -/
def making (env : SyncEnv) (shelf : Shelf) (n : NormalizedOrder) : Making :=
  if shelf.reached env n then (shelf.stock env .none n.items).1 else .none

def lose (shelf : Shelf) (keys : List String) : Shelf :=
  { shelf with lost := keys ++ shelf.lost }

end Shelf

/-- The catalogue holds the rows of the shelf and those made, and its cache names the
made ones, no row for the lost keys, and the shelf's for the rest. -/
structure Stocked (shelf : Shelf) (making : Making) (c : Catalogue) : Prop where
  kept : Table.Extends shelf.db.products c.products
  made : ∀ key ∈ making.keys, ∃ id, c.cache key = some id ∧ (c.products.row id).isSome = true ∧
    shelf.db.products.row id = none
  lost : ∀ key ∈ shelf.lost, key ∉ making.keys → ∃ id, c.cache key = some id ∧
    c.products.row id = none ∧ id < c.products.next
  cached : ∀ key, key ∉ shelf.lost → key ∉ making.keys → c.cache key = shelf.cache key
  skus : ∀ sku, c.products.find sku = none ↔
    shelf.db.products.find sku = none ∧ sku ∉ making.skus

theorem Stocked.start (shelf : Shelf) (hlost : shelf.lost = []) :
    Stocked shelf .none ⟨shelf.db.products, shelf.cache⟩ where
  kept := Table.Extends.refl _
  made := fun _ hkey => absurd hkey List.not_mem_nil
  lost := fun _ hkey => absurd (hlost ▸ hkey) List.not_mem_nil
  cached := fun _ _ _ => rfl
  skus := fun _ => (and_iff_left List.not_mem_nil).symm

section Items

variable {env : SyncEnv} {shelf : Shelf} {making : Making} {item : NormalizedItem} {c : Catalogue}

/-- What the resolver does without a cached product, step by step. -/
theorem resolveProduct_lacks (h : c.cache (itemRef env.py item) = none) :
    resolveProduct env item c = match hashedText env.py item with
      | .error exc => (.error exc, c)
      | .ok text => match env.backend.bindText (.varchar 200) (baseName item) with
        | none => (.error .dataError, c)
        | some name => if env.backend.takesFloat item.unitPrice then
            match c.products.insert (newProduct env item name (syncSku env.py text)) with
            | none => (.error .integrityError, c)
            | some (id, products) => match (baseName item).asStr with
              | .error exc => (.error exc,
                  ⟨products, cachePut c.cache (env.py.lower (syncSku env.py text)) id⟩)
              | .ok spelled =>
                (.ok id, grown env.py c products (syncSku env.py text) spelled id)
          else (.error .dataError, c) := by
  unfold resolveProduct
  rw [Tx.bind_of_ok _ (Tx.read_apply c), h]
  simp only [Tx.bind_apply]
  rcases hashedText env.py item with exc | text
  · rfl
  rcases env.backend.bindText (.varchar 200) (baseName item) with _ | name
  · rfl
  rcases env.backend.takesFloat item.unitPrice with _ | _
  · rfl
  simp only [Tx.ofExcept, Tx.orRaise, Tx.check, Tx.pure_apply, if_true]
  rcases c.products.insert (newProduct env item name (syncSku env.py text)) with _ | ⟨id, products⟩
  · rfl
  · rcases (baseName item).asStr with exc | spelled
    · rfl
    · rfl

/-- The three ways to look an item up. -/
theorem Stocked.lookup (h : Stocked shelf making c) :
    (itemRef env.py item ∈ making.keys ∧ ∃ id, c.cache (itemRef env.py item) = some id ∧
      (c.products.row id).isSome = true) ∨
    (itemRef env.py item ∉ making.keys ∧ itemRef env.py item ∈ shelf.lost ∧
      ∃ id, c.cache (itemRef env.py item) = some id ∧ c.products.row id = none) ∨
    (itemRef env.py item ∉ making.keys ∧ itemRef env.py item ∉ shelf.lost ∧
      c.cache (itemRef env.py item) = shelf.cache (itemRef env.py item)) := by
  by_cases hmade : itemRef env.py item ∈ making.keys
  · obtain ⟨id, hcache, hrow, _⟩ := h.made _ hmade
    exact Or.inl ⟨hmade, id, hcache, hrow⟩
  · by_cases hlost : itemRef env.py item ∈ shelf.lost
    · obtain ⟨id, hcache, hrow, _⟩ := h.lost _ hlost hmade
      exact Or.inr (Or.inl ⟨hmade, hlost, id, hcache, hrow⟩)
    · exact Or.inr (Or.inr ⟨hmade, hlost, h.cached _ hlost hmade⟩)

/-- Whether a row with this SKU would be inserted. -/
theorem find_insert {products products' : ProductTable} {row : Product} {id : Nat}
    (h : products.insert row = some (id, products')) (sku : String) :
    products'.find sku = none ↔ products.find sku = none ∧ sku ≠ row.sku := by
  obtain ⟨_, hfree, _, hrow⟩ := Table.insert_eq_some h
  rw [Table.find_eq_none_iff, Table.find_eq_none_iff]
  constructor
  · intro hall
    refine ⟨?_, ?_⟩
    · intro i r hr
      exact hall i r (Table.insert_extends h i r hr)
    · rintro rfl
      exact hall id row (by rw [hrow id, if_pos rfl]) rfl
  · rintro ⟨hold, hnew⟩ i r hr hkey
    rw [hrow i] at hr
    split at hr
    · obtain rfl := Option.some.inj hr
      exact hnew (Option.some.inj hkey).symm
    · exact hold i r hr hkey

theorem inserted_of_cached (h : shelf.lacks env.py making item = false) :
    shelf.inserted env making item = none := by
  simp [Shelf.inserted, h]

theorem after_of_not_inserted (h : shelf.inserted env making item = none) :
    shelf.after env making item = making := by
  simp [Shelf.after, h]

/-- A new row, with the keys it is filed under so far. -/
theorem Stocked.grow (h : Stocked shelf making c) {row : Product} {id : Nat}
    {products : ProductTable} {keys : List String} {cache : String → Option Nat}
    (hinsert : c.products.insert row = some (id, products))
    (hcache : ∀ key, cache key = if key ∈ keys then some id else c.cache key) :
    Stocked shelf ⟨keys ++ making.keys, row.sku :: making.skus⟩ ⟨products, cache⟩ := by
  obtain ⟨hid, hfree, hnext, hrow⟩ := Table.insert_eq_some hinsert
  have hextends := Table.insert_extends hinsert
  refine ⟨h.kept.trans hextends, ?_, ?_, ?_, ?_⟩
  · intro key hkey
    by_cases hnew : key ∈ keys
    · refine ⟨id, (hcache key).trans (if_pos hnew), ?_, ?_⟩
      · rw [hrow id, if_pos rfl]
        rfl
      · by_contra hold
        obtain ⟨r, hr⟩ := Option.ne_none_iff_exists'.mp hold
        cases hfree.symm.trans (h.kept id r hr)
    · obtain ⟨i, hi, hthere, hnone⟩ := h.made key ((List.mem_append.mp hkey).resolve_left hnew)
      exact ⟨i, (hcache key).trans ((if_neg hnew).trans hi), hextends.isSome hthere, hnone⟩
  · intro key hlost hkey
    rw [List.mem_append, not_or] at hkey
    obtain ⟨i, hi, hnone, hlt⟩ := h.lost key hlost hkey.2
    refine ⟨i, (hcache key).trans ((if_neg hkey.1).trans hi), ?_, ?_⟩
    · -- the new identity is past the lost one
      rw [hrow i, if_neg (by omega)]
      exact hnone
    · change i < products.next
      omega
  · intro key hlost hkey
    rw [List.mem_append, not_or] at hkey
    exact (hcache key).trans ((if_neg hkey.1).trans (h.cached key hlost hkey.2))
  · intro sku
    rw [find_insert hinsert, h.skus sku, List.mem_cons, not_or]
    constructor
    · rintro ⟨⟨hfind, hold⟩, hnew⟩
      exact ⟨hfind, hnew, hold⟩
    · rintro ⟨hfind, hnew, hold⟩
      exact ⟨⟨hfind, hold⟩, hnew⟩

/-- The row is inserted as the shelf says. -/
theorem Stocked.inserted_iff (h : Stocked shelf making c) {text name : String}
    (hlacks : shelf.lacks env.py making item = true) (htext : hashedText env.py item = .ok text)
    (hname : env.backend.bindText (.varchar 200) (baseName item) = some name)
    (hprice : env.backend.takesFloat item.unitPrice = true) :
    shelf.inserted env making item =
      if (c.products.insert (newProduct env item name (syncSku env.py text))).isSome then
        some (syncSku env.py text) else none := by
  have hfree : (c.products.insert (newProduct env item name (syncSku env.py text))).isSome = true ↔
      shelf.db.products.find (syncSku env.py text) = none ∧
        syncSku env.py text ∉ making.skus := by
    rw [Table.insert_isSome_iff, ← h.skus]
    constructor
    · intro hall
      exact hall _ rfl
    · rintro hnone k hk
      obtain rfl := Option.some.inj hk
      exact hnone
  simp only [Shelf.inserted, hlacks, htext, hname, hprice, Option.isSome_some, Bool.and_self,
    if_true, Except.toOption, Option.map_some, Option.filter_some]
  by_cases hsku : (c.products.insert (newProduct env item name (syncSku env.py text))).isSome = true
  · obtain ⟨hfind, hnew⟩ := hfree.mp hsku
    rw [if_pos hsku, hfind]
    simp [hnew]
  · rw [if_neg hsku, if_neg]
    intro hboth
    obtain ⟨hfind, hnew⟩ := Bool.and_eq_true_iff.mp hboth
    exact hsku (hfree.mpr ⟨Option.isNone_iff_eq_none.mp hfind, of_decide_eq_true hnew⟩)

theorem has_of_lacks (h : shelf.lacks env.py making item = true) :
    shelf.has env making item =
      ((shelf.inserted env making item).isSome && (baseName item).asStr.isOk) := by
  simp only [Shelf.lacks, Bool.and_eq_true, decide_eq_true_iff, Option.isNone_iff_eq_none] at h
  obtain ⟨⟨hmade, hlost⟩, hshelf⟩ := h
  simp [Shelf.has, Shelf.product, hmade, hlost, hshelf]

/-- The resolver leaves what the shelf says, and the product that it returns is a row exactly
when the shelf has one. -/
structure Resolved (env : SyncEnv) (shelf : Shelf) (making : Making) (item : NormalizedItem)
    (r : Except PyExc Nat × Catalogue) : Prop where
  stocked : Stocked shelf (shelf.after env making item) r.2
  has : (∃ id, r.1 = .ok id ∧ (r.2.products.row id).isSome = true) ↔
    shelf.has env making item = true

theorem Resolved.unchanged (h : Stocked shelf making c)
    (hnone : shelf.inserted env making item = none) {answer : Except PyExc Nat}
    (hhas : (∃ id, answer = .ok id ∧ (c.products.row id).isSome = true) ↔
      shelf.has env making item = true) : Resolved env shelf making item (answer, c) where
  stocked := by
    rw [after_of_not_inserted hnone]
    exact h
  has := hhas

theorem Resolved.refused (h : Stocked shelf making c)
    (hlacks : shelf.lacks env.py making item = true)
    (hnone : shelf.inserted env making item = none) (exc : PyExc) :
    Resolved env shelf making item (.error exc, c) := by
  refine Resolved.unchanged h hnone (iff_of_false ?_ ?_)
  · rintro ⟨i, hi, _⟩
    cases hi
  · rw [has_of_lacks hlacks, hnone]
    simp

/-- The row is there under its SKU, and under its name where that can be lower-cased. -/
theorem Resolved.made (h : Stocked shelf making c)
    (hlacks : shelf.lacks env.py making item = true) {row : Product} {id : Nat}
    {products : ProductTable} (hinsert : c.products.insert row = some (id, products))
    (hinserted : shelf.inserted env making item = some row.sku) :
    Resolved env shelf making item (match (baseName item).asStr with
      | .error exc => (.error exc, ⟨products, cachePut c.cache (env.py.lower row.sku) id⟩)
      | .ok spelled => (.ok id, grown env.py c products row.sku spelled id)) := by
  have hafter : shelf.after env making item =
      ⟨madeKeys env.py item row.sku ++ making.keys, row.sku :: making.skus⟩ := by
    simp only [Shelf.after, hinserted]
  have hhas := has_of_lacks hlacks
  rw [hinserted] at hhas
  rcases hspelled : (baseName item).asStr with exc | spelled
  · refine ⟨?_, iff_of_false ?_ ?_⟩
    · rw [hafter]
      refine h.grow hinsert fun key => ?_
      simp [madeKeys, hspelled, Except.toOption, cachePut]
    · rintro ⟨i, hi, _⟩
      cases hi
    · simp [hhas, hspelled, Except.isOk, Except.toBool]
  · refine ⟨?_, iff_of_true ⟨id, rfl, ?_⟩ ?_⟩
    · rw [hafter]
      refine h.grow hinsert fun key => ?_
      by_cases hkey : key = env.py.lower spelled
      · simp [madeKeys, hspelled, Except.toOption, cachePut, hkey]
      · simp [madeKeys, hspelled, Except.toOption, cachePut, hkey]
    · obtain ⟨_, _, _, hrows⟩ := Table.insert_eq_some hinsert
      change (products.row id).isSome = true
      rw [hrows id, if_pos rfl]
      rfl
    · simp [hhas, hspelled, Except.isOk, Except.toBool]

theorem resolveProduct_stocked (env : SyncEnv) (item : NormalizedItem)
    (h : Stocked shelf making c) :
    Resolved env shelf making item (resolveProduct env item c) := by
  have hcached : ∀ id, c.cache (itemRef env.py item) = some id →
      resolveProduct env item c = (.ok id, c) :=
    fun id hid => resolveProduct_ok_iff.mpr (Or.inl ⟨hid, rfl⟩)
  rcases @Stocked.lookup env shelf making item c h with
    ⟨hmade, id, hid, hrow⟩ | ⟨hmade, hlost, id, hid, hrow⟩ | ⟨hmade, hlost, hsame⟩
  · rw [hcached id hid]
    refine Resolved.unchanged h (inserted_of_cached (by simp [Shelf.lacks, hmade]))
      (iff_of_true ⟨id, rfl, hrow⟩ ?_)
    simp [Shelf.has, hmade]
  · have hnone : shelf.inserted env making item = none :=
      inserted_of_cached (by simp [Shelf.lacks, hlost])
    rw [hcached id hid]
    refine Resolved.unchanged h hnone (iff_of_false ?_ ?_)
    · rintro ⟨i, hi, hthere⟩
      obtain rfl := Except.ok.inj hi
      rw [hrow] at hthere
      cases hthere
    · simp [Shelf.has, Shelf.product, hmade, hlost, hnone]
  rcases hshelf : shelf.cache (itemRef env.py item) with _ | id
  · have hlacks : shelf.lacks env.py making item = true := by
      simp [Shelf.lacks, hmade, hlost, hshelf]
    rw [resolveProduct_lacks (hsame.trans hshelf)]
    rcases htext : hashedText env.py item with exc | text
    · exact Resolved.refused h hlacks (by simp [Shelf.inserted, htext, Except.toOption]) exc
    rcases hname : env.backend.bindText (.varchar 200) (baseName item) with _ | name
    · exact Resolved.refused h hlacks (by simp [Shelf.inserted, hname]) _
    rcases hprice : env.backend.takesFloat item.unitPrice with _ | _
    · exact Resolved.refused h hlacks (by simp [Shelf.inserted, hprice]) _
    have hinserted := h.inserted_iff hlacks htext hname hprice
    simp only [if_true]
    rcases hinsert : c.products.insert (newProduct env item name (syncSku env.py text)) with
      _ | ⟨id, products⟩
    · rw [hinsert] at hinserted
      exact Resolved.refused h hlacks hinserted _
    · rw [hinsert] at hinserted
      exact Resolved.made h hlacks hinsert hinserted
  · have hlacks : shelf.lacks env.py making item = false := by
      simp [Shelf.lacks, hshelf]
    rw [hcached id (hsame.trans hshelf)]
    refine Resolved.unchanged h (inserted_of_cached hlacks)
      (iff_of_true ⟨id, rfl, h.kept.isSome (shelf.live _ _ hshelf)⟩ ?_)
    simp [Shelf.has, Shelf.product, hlost, hshelf]

theorem addOrderItem_catalogue (env : SyncEnv) (orderId : Nat) (item : NormalizedItem)
    (productId : Nat) (s : SyncSession) :
    (addOrderItem env orderId item productId s).2.catalogue = s.catalogue := by
  unfold addOrderItem
  rw [Tx.bind_of_ok _ (Tx.read_apply s)]
  simp only [Tx.bind_apply, Tx.check]
  rcases env.backend.takesInt item.quantity with _ | _
  · rfl
  rcases env.backend.takesFloat item.unitPrice with _ | _
  · rfl
  rcases (s.db.products.row productId).isSome with _ | _
  · rfl
  · rfl

theorem addOrderItem_isOk (env : SyncEnv) (orderId : Nat) (item : NormalizedItem)
    (productId : Nat) (s : SyncSession) :
    (addOrderItem env orderId item productId s).1.isOk = true ↔
      env.backend.takesInt item.quantity = true ∧ env.backend.takesFloat item.unitPrice = true ∧
        (s.db.products.row productId).isSome = true := by
  unfold addOrderItem
  rw [Tx.bind_of_ok _ (Tx.read_apply s)]
  simp only [Tx.bind_apply, Tx.check]
  rcases env.backend.takesInt item.quantity with _ | _
  · simp [Except.isOk, Except.toBool]
  rcases env.backend.takesFloat item.unitPrice with _ | _
  · simp [Except.isOk, Except.toBool]
  rcases (s.db.products.row productId).isSome with _ | _
  · simp [Except.isOk, Except.toBool]
  · simp [Except.isOk, Except.toBool]

theorem syncItem_stocked (env : SyncEnv) (orderId : Nat) (item : NormalizedItem) {s : SyncSession}
    (h : Stocked shelf making s.catalogue) :
    Stocked shelf (shelf.after env making item) (syncItem env orderId item s).2.catalogue ∧
      (syncItem env orderId item s).1.isOk = shelf.serves env making item := by
  obtain ⟨hafter, hhas⟩ := resolveProduct_stocked env item h
  unfold syncItem onCatalogue
  rcases hresolve : resolveProduct env item s.catalogue with ⟨exc | id, c⟩
  · rw [hresolve] at hafter hhas
    rw [Tx.bind_of_error _ (Tx.focus_apply hresolve)]
    have hnone : shelf.has env making item = false := by
      rw [Bool.eq_false_iff]
      intro hthere
      obtain ⟨i, hi, _⟩ := hhas.mpr hthere
      cases hi
    refine ⟨hafter, ?_⟩
    rw [Shelf.serves, hnone]
    rfl
  · rw [hresolve] at hafter hhas
    rw [Tx.bind_of_ok _ (Tx.focus_apply hresolve), addOrderItem_catalogue]
    refine ⟨hafter, ?_⟩
    rw [Bool.eq_iff_iff, addOrderItem_isOk, Shelf.serves, Bool.and_eq_true, Bool.and_eq_true,
      ← hhas]
    constructor
    · rintro ⟨hquantity, hprice, hrow⟩
      exact ⟨⟨⟨id, rfl, hrow⟩, hquantity⟩, hprice⟩
    · rintro ⟨⟨⟨i, hi, hrow⟩, hquantity⟩, hprice⟩
      obtain rfl := Except.ok.inj hi
      exact ⟨hquantity, hprice, hrow⟩

/-- The loop over the items stops where the shelf says. -/
theorem syncItems_stocked (env : SyncEnv) (orderId : Nat) {items : List NormalizedItem}
    {s : SyncSession} (h : Stocked shelf making s.catalogue) :
    Stocked shelf (shelf.stock env making items).1
        (Tx.forEach (syncItem env orderId) items s).2.catalogue ∧
      (Tx.forEach (syncItem env orderId) items s).1.isOk = (shelf.stock env making items).2 := by
  induction items generalizing making s with
  | nil => exact ⟨h, rfl⟩
  | cons item rest ih =>
    obtain ⟨hafter, hserves⟩ := syncItem_stocked env orderId item h
    rw [Tx.forEach, Shelf.stock]
    rcases hrun : syncItem env orderId item s with ⟨exc | u, t⟩
    · rw [hrun] at hafter hserves
      rw [Tx.bind_of_error _ hrun, ← hserves]
      exact ⟨hafter, rfl⟩
    · rw [hrun] at hafter hserves
      rw [Tx.bind_of_ok _ hrun, ← hserves]
      exact ih hafter

end Items

section Entry

variable {env : SyncEnv} {shelf : Shelf} {n : NormalizedOrder} {s : SyncSession}

theorem isOk_iff {Value : Type} {r : Except PyExc Value} : r.isOk = true ↔ ∃ a, r = .ok a := by
  cases r with
  | error exc => simp [Except.isOk, Except.toBool]
  | ok a => simp [Except.isOk, Except.toBool]

theorem ok_of_fst {State Value : Type} {x : Except PyExc Value × State} {a : Value}
    (h : x.1 = .ok a) : x = (.ok a, x.2) := Prod.ext h rfl

theorem resolveCustomer_isOk (env : SyncEnv) (n : NormalizedOrder) (customers : CustomerTable) :
    (resolveCustomer env n customers).1.isOk = customerReady env customers n := by
  have hfree : ∀ name, (customers.insert (newCustomer env n name)).isSome = true ↔
      customers.find (insertedEmail n) = none := by
    intro name
    rw [Table.insert_isSome_iff]
    constructor
    · intro hall
      exact hall _ rfl
    · rintro hnone k hk
      obtain rfl := Option.some.inj hk
      exact hnone
  rw [Bool.eq_iff_iff, isOk_iff, customerReady]
  simp only [Bool.or_eq_true, Bool.and_eq_true, Option.isNone_iff_eq_none]
  constructor
  · rintro ⟨id, hid⟩
    rcases resolveCustomer_ok_iff.mp (ok_of_fst hid) with ⟨hfound, _⟩ |
      ⟨_, name, hname, hemail, htotal, hinsert⟩
    · exact Or.inl (Option.isSome_of_eq_some hfound)
    · exact Or.inr ⟨⟨⟨Option.isSome_of_eq_some hname, hemail⟩, htotal⟩,
        (hfree name).mp (Option.isSome_of_eq_some hinsert)⟩
  · intro hready
    rcases hfound : lookupCustomer customers n.customerEmail with _ | id
    · rw [hfound] at hready
      obtain ⟨⟨⟨hname, hemail⟩, htotal⟩, hnone⟩ := hready.resolve_left Bool.false_ne_true
      obtain ⟨name, hname⟩ := Option.isSome_iff_exists.mp hname
      obtain ⟨⟨id, inserted⟩, hinsert⟩ := Option.isSome_iff_exists.mp ((hfree name).mpr hnone)
      have hrun := resolveCustomer_ok_iff.mpr
        (Or.inr ⟨hfound, name, hname, hemail, htotal, hinsert⟩)
      exact ⟨id, congrArg Prod.fst hrun⟩
    · exact ⟨id, congrArg Prod.fst (resolveCustomer_ok_iff.mpr (Or.inl ⟨hfound, rfl⟩))⟩

/-- With a source id that fits, the key of the order stands in nobody's way. -/
theorem upsertOrder_isOk (customerId : Nat) (orders : OrderTable)
    (hid : env.backend.takesStr (.varchar 120) n.sourceOrderId = true) :
    (upsertOrder env customerId n orders).1.isOk = orderReady env n := by
  rw [Bool.eq_iff_iff, isOk_iff, orderReady]
  simp only [Bool.and_eq_true]
  constructor
  · rintro ⟨⟨action, id⟩, hrun⟩
    obtain ⟨notes, address, hbound, _⟩ := upsertOrder_ok_iff.mp (ok_of_fst hrun)
    exact ⟨⟨Option.isSome_of_eq_some hbound.notes, Option.isSome_of_eq_some hbound.address⟩,
      hbound.columns⟩
  · rintro ⟨⟨hnotes, haddress⟩, hcolumns⟩
    obtain ⟨notes, hnotes⟩ := Option.isSome_iff_exists.mp hnotes
    obtain ⟨address, haddress⟩ := Option.isSome_iff_exists.mp haddress
    have hbound : OrderBound env n notes address := ⟨hnotes, haddress, hcolumns⟩
    rcases hfound : orders.find (env.sourceName, n.sourceOrderId) with _ | id
    · have hfree : (orders.insert (newOrder env customerId n notes address)).isSome = true := by
        rw [Table.insert_isSome_iff]
        rintro k hk
        obtain rfl := Option.some.inj hk
        exact hfound
      obtain ⟨⟨id, inserted⟩, hinsert⟩ := Option.isSome_iff_exists.mp hfree
      have hrun : upsertOrder env customerId n orders = (.ok (.created, id), inserted) :=
        upsertOrder_ok_iff.mpr ⟨notes, address, hbound, Or.inl ⟨hfound, rfl, hid, hinsert⟩⟩
      exact ⟨_, congrArg Prod.fst hrun⟩
    · have hrun : upsertOrder env customerId n orders = (.ok (.updated, id), _) :=
        upsertOrder_ok_iff.mpr ⟨notes, address, hbound, Or.inr ⟨hfound, rfl, rfl⟩⟩
      exact ⟨_, congrArg Prod.fst hrun⟩

theorem onCustomers_apply {Value : Type} {x : Tx CustomerTable PyExc Value}
    {r : Except PyExc Value} {customers : CustomerTable}
    (h : x s.db.customers = (r, customers)) :
    onCustomers x s = (r, { s with db := { s.db with customers := customers } }) :=
  Tx.focus_apply h

theorem onOrders_apply {Value : Type} {x : Tx OrderTable PyExc Value} {r : Except PyExc Value}
    {orders : OrderTable} (h : x s.db.orders = (r, orders)) :
    onOrders x s = (r, { s with db := { s.db with orders := orders } }) :=
  Tx.focus_apply h

/-- What an entry with a source id reaches, and whether it is stored. -/
structure Predicted (env : SyncEnv) (shelf : Shelf) (n : NormalizedOrder)
    (r : Except PyExc (SyncAction × Nat) × SyncSession) : Prop where
  catalogue : Stocked shelf (shelf.making env n) r.2.catalogue
  stored : r.1.isOk = !shelf.obstructs env n

/-- The entry ends before its items are looked at. -/
theorem Predicted.unreached (h : Stocked shelf .none s.catalogue)
    (hreached : shelf.reached env n = false) {r : Except PyExc (SyncAction × Nat) × SyncSession}
    (hr : r.1.isOk = false) (hsame : r.2.catalogue = s.catalogue) : Predicted env shelf n r := by
  have hnone : shelf.making env n = .none := by simp [Shelf.making, hreached]
  refine ⟨?_, ?_⟩
  · rw [hnone, hsame]
    exact h
  · rw [hr, Shelf.obstructs, hreached]
    rfl

theorem Predicted.supplied (hreached : shelf.reached env n = true)
    {r : Except PyExc (SyncAction × Nat) × SyncSession}
    (h : Stocked shelf (shelf.stock env .none n.items).1 r.2.catalogue)
    (hr : r.1.isOk = (shelf.stock env .none n.items).2) : Predicted env shelf n r := by
  have hmaking : shelf.making env n = (shelf.stock env .none n.items).1 := if_pos hreached
  refine ⟨hmaking ▸ h, ?_⟩
  rw [hr, Shelf.obstructs, hreached, Bool.true_and, Bool.not_not]

theorem replaceOrderItems_stocked (env : SyncEnv) (orderId : Nat) (items : List NormalizedItem)
    (h : Stocked shelf .none s.catalogue) :
    Stocked shelf (shelf.stock env .none items).1
        (replaceOrderItems env orderId items s).2.catalogue ∧
      (replaceOrderItems env orderId items s).1.isOk = (shelf.stock env .none items).2 := by
  unfold replaceOrderItems
  rw [Tx.bind_of_ok _ (Tx.write_apply _ _)]
  exact syncItems_stocked env orderId h

theorem storeEntry_predicted (hnamed : n.sourceOrderId ≠ "")
    (hid : env.backend.takesStr (.varchar 120) n.sourceOrderId = true)
    (hcustomers : ∀ i, s.db.customers.row i = shelf.db.customers.row i)
    (h : Stocked shelf .none s.catalogue) : Predicted env shelf n (storeEntry env n s) := by
  have hready : (resolveCustomer env n s.db.customers).1.isOk =
      customerReady env shelf.db.customers n := by
    rw [resolveCustomer_isOk, customerReady, customerReady, lookupCustomer, lookupCustomer,
      Table.find_congr hcustomers, Table.find_congr hcustomers]
  unfold storeEntry
  rcases hcustomer : resolveCustomer env n s.db.customers with ⟨exc | customerId, customers⟩
  · rw [hcustomer] at hready
    rw [Tx.bind_of_error _ (onCustomers_apply hcustomer)]
    exact .unreached h (by simp [Shelf.reached, ← hready, Except.isOk, Except.toBool]) rfl rfl
  rw [hcustomer] at hready
  let first : SyncSession := { s with db := { s.db with customers := customers } }
  have hfirst : onCustomers (resolveCustomer env n) s = (.ok customerId, first) :=
    onCustomers_apply hcustomer
  rw [Tx.bind_of_ok _ hfirst]
  have hcolumns := upsertOrder_isOk customerId first.db.orders hid
  rcases horder : upsertOrder env customerId n first.db.orders
    with ⟨exc | ⟨action, orderId⟩, orders⟩
  · rw [horder] at hcolumns
    rw [Tx.bind_of_error _ (onOrders_apply horder)]
    exact .unreached h (by simp [Shelf.reached, ← hcolumns, Except.isOk, Except.toBool]) rfl rfl
  rw [horder] at hcolumns
  let second : SyncSession := { first with db := { first.db with orders := orders } }
  have hsecond : onOrders (upsertOrder env customerId n) first =
      (.ok (action, orderId), second) := onOrders_apply horder
  rw [Tx.bind_of_ok _ hsecond]
  dsimp only
  have hreached : shelf.reached env n = true := by
    simp [Shelf.reached, hnamed, ← hready, ← hcolumns, Except.isOk, Except.toBool]
  -- the items are looked up in a session with the catalogue of `s`
  have hstocked : Stocked shelf .none second.catalogue := h
  obtain ⟨hitems, hsupplied⟩ := replaceOrderItems_stocked env orderId n.items hstocked
  rcases hrun : replaceOrderItems env orderId n.items second with ⟨exc | u, t⟩
  · rw [hrun] at hitems hsupplied
    rw [Tx.bind_of_error _ hrun]
    exact .supplied hreached hitems hsupplied
  · rw [hrun] at hitems hsupplied
    have hchecked : (Tx.check PyExc.dataError (auditTaken env (auditRow env n.sourceOrderId
        action.label "success" (.text s!"{action.label} order from {env.sourceName}"))) :
          Tx SyncSession PyExc PUnit) t = (.ok ⟨⟩, t) :=
      Tx.check_ok_iff.mpr ⟨hid, rfl⟩
    rw [Tx.bind_of_ok _ hrun, Tx.bind_of_ok _ hchecked, Tx.bind_of_ok _ (Tx.write_apply _ _)]
    exact .supplied hreached hitems hsupplied

theorem isFailed_of_named (hnamed : n.sourceOrderId ≠ "") :
    (syncEntry env n s).1.isFailed = !(storeEntry env n s).1.isOk := by
  unfold syncEntry Tx.savepoint
  rw [if_neg hnamed]
  rcases storeEntry env n s with ⟨exc | ⟨action, id⟩, t⟩
  · rfl
  · rfl

/-- The entry fails exactly when something obstructs it. -/
theorem syncEntry_isFailed (hid : env.backend.takesStr (.varchar 120) n.sourceOrderId = true)
    (hcustomers : ∀ i, s.db.customers.row i = shelf.db.customers.row i)
    (h : Stocked shelf .none s.catalogue) :
    (syncEntry env n s).1.isFailed = shelf.obstructs env n := by
  by_cases hnamed : n.sourceOrderId = ""
  · have hfails : (syncEntry env n s).1 = .failed := by
      unfold syncEntry
      rw [if_pos hnamed]
    rw [hfails, Shelf.obstructs, Shelf.reached, hnamed]
    rfl
  · rw [isFailed_of_named hnamed, (storeEntry_predicted hnamed hid hcustomers h).stored,
      Bool.not_not]

/-- A savepoint that is rolled back leaves the keys of what was made. -/
theorem Stocked.rollback {making : Making} {m : SyncSession}
    (hrows : ∀ i, s.db.products.row i = shelf.db.products.row i)
    (h : Stocked shelf making m.catalogue) :
    Stocked (shelf.lose making.keys) .none (SyncSession.rollback s m).catalogue := by
  have hnext : ∀ i, i < m.db.products.next →
      i < (SyncSession.rollback s m).db.products.next := by
    intro i hi
    exact Nat.lt_of_lt_of_le hi (Nat.le_max_right _ _)
  refine ⟨?_, ?_, ?_, ?_, ?_⟩
  · intro i r hr
    exact (hrows i).trans hr
  · intro key hkey
    cases hkey
  · intro key hkey _
    by_cases hmade : key ∈ making.keys
    · obtain ⟨id, hid, hthere, hnone⟩ := h.made key hmade
      obtain ⟨r, hr⟩ := Option.isSome_iff_exists.mp hthere
      exact ⟨id, hid, (hrows id).trans hnone, hnext id (Table.lt_next hr)⟩
    · obtain ⟨id, hid, hnone, hlt⟩ := h.lost key ((List.mem_append.mp hkey).resolve_left hmade)
        hmade
      refine ⟨id, hid, ?_, hnext id hlt⟩
      change s.db.products.row id = none
      by_contra hold
      obtain ⟨r, hr⟩ := Option.ne_none_iff_exists'.mp hold
      cases hnone.symm.trans (h.kept id r ((hrows id).symm.trans hr))
  · intro key hlost _
    change key ∉ making.keys ++ shelf.lost at hlost
    rw [List.mem_append, not_or] at hlost
    exact h.cached key hlost.2 hlost.1
  · intro sku
    have hsame : (SyncSession.rollback s m).db.products.find sku = shelf.db.products.find sku :=
      Table.find_congr (t := (SyncSession.rollback s m).db.products) hrows sku
    change (SyncSession.rollback s m).db.products.find sku = none ↔ _
    rw [hsame]
    exact (and_iff_left List.not_mem_nil).symm

/-- An entry that fails leaves the shelf without the keys of what was made for it. -/
theorem syncEntry_loses (hid : env.backend.takesStr (.varchar 120) n.sourceOrderId = true)
    (hcustomers : ∀ i, s.db.customers.row i = shelf.db.customers.row i)
    (hrows : ∀ i, s.db.products.row i = shelf.db.products.row i)
    (h : Stocked shelf .none s.catalogue) (hfails : (syncEntry env n s).1.isFailed = true) :
    Stocked (shelf.lose (shelf.making env n).keys) .none (syncEntry env n s).2.catalogue := by
  rcases syncEntry_cases env n s with ⟨hnamed, he⟩ | ⟨_, action, id, t, _, he⟩ |
    ⟨hnamed, exc, m, hstore, he⟩
  · have hnone : shelf.making env n = .none := by
      simp [Shelf.making, Shelf.reached, hnamed]
    rw [he, hnone]
    exact h
  · rw [he] at hfails
    cases hfails
  · have hpredicted := storeEntry_predicted hnamed hid hcustomers h
    rw [hstore] at hpredicted
    rw [he]
    exact hpredicted.catalogue.rollback hrows

end Entry

end SyncObstacles
