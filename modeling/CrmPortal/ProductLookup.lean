import CrmPortal.Library.LastWins
import CrmPortal.OrderSyncSpec

/-!
# Looking a product up by its identifiers

`_product_lookup` files every product under its SKU, its name and its id, all in one
dictionary. The order of the rows decides between two products that share a text.
-/

namespace ProductLookup

open PyValue IdentityTable Transaction CrmDatabase OrderNormalization OrderSync OrderSyncSpec
  LastWins

/-- The texts under which a row is filed. -/
def texts (py : Builtins) (row : Nat × Product) : List String :=
  [py.lower row.2.sku, py.lower row.2.name, toString row.1]

theorem mem_texts {py : Builtins} {row : Nat × Product} {text : String} :
    text ∈ texts py row ↔
      text = py.lower row.2.sku ∨ text = py.lower row.2.name ∨ text = toString row.1 := by
  simp [texts]

theorem productLookup_eq (py : Builtins) (rows : List (Nat × Product)) (text : String) :
    productLookup py rows text = (build (texts py) rows text).map Prod.fst := by
  have hput : ∀ (cache : String → Option Nat) (dict : String → Option (Nat × Product))
      (key : String) (row : Nat × Product), (∀ k, cache k = (dict k).map Prod.fst) →
      ∀ k, cachePut cache key row.1 k = (put dict key row k).map Prod.fst := by
    intro cache dict key row hsame k
    unfold cachePut put
    split
    · rfl
    · exact hsame k
  have hfold : ∀ (cache : String → Option Nat) (dict : String → Option (Nat × Product)),
      (∀ k, cache k = (dict k).map Prod.fst) →
      ∀ k, rows.foldl (fun cache product =>
        cachePut (cachePut (cachePut cache (py.lower product.2.sku) product.1)
          (py.lower product.2.name) product.1) (toString product.1) product.1) cache k =
        (rows.foldl (file (texts py)) dict k).map Prod.fst := by
    induction rows with
    | nil => exact fun _ _ hsame => hsame
    | cons row rest ih =>
      intro cache dict hsame
      exact ih _ _ (hput _ _ _ row (hput _ _ _ row (hput _ _ _ row hsame)))
  exact hfold (fun _ => none) (fun _ => none) (fun _ => rfl) text

theorem decimal_injective {m n : Nat} (h : toString m = toString n) : m = n := by
  have hdigits : Nat.toDigits 10 m = Nat.toDigits 10 n :=
    String.ofList_injective h
  rw [← Nat.ofDigitChars_ten_toDigits (n := m), hdigits, Nat.ofDigitChars_ten_toDigits]

/-- Only a decimal number is one in lower case. -/
def DecimalCase (py : Builtins) : Prop :=
  ∀ (text : String) (n : Nat), py.lower text = toString n ↔ text = toString n

theorem toLower_of_isDigit {c : Char} (h : c.toLower.isDigit = true) : c.toLower = c := by
  unfold Char.toLower at h ⊢
  split
  · next hupper =>
    exfalso
    simp only [dif_pos hupper] at h
    simp [Char.isDigit, UInt32.le_iff_toNat_le] at h hupper
    omega
  · rfl

theorem toLower_digit {c : Char} (h : c.isDigit = true) : c.toLower = c := by
  unfold Char.toLower
  split
  · next hupper =>
    exfalso
    simp [Char.isDigit, UInt32.le_iff_toNat_le] at h hupper
    omega
  · rfl

theorem ascii_decimalCase (md5 : String → String) : DecimalCase (asciiBuiltins md5) := by
  intro text n
  have hdecimal : (toString n).toList = Nat.toDigits 10 n := String.toList_ofList
  have hall : ∀ c ∈ (toString n).toList, c.isDigit = true := by
    intro c hc
    rw [hdecimal] at hc
    exact Nat.isDigit_of_mem_toDigits (by decide) (by decide) hc
  constructor
  · intro h
    have hmap : text.toList.map Char.toLower = (toString n).toList := by
      rw [← h]
      exact String.toList_ofList.symm
    have hsame : text.toList.map Char.toLower = text.toList := by
      exact (List.map_congr_left fun c hc => toLower_of_isDigit
        (hall _ (hmap ▸ List.mem_map_of_mem hc))).trans (List.map_id _)
    exact String.toList_injective (hsame.symm.trans hmap)
  · rintro rfl
    refine String.toList_injective ?_
    change (String.ofList ((toString n).toList.map Char.toLower)).toList = _
    rw [String.toList_ofList]
    exact (List.map_congr_left fun c hc => toLower_digit (hall c hc)).trans (List.map_id _)

/-- `str(product_ref or product_name or "")`, before it is lower-cased. -/
def refText (py : Builtins) (item : NormalizedItem) : String :=
  Json.toStr py ((item.productRef.or item.productName).or (.str ""))

theorem itemRef_eq (py : Builtins) (item : NormalizedItem) :
    itemRef py item = py.lower (refText py item) := rfl

def itemOf (text : String) : NormalizedItem := ⟨.str text, .null, 1, .zero⟩

theorem refText_itemOf (py : Builtins) (text : String) : refText py (itemOf text) = text := by
  unfold refText itemOf
  by_cases htext : text = ""
  · subst htext
    rfl
  · have htruthy : (Json.str text).truthy = true := by simpa [Json.truthy] using htext
    rw [Json.or_of_truthy htruthy, Json.or_of_truthy htruthy]
    rfl

/-- The item resolves to the product `i` when the cache has just been built. -/
def Resolves (env : SyncEnv) {products : ProductTable} (listing : Table.Listing products)
    (item : NormalizedItem) (i : Nat) : Prop :=
  ∃ d, resolveProduct env item ⟨products, productLookup env.py listing.rows⟩ = (.ok i, d)

/-- The text is the id of a product. -/
def SpellsId (products : ProductTable) (text : String) : Prop :=
  ∃ k, (products.row k).isSome ∧ text = toString k

def SkusDistinct (py : Builtins) (products : ProductTable) : Prop :=
  ∀ i j p q, products.row i = some p → products.row j = some q →
    py.lower p.sku = py.lower q.sku → i = j

/-- What a lookup by identifier promises. -/
structure Unambiguous (env : SyncEnv) {products : ProductTable}
    (listing : Table.Listing products) : Prop where
  id : ∀ i p item, products.row i = some p → refText env.py item = toString i →
    Resolves env listing item i
  sku : ∀ i p item, products.row i = some p →
    env.py.lower (refText env.py item) = env.py.lower p.sku →
    ¬ SpellsId products (refText env.py item) → Resolves env listing item i
  name : ∀ i j p item, Resolves env listing item i → products.row j = some p →
    (refText env.py item = toString j ∨
      (env.py.lower (refText env.py item) = env.py.lower p.sku ∧
        ¬ SpellsId products (refText env.py item))) → i = j

/-- What a product listed later leaves to one listed before it. -/
structure LeavesTexts (py : Builtins) (products : ProductTable)
    (earlier later : Nat × Product) : Prop where
  idBySku : py.lower later.2.sku ≠ toString earlier.1
  idByName : py.lower later.2.name ≠ toString earlier.1
  skuByName : py.lower later.2.name = py.lower earlier.2.sku →
    SpellsId products (py.lower earlier.2.sku)

theorem ids_apart {products : ProductTable} (listing : Table.Listing products)
    {before after : List (Nat × Product)} {i j : Nat} {p q : Product}
    (split : listing.rows = before ++ (i, p) :: after) (hlater : (j, q) ∈ after) : i ≠ j := by
  rintro rfl
  have honce := listing.once
  rw [split, List.map_append, List.map_cons] at honce
  have hcons := (List.nodup_append.mp honce).2.1
  exact (List.nodup_cons.mp hcons).1 (List.mem_map.mpr ⟨(i, q), hlater, rfl⟩)

section Lookup
variable {env : SyncEnv} {products : ProductTable} {listing : Table.Listing products}

/-- A product is found under one of its texts exactly when none of those listed after it
is filed under that text. -/
theorem productLookup_keeps_iff {before after : List (Nat × Product)} {i : Nat} {p : Product}
    (split : listing.rows = before ++ (i, p) :: after) {text : String}
    (htext : text ∈ texts env.py (i, p)) :
    productLookup env.py listing.rows text = some i ↔ ∀ s ∈ after, text ∉ texts env.py s := by
  rw [← build_keeps_iff (listing.once.of_map _) split htext, productLookup_eq]
  constructor
  · intro h
    obtain ⟨⟨j, q⟩, hbuild, hj⟩ := Option.map_eq_some_iff.mp h
    obtain rfl : j = i := hj
    have hq := (listing.complete j q).mp (build_mem hbuild).1
    have hp := (listing.complete j p).mp (by rw [split]; simp)
    obtain rfl : q = p := Option.some.inj (hq.symm.trans hp)
    exact hbuild
  · intro h
    rw [h]
    rfl

theorem resolves_of_cached {item : NormalizedItem} {i : Nat}
    (h : productLookup env.py listing.rows (itemRef env.py item) = some i) :
    Resolves env listing item i :=
  ⟨_, resolveProduct_ok_iff.mpr (Or.inl ⟨h, rfl⟩)⟩

/-- A text of a stored product is in the cache, so resolving creates nothing. -/
theorem cached_of_resolves {item : NormalizedItem} {i j : Nat} {p : Product}
    (h : Resolves env listing item i) (hrow : products.row j = some p)
    (htext : itemRef env.py item ∈ texts env.py (j, p)) :
    productLookup env.py listing.rows (itemRef env.py item) = some i := by
  have hsome := build_isSome ((listing.complete j p).mpr hrow) htext
  obtain ⟨d, hd⟩ := h
  rcases resolveProduct_ok_iff.mp hd with ⟨hhit, -⟩ | ⟨hmiss, -⟩
  · exact hhit
  · change productLookup env.py listing.rows (itemRef env.py item) = none at hmiss
    rw [productLookup_eq, Option.map_eq_none_iff] at hmiss
    rw [hmiss] at hsome
    cases hsome

theorem resolves_unique {item : NormalizedItem} {i j : Nat} (hi : Resolves env listing item i)
    (hj : Resolves env listing item j) : i = j := by
  obtain ⟨_, hi⟩ := hi
  obtain ⟨_, hj⟩ := hj
  exact Except.ok.inj (Prod.mk.inj (hi.symm.trans hj)).1

theorem leaves_of_unambiguous (decimal : DecimalCase env.py) (h : Unambiguous env listing)
    {before after : List (Nat × Product)} {i j : Nat} {p q : Product}
    (split : listing.rows = before ++ (i, p) :: after) (hlater : (j, q) ∈ after) :
    LeavesTexts env.py products (i, p) (j, q) := by
  have hp : products.row i = some p := (listing.complete i p).mp (by rw [split]; simp)
  have hid : toString i ∉ texts env.py (j, q) := by
    have hlower : env.py.lower (toString i) = toString i := (decimal _ _).mpr rfl
    have htext : toString i ∈ texts env.py (i, p) := mem_texts.mpr (by simp)
    have hres := h.id i p (itemOf (toString i)) hp (refText_itemOf _ _)
    have href : itemRef env.py (itemOf (toString i)) = toString i := by
      rw [itemRef_eq, refText_itemOf, hlower]
    have hcached := cached_of_resolves hres hp (by rw [href]; exact htext)
    rw [href] at hcached
    exact (productLookup_keeps_iff split htext).mp hcached _ hlater
  rw [mem_texts] at hid
  refine ⟨fun hsku => hid (Or.inl hsku.symm), fun hname => hid (Or.inr (Or.inl hname.symm)), ?_⟩
  intro hname
  by_contra hspells
  have htext : env.py.lower p.sku ∈ texts env.py (i, p) := mem_texts.mpr (Or.inl rfl)
  have href : itemRef env.py (itemOf p.sku) = env.py.lower p.sku := by
    rw [itemRef_eq, refText_itemOf]
  have hfree : ¬ SpellsId products (refText env.py (itemOf p.sku)) := by
    rintro ⟨k, hk, htoString⟩
    rw [refText_itemOf] at htoString
    exact hspells ⟨k, hk, (decimal _ _).mpr htoString⟩
  have hres := h.sku i p (itemOf p.sku) hp (by rw [refText_itemOf]) hfree
  have hcached := cached_of_resolves hres hp (by rw [href]; exact htext)
  rw [href] at hcached
  exact (productLookup_keeps_iff split htext).mp hcached _ hlater
    (mem_texts.mpr (Or.inr (Or.inl hname.symm)))

/-- The rows listed later leave each row its texts. -/
def Leaving (env : SyncEnv) {products : ProductTable} (listing : Table.Listing products) : Prop :=
  ∀ before x after, listing.rows = before ++ x :: after →
    ∀ y ∈ after, LeavesTexts env.py products x y

theorem resolves_by_id (decimal : DecimalCase env.py) (h : Leaving env listing) {i : Nat}
    {p : Product} {item : NormalizedItem} (hp : products.row i = some p)
    (htext : refText env.py item = toString i) : Resolves env listing item i := by
  have href : itemRef env.py item = toString i := by
    rw [itemRef_eq, htext]
    exact (decimal _ _).mpr rfl
  obtain ⟨before, after, split⟩ := List.append_of_mem ((listing.complete i p).mpr hp)
  refine resolves_of_cached ?_
  rw [href, productLookup_keeps_iff split (mem_texts.mpr (by simp))]
  rintro ⟨j, q⟩ hlater hmem
  obtain ⟨hsku, hname, -⟩ := h before (i, p) after split (j, q) hlater
  rcases mem_texts.mp hmem with htaken | htaken | htaken
  · exact hsku htaken.symm
  · exact hname htaken.symm
  · exact ids_apart listing split hlater (decimal_injective htaken)

theorem resolves_by_sku (decimal : DecimalCase env.py) (distinct : SkusDistinct env.py products)
    (h : Leaving env listing) {i : Nat} {p : Product} {item : NormalizedItem}
    (hp : products.row i = some p) (htext : env.py.lower (refText env.py item) = env.py.lower p.sku)
    (hfree : ¬ SpellsId products (refText env.py item)) : Resolves env listing item i := by
  have href : itemRef env.py item = env.py.lower p.sku := by
    rw [itemRef_eq, htext]
  have hspells : ¬ SpellsId products (env.py.lower p.sku) := by
    rintro ⟨k, hk, hdecimal⟩
    exact hfree ⟨k, hk, (decimal _ _).mp (htext.trans hdecimal)⟩
  obtain ⟨before, after, split⟩ := List.append_of_mem ((listing.complete i p).mpr hp)
  refine resolves_of_cached ?_
  rw [href, productLookup_keeps_iff split (mem_texts.mpr (by simp))]
  rintro ⟨j, q⟩ hlater hmem
  have hq : products.row j = some q := (listing.complete j q).mp (by rw [split]; simp [hlater])
  rcases mem_texts.mp hmem with htaken | htaken | htaken
  · exact ids_apart listing split hlater (distinct i j p q hp hq htaken)
  · exact hspells ((h before (i, p) after split (j, q) hlater).skuByName htaken.symm)
  · exact hspells ⟨j, by rw [hq]; rfl, htaken⟩

end Lookup

/-- In the order in which the products are listed, none takes the id or the SKU of one
before it. -/
theorem unambiguous_iff (env : SyncEnv) (products : ProductTable) (decimal : DecimalCase env.py)
    (distinct : SkusDistinct env.py products) (listing : Table.Listing products) :
    Unambiguous env listing ↔ listing.rows.Pairwise (LeavesTexts env.py products) := by
  rw [pairwise_iff_split]
  constructor
  · rintro h before ⟨i, p⟩ after split ⟨j, q⟩ hlater
    exact leaves_of_unambiguous decimal h split hlater
  · intro h
    refine ⟨fun i p item hp htext => resolves_by_id decimal h hp htext,
      fun i p item hp htext hfree => resolves_by_sku decimal distinct h hp htext hfree, ?_⟩
    intro i j p item hres hp href
    rcases href with hid | ⟨hsku, hfree⟩
    · exact resolves_unique hres (resolves_by_id decimal h hp hid)
    · exact resolves_unique hres (resolves_by_sku decimal distinct h hp hsku hfree)

def sampleProduct (sku name : String) : Product :=
  ⟨none, name, sku, none, .zero, none, none, none, some 1⟩

def twoProducts (first second : Product) : ProductTable :=
  let table := ((Table.insert Table.empty first).map Prod.snd).getD Table.empty
  ((table.insert second).map Prod.snd).getD table

/-- The name of the mug, in lower case, is the SKU of the camera. -/
def camMug : ProductTable := twoProducts (sampleProduct "cam" "Camera") (sampleProduct "mug" "CAM")

def plainMug : ProductTable :=
  twoProducts (sampleProduct "cam" "Camera") (sampleProduct "mug" "Mug")

theorem skusDistinct_of_rows {py : Builtins} {products : ProductTable}
    (h : (products.listing.rows.map fun row => py.lower row.2.sku).Nodup) :
    SkusDistinct py products := by
  intro i j p q hp hq hsku
  have hrow := List.inj_on_of_nodup_map h ((products.listing.complete i p).mpr hp)
    ((products.listing.complete j q).mpr hq) hsku
  exact (Prod.mk.inj hrow).1

theorem spellsId_iff (products : ProductTable) (text : String) :
    SpellsId products text ↔ text ∈ products.listing.rows.map fun row => toString row.1 := by
  unfold SpellsId
  constructor
  · rintro ⟨k, hk, rfl⟩
    obtain ⟨p, hp⟩ := Option.isSome_iff_exists.mp hk
    exact List.mem_map.mpr ⟨(k, p), (products.listing.complete k p).mpr hp, rfl⟩
  · intro h
    obtain ⟨⟨k, p⟩, hmem, rfl⟩ := List.mem_map.mp h
    exact ⟨k, Option.isSome_of_eq_some ((products.listing.complete k p).mp hmem), rfl⟩

/-- The SKU of the first product names the second one. -/
theorem name_hides_sku : ¬ ∀ (env : SyncEnv) (products : ProductTable), DecimalCase env.py →
    SkusDistinct env.py products → ∀ listing : Table.Listing products,
    Unambiguous env listing := by
  intro h
  have hrow : camMug.row 1 = some (sampleProduct "cam" "Camera") := by decide
  have hdistinct : SkusDistinct sampleEnv.py camMug := skusDistinct_of_rows (by decide)
  have hfree : ¬ SpellsId camMug "cam" := by
    rw [spellsId_iff]
    decide
  have hres := (h sampleEnv camMug (ascii_decimalCase _) hdistinct camMug.listing).sku 1 _
    (itemOf "cam") hrow (by decide) hfree
  have hcached : productLookup sampleEnv.py camMug.listing.rows
      (itemRef sampleEnv.py (itemOf "cam")) = some 2 := by decide
  exact absurd (resolves_unique hres (resolves_of_cached hcached)) (by decide)

theorem unambiguous_plainMug : Unambiguous sampleEnv plainMug.listing := by
  have hdistinct : SkusDistinct sampleEnv.py plainMug := skusDistinct_of_rows (by decide)
  refine (unambiguous_iff sampleEnv plainMug (ascii_decimalCase _) hdistinct _).mpr ?_
  have hrows : plainMug.listing.rows =
      [(1, sampleProduct "cam" "Camera"), (2, sampleProduct "mug" "Mug")] := by decide
  rw [hrows, List.pairwise_pair]
  exact ⟨by decide, by decide, fun hname => absurd hname (by decide)⟩

end ProductLookup
