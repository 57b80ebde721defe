import CrmPortal.Library.Schedule
import CrmPortal.ProductLookup

/-!
# References that come again

The cache is read under the reference of an item. A product that is made for it is filed
under its SKU and its name, so that the reference finds it again only if it is one of these.
-/

namespace ProductReferences

open PyValue IdentityTable Transaction CrmDatabase OrderNormalization OrderSync OrderSyncSpec
open ProductLookup LastWins Schedule

/-- What a resolution that misses the cache ends with. -/
inductive Miss (env : SyncEnv) (item : NormalizedItem) (c : Catalogue) :
    Except PyExc Nat × Catalogue → Prop where
  | refused (e : PyExc) (other : e ≠ .integrityError) : Miss env item c (.error e, c)
  | taken (text name : String) (htext : hashedText env.py item = .ok text)
      (insert : c.products.insert (newProduct env item name (syncSku env.py text)) = none) :
      Miss env item c (.error .integrityError, c)
  | unnamed (text name : String) (id : Nat) (products : ProductTable)
      (htext : hashedText env.py item = .ok text)
      (insert : c.products.insert (newProduct env item name (syncSku env.py text)) =
        some (id, products)) :
      Miss env item c (.error .attributeError,
        ⟨products, cachePut c.cache (env.py.lower (syncSku env.py text)) id⟩)
  | created (text name : String) (id : Nat) (products : ProductTable)
      (htext : hashedText env.py item = .ok text)
      (insert : c.products.insert (newProduct env item name (syncSku env.py text)) =
        some (id, products)) :
      Miss env item c (.ok id, grown env.py c products (syncSku env.py text) name id)

theorem resolveProduct_miss (env : SyncEnv) (item : NormalizedItem) {c : Catalogue}
    (h : c.cache (itemRef env.py item) = none) :
    Miss env item c (resolveProduct env item c) := by
  unfold resolveProduct
  rw [Tx.bind_of_ok _ (Tx.read_apply c), h]
  dsimp only
  rcases htext : hashedText env.py item with e | text
  · have hattribute : e = .attributeError := by
      unfold hashedText at htext
      split at htext
      · cases htext
      · unfold Json.asStr at htext
        split at htext
        · cases htext
        · exact (Except.error.inj htext).symm
    subst hattribute
    exact Miss.refused _ (by decide)
  rw [Tx.bind_of_ok _ (Tx.ofExcept_ok_iff.mpr ⟨rfl, rfl⟩)]
  rcases hname : env.backend.bindText (.varchar 200) (baseName item) with _ | name
  · exact Miss.refused _ (by decide)
  rw [Tx.bind_of_ok _ (Tx.orRaise_ok_iff.mpr ⟨rfl, rfl⟩)]
  rcases hprice : env.backend.takesFloat item.unitPrice with _ | _
  · exact Miss.refused _ (by decide)
  rw [Tx.bind_of_ok (a := ⟨⟩) _ (Tx.check_ok_iff.mpr ⟨rfl, rfl⟩)]
  rcases hinsert : c.products.insert (newProduct env item name (syncSku env.py text)) with
    _ | ⟨id, products⟩
  · exact Miss.taken text name htext hinsert
  rw [Tx.bind_of_ok _ (Tx.orRaise_ok_iff.mpr ⟨rfl, rfl⟩)]
  dsimp only
  rw [Tx.bind_of_ok _ (Tx.write_apply _ _), Tx.bind_of_ok _ (Tx.write_apply _ _)]
  rcases hspelled : (baseName item).asStr with e | spelled
  · have hattribute : e = .attributeError := by
      unfold Json.asStr at hspelled
      split at hspelled
      · cases hspelled
      · exact (Except.error.inj hspelled).symm
    subst hattribute
    exact Miss.unnamed text name id products htext hinsert
  · rw [Json.asStr_ok_iff.mp hspelled] at hname
    obtain rfl : name = spelled := env.backend.bindText_str _ _ _ hname
    exact Miss.created text name id products htext hinsert

/-- The catalogue, and what has happened to it: `filed` tells in what order which texts went into
the cache, `known` which product a reference was given or had made for it. -/
structure State where
  products : ProductTable
  cache : String → Option Nat
  filed : List (Nat × List String)
  known : String → Option Nat
  resolved : List (String × Nat)
  created : List String
  refused : Bool

/-- A run of the sync starts by building the cache, in any order of the products. -/
inductive Action where
  | productLookup (listing : List (Nat × Product))
  | resolveProduct (item : NormalizedItem)

def filedAs (py : Builtins) (listing : List (Nat × Product)) : List (Nat × List String) :=
  listing.map fun row => (row.1, texts py row)

/-- What was filed for a product that was inserted; the name comes last, and only if it is text. -/
def newlyFiled (py : Builtins) (named : Bool) (products : ProductTable) (id : Nat) :
    List (Nat × List String) :=
  match products.row id with
  | some p => [(id, if named then [py.lower p.sku, py.lower p.name] else [py.lower p.sku])]
  | none => []

def State.resolve (env : SyncEnv) (item : NormalizedItem) (s : State) : State :=
  let ref := itemRef env.py item
  let next := s.products.next
  match resolveProduct env item ⟨s.products, s.cache⟩ with
  | (.ok id, d) => { s with
      products := d.products
      cache := d.cache
      filed := s.filed ++ newlyFiled env.py true d.products next
      known := Function.update s.known ref (some id)
      resolved := s.resolved ++ [(ref, id)]
      created := if (d.products.row next).isSome then ref :: s.created else s.created }
  | (.error e, d) => { s with
      products := d.products
      cache := d.cache
      filed := s.filed ++ newlyFiled env.py false d.products next
      known := if (d.products.row next).isSome then Function.update s.known ref (some next)
        else s.known
      created := if (d.products.row next).isSome then ref :: s.created else s.created
      refused := s.refused || decide (e = .integrityError) }

def step (env : SyncEnv) (s : State) : Action → Option State
  | .productLookup listing =>
    if listing.Perm s.products.listing.rows then
      some { s with
        cache := OrderSync.productLookup env.py listing
        filed := filedAs env.py listing }
    else none
  | .resolveProduct item => some (s.resolve env item)

/-- A run of the sync over the catalogue, before its first item. -/
def begin (env : SyncEnv) {products : ProductTable} (listing : Table.Listing products) : State where
  products := products
  cache := OrderSync.productLookup env.py listing.rows
  filed := filedAs env.py listing.rows
  known := fun _ => none
  resolved := []
  created := []
  refused := false

/-- A reference resolves to one product, one is made for it at most, and the SKU is never taken. -/
structure Stable (s : State) : Prop where
  same : ∀ ref i j, (ref, i) ∈ s.resolved → (ref, j) ∈ s.resolved → i = j
  once : s.created.Nodup
  free : s.refused = false

/-- The product is the last one that was filed under the text. -/
def LastUnder (filed : List (Nat × List String)) (text : String) (id : Nat) : Prop :=
  ∃ before texts after, filed = before ++ (id, texts) :: after ∧ text ∈ texts ∧
    ∀ later ∈ after, text ∉ later.2

/-- The reference of an item leads back to the product it is known by; one that is new, and that
nothing is filed under, has no product from before the run under the SKU made from it. -/
def LeadsBack (env : SyncEnv) (start : ProductTable) (s : State) : Action → Prop
  | .productLookup _ => True
  | .resolveProduct item =>
    (∀ id, s.known (itemRef env.py item) = some id →
      LastUnder s.filed (itemRef env.py item) id) ∧
    (s.known (itemRef env.py item) = none →
      (∀ row ∈ s.filed, itemRef env.py item ∉ row.2) →
      ∀ text, hashedText env.py item = .ok text → start.find (syncSku env.py text) = none)

/-- References with the same eight digits are the same. -/
def CollisionFree (py : Builtins) (items : List NormalizedItem) : Prop :=
  ∀ a ∈ items, ∀ b ∈ items, ∀ s t, hashedText py a = .ok s → hashedText py b = .ok t →
    py.md5 s = py.md5 t → itemRef py a = itemRef py b

/-- What every step keeps. -/
structure Inv (env : SyncEnv) (start : ProductTable) (items : List NormalizedItem) (s : State) :
    Prop where
  cache : ∀ text, s.cache text = (build Prod.snd s.filed text).map Prod.fst
  origin : ∀ sku i, s.products.find sku = some i → (start.find sku).isSome ∨
    ∃ item ∈ items, ∃ text, hashedText env.py item = .ok text ∧ sku = syncSku env.py text ∧
      (s.known (itemRef env.py item)).isSome
  resolved : ∀ ref i, (ref, i) ∈ s.resolved → s.known ref = some i
  created : ∀ ref ∈ s.created, (s.known ref).isSome
  once : s.created.Nodup
  free : s.refused = false

theorem Inv.stable {env : SyncEnv} {start : ProductTable} {items : List NormalizedItem} {s : State}
    (h : Inv env start items s) : Stable s where
  same := fun ref i j hi hj =>
    Option.some.inj ((h.resolved ref i hi).symm.trans (h.resolved ref j hj))
  once := h.once
  free := h.free

section Steps
variable {env : SyncEnv} {start : ProductTable} {items : List NormalizedItem} {s : State}

theorem lastUnder_iff {filed : List (Nat × List String)} {text : String} {id : Nat} :
    LastUnder filed text id ↔ ∃ texts, build Prod.snd filed text = some (id, texts) := by
  unfold LastUnder
  constructor
  · rintro ⟨before, texts, after, hsplit, hmem, hafter⟩
    exact ⟨texts, build_eq_some_iff.mpr ⟨before, after, hsplit, hmem, hafter⟩⟩
  · rintro ⟨texts, hbuild⟩
    obtain ⟨before, after, hsplit, hmem, hafter⟩ := build_eq_some_iff.mp hbuild
    exact ⟨before, texts, after, hsplit, hmem, hafter⟩

theorem Inv.cached (h : Inv env start items s) {text : String} {id : Nat}
    (last : LastUnder s.filed text id) : s.cache text = some id := by
  obtain ⟨texts, hbuild⟩ := lastUnder_iff.mp last
  rw [h.cache, hbuild]
  rfl

theorem Inv.filed_of_none (h : Inv env start items s) {text : String} (miss : s.cache text = none) :
    ∀ row ∈ s.filed, text ∉ row.2 := by
  intro row hrow htext
  have hsome := build_isSome hrow htext
  rw [h.cache, Option.map_eq_none_iff] at miss
  rw [miss] at hsome
  cases hsome

theorem syncSku_injective {py : Builtins} {s t : String} (h : syncSku py s = syncSku py t) :
    py.md5 s = py.md5 t := by
  have hlist := congrArg String.toList h
  simp only [syncSku, String.toList_append, List.append_cancel_left_eq] at hlist
  exact String.toList_injective hlist

/-- The cache after one more product has been filed. -/
theorem build_filed (filed : List (Nat × List String)) (id : Nat) (names : List String)
    (text : String) : (build Prod.snd (filed ++ [(id, names)]) text).map Prod.fst =
      if text ∈ names then some id else (build Prod.snd filed text).map Prod.fst := by
  unfold build
  rw [List.foldl_append, List.foldl_cons, List.foldl_nil, file_apply]
  dsimp only
  split <;> rfl

theorem cache_of_filed (py : Builtins) (listing : List (Nat × Product)) (text : String) :
    OrderSync.productLookup py listing text =
      (build Prod.snd (filedAs py listing) text).map Prod.fst := by
  unfold filedAs
  rw [productLookup_eq, build_map, Option.map_map]
  rfl

theorem inv_begin (env : SyncEnv) {products : ProductTable} (listing : Table.Listing products)
    (items : List NormalizedItem) : Inv env products items (begin env listing) where
  cache := cache_of_filed env.py listing.rows
  origin := fun _ _ h => Or.inl (Option.isSome_of_eq_some h)
  resolved := by
    intro _ _ h
    cases h
  created := by
    intro _ h
    cases h
  once := List.nodup_nil
  free := rfl

/-- A product that is inserted for a reference that was not known. -/
theorem Inv.insert (h : Inv env start items s) {item : NormalizedItem} (hitem : item ∈ items)
    {text : String} (htext : hashedText env.py item = .ok text)
    (new : s.known (itemRef env.py item) = none) {row : Product}
    (hsku : row.sku = syncSku env.py text)
    {id : Nat} {products : ProductTable} (hinsert : s.products.insert row = some (id, products))
    {cache : String → Option Nat} {names : List String}
    (hcache : ∀ text, cache text = if text ∈ names then some id else s.cache text)
    {resolved : List (String × Nat)} (hresolved : ∀ ref i, (ref, i) ∈ resolved →
      (ref, i) ∈ s.resolved ∨ (ref = itemRef env.py item ∧ i = id)) :
    Inv env start items { s with
      products := products
      cache := cache
      filed := s.filed ++ [(id, names)]
      known := Function.update s.known (itemRef env.py item) (some id)
      resolved := resolved
      created := itemRef env.py item :: s.created } := by
  have hknown : ∀ ref, (s.known ref).isSome →
      (Function.update s.known (itemRef env.py item) (some id) ref).isSome := by
    intro ref hsome
    rw [Function.update_apply]
    split
    · rfl
    · exact hsome
  have hother : ∀ ref, (s.known ref).isSome → ref ≠ itemRef env.py item := by
    rintro _ hsome rfl
    rw [new] at hsome
    cases hsome
  refine ⟨fun text => ?_, fun sku i hfind => ?_, fun ref i hmem => ?_, fun ref hmem => ?_, ?_,
    h.free⟩
  · rw [build_filed, ← h.cache]
    exact hcache text
  · obtain ⟨_, _, _, hrow⟩ := Table.insert_eq_some hinsert
    obtain ⟨p, hp, hkey⟩ := (Table.find_eq_some_iff _ _ _).mp hfind
    rw [hrow i] at hp
    split at hp
    · obtain rfl := Option.some.inj hp
      have hself : sku = syncSku env.py text := (Option.some.inj hkey).symm.trans hsku
      refine Or.inr ⟨item, hitem, text, htext, hself, ?_⟩
      simp
    · rcases h.origin sku i ((Table.find_eq_some_iff _ _ _).mpr ⟨p, hp, hkey⟩) with
        hstart | ⟨other, hother, t, ht, hsku, hsome⟩
      · exact Or.inl hstart
      · exact Or.inr ⟨other, hother, t, ht, hsku, hknown _ hsome⟩
  · rcases hresolved ref i hmem with hold | ⟨rfl, rfl⟩
    · have hbefore := h.resolved ref i hold
      dsimp only
      rw [Function.update_of_ne (hother ref (Option.isSome_of_eq_some hbefore)), hbefore]
    · exact Function.update_self _ _ _
  · rcases List.mem_cons.mp hmem with rfl | hold
    · simp
    · exact hknown ref (h.created ref hold)
  · exact List.nodup_cons.mpr ⟨fun hmem => hother _ (h.created _ hmem) rfl, h.once⟩

theorem newlyFiled_insert (py : Builtins) (named : Bool) {products next : ProductTable}
    {row : Product} {id : Nat} (h : products.insert row = some (id, next)) :
    newlyFiled py named next products.next =
      [(id, if named then [py.lower row.sku, py.lower row.name] else [py.lower row.sku])] ∧
      (next.row products.next).isSome = true := by
  obtain ⟨rfl, _, _, hrow⟩ := Table.insert_eq_some h
  have hnew : next.row products.next = some row := by rw [hrow, if_pos rfl]
  unfold newlyFiled
  rw [hnew]
  exact ⟨rfl, rfl⟩

theorem inv_hit (h : Inv env start items s) {item : NormalizedItem} {id : Nat}
    (hit : s.cache (itemRef env.py item) = some id)
    (back : LeadsBack env start s (.resolveProduct item)) :
    Inv env start items (s.resolve env item) := by
  have hres : resolveProduct env item ⟨s.products, s.cache⟩ = (.ok id, ⟨s.products, s.cache⟩) :=
    resolveProduct_ok_iff.mpr (Or.inl ⟨hit, rfl⟩)
  have hfresh : s.products.row s.products.next = none := s.products.fresh _ (Nat.le_refl _)
  have hsame : ∀ i, s.known (itemRef env.py item) = some i → i = id := by
    intro i hknown
    exact Option.some.inj ((h.cached (back.1 i hknown)).symm.trans hit)
  have hkept : ∀ ref i, s.known ref = some i →
      Function.update s.known (itemRef env.py item) (some id) ref = some i := by
    intro ref i hknown
    rw [Function.update_apply]
    split
    · next href =>
      subst href
      rw [hsame i hknown]
    · exact hknown
  have hsome : ∀ ref, (s.known ref).isSome →
      (Function.update s.known (itemRef env.py item) (some id) ref).isSome := by
    intro ref hknown
    obtain ⟨i, hi⟩ := Option.isSome_iff_exists.mp hknown
    exact Option.isSome_of_eq_some (hkept ref i hi)
  unfold State.resolve
  rw [hres]
  dsimp only [newlyFiled]
  rw [hfresh]
  refine ⟨fun text => ?_, fun sku i hfind => ?_, fun ref i hmem => ?_, fun ref hmem => ?_, h.once,
    h.free⟩
  · rw [List.append_nil]
    exact h.cache text
  · rcases h.origin sku i hfind with hstart | ⟨other, hother, t, ht, hsku, hknown⟩
    · exact Or.inl hstart
    · exact Or.inr ⟨other, hother, t, ht, hsku, hsome _ hknown⟩
  · rcases List.mem_append.mp hmem with hold | hnew
    · exact hkept ref i (h.resolved ref i hold)
    · obtain ⟨rfl, rfl⟩ := Prod.mk.inj (List.mem_singleton.mp hnew)
      exact Function.update_self _ _ _
  · exact hsome ref (h.created ref hmem)

theorem inv_miss (h : Inv env start items s) {item : NormalizedItem} (hitem : item ∈ items)
    (collisionFree : CollisionFree env.py items) (miss : s.cache (itemRef env.py item) = none)
    (back : LeadsBack env start s (.resolveProduct item)) :
    Inv env start items (s.resolve env item) := by
  have hfresh : s.products.row s.products.next = none := s.products.fresh _ (Nat.le_refl _)
  have hnew : s.known (itemRef env.py item) = none := by
    by_contra hknown
    obtain ⟨i, hi⟩ := Option.ne_none_iff_exists'.mp hknown
    rw [h.cached (back.1 i hi)] at miss
    cases miss
  have hmiss := resolveProduct_miss env item (c := ⟨s.products, s.cache⟩) miss
  unfold State.resolve
  generalize resolveProduct env item ⟨s.products, s.cache⟩ = result at hmiss
  cases hmiss with
  | refused e other =>
    dsimp only [newlyFiled]
    rw [hfresh]
    refine ⟨fun text => ?_, h.origin, h.resolved, h.created, h.once, ?_⟩
    · rw [List.append_nil]
      exact h.cache text
    · simp [other, h.free]
  | taken text name htext insert =>
    -- The SKU belongs to a product from before the run, or to one of the same reference.
    exfalso
    obtain ⟨sku, hsku, hfound⟩ := (Table.insert_eq_none_iff _ _).mp insert
    obtain rfl : syncSku env.py text = sku := Option.some.inj hsku
    obtain ⟨i, hi⟩ := Option.isSome_iff_exists.mp hfound
    rcases h.origin _ i hi with hstart | ⟨other, hother, t, ht, hsame, hknown⟩
    · rw [back.2 hnew (h.filed_of_none miss) text htext] at hstart
      cases hstart
    · rw [← collisionFree item hitem other hother text t htext ht (syncSku_injective hsame),
        hnew] at hknown
      cases hknown
  | unnamed text name id products htext insert =>
    obtain ⟨hfiled, hrow⟩ := newlyFiled_insert env.py false insert
    obtain ⟨rfl, -, -, -⟩ := Table.insert_eq_some insert
    have hrefused : (s.refused || decide (PyExc.attributeError = PyExc.integrityError)) =
      s.refused := by
      simp
    dsimp only
    rw [hfiled, if_pos hrow, if_pos hrow, hrefused]
    refine h.insert hitem htext hnew rfl insert (fun k => ?_) fun ref i hmem => Or.inl hmem
    simp [cachePut, newProduct]
  | created text name id products htext insert =>
    obtain ⟨hfiled, hrow⟩ := newlyFiled_insert env.py true insert
    obtain ⟨rfl, -, -, -⟩ := Table.insert_eq_some insert
    dsimp only [grown]
    rw [hfiled, if_pos hrow]
    refine h.insert hitem htext hnew rfl insert (fun k => ?_) fun ref i hmem => ?_
    · by_cases hname : k = env.py.lower name
      · simp [cachePut, newProduct, hname]
      · simp [cachePut, newProduct, hname]
    · rcases List.mem_append.mp hmem with hold | hlast
      · exact Or.inl hold
      · exact Or.inr (Prod.mk.inj (List.mem_singleton.mp hlast))

theorem inv_step (collisionFree : CollisionFree env.py items) {a : Action} {t : State}
    (h : Inv env start items s) (back : LeadsBack env start s a)
    (feed : ∀ item, a = .resolveProduct item → item ∈ items) (taken : step env s a = some t) :
    Inv env start items t := by
  cases a with
  | productLookup listing =>
    simp only [step] at taken
    split at taken
    · obtain rfl := Option.some.inj taken
      exact ⟨cache_of_filed env.py listing, h.origin, h.resolved, h.created, h.once, h.free⟩
    · cases taken
  | resolveProduct item =>
    obtain rfl := Option.some.inj taken
    rcases hcached : s.cache (itemRef env.py item) with _ | id
    · exact inv_miss h (feed item rfl) collisionFree hcached back
    · exact inv_hit h hcached back

end Steps

def feedItems (schedule : List Action) : List NormalizedItem :=
  schedule.filterMap fun a => match a with
    | .productLookup _ => none
    | .resolveProduct item => some item

/-- In every run whose references all lead back they are stable, also across later runs. -/
theorem references_stable (env : SyncEnv) {products : ProductTable}
    (listing : Table.Listing products) (schedule : List Action) (s : State)
    (collisionFree : CollisionFree env.py (feedItems schedule))
    (run : exec (step env) (begin env listing) schedule = some s)
    (back : Along (LeadsBack env products) (step env) (begin env listing) schedule) : Stable s := by
  have hfeed : ∀ a ∈ schedule, ∀ item, a = .resolveProduct item → item ∈ feedItems schedule := by
    rintro _ hmem item rfl
    exact List.mem_filterMap.mpr ⟨_, hmem, rfl⟩
  have hinv : Inv env products (feedItems schedule) s :=
    exec_invariant_along
      (fun _ _ _ hinv hcond htaken => inv_step collisionFree hinv hcond.1 hcond.2 htaken)
      run (along_and_mem back hfeed) (inv_begin env listing _)
  exact hinv.stable

def abcItem : NormalizedItem := ⟨.str "abc-1", .str "Camera", 1, .fin 10⟩

def cameraItem : NormalizedItem := ⟨.null, .str "Camera", 1, .fin 10⟩

theorem collisionFree_of_one {py : Builtins} {items : List NormalizedItem} (item : NormalizedItem)
    (h : ∀ a ∈ items, a = item) : CollisionFree py items := by
  intro a ha b hb _ _ _ _ _
  rw [h a ha, h b hb]

/-- The product is filed under its SKU and as "camera", and looked for as "abc-1". -/
theorem repeated_reference_refused : ¬ ∀ (env : SyncEnv) (products : ProductTable)
    (listing : Table.Listing products) (schedule : List Action) (s : State),
    CollisionFree env.py (feedItems schedule) →
    (∀ i p, products.row i = some p → "SYNC-".toList.isPrefixOf p.sku.toList = false) →
    exec (step env) (begin env listing) schedule = some s → Stable s := by
  intro hall
  have hstable := hall sampleEnv Table.empty (Table.listing _)
    [.resolveProduct abcItem, .resolveProduct abcItem] _
    (collisionFree_of_one abcItem (by simp [feedItems])) (by intro i p h; cases h) rfl
  exact absurd hstable.free (by decide +kernel)

theorem leadsBack_of_filed {env : SyncEnv} {start : ProductTable} {s : State}
    {item : NormalizedItem} (id : Nat) (known : s.known (itemRef env.py item) = some id)
    (last : (build Prod.snd s.filed (itemRef env.py item)).map Prod.fst = some id) :
    LeadsBack env start s (.resolveProduct item) := by
  obtain ⟨⟨i, texts⟩, hbuild, rfl⟩ := Option.map_eq_some_iff.mp last
  refine ⟨fun j hj => ?_, fun hnone => ?_⟩
  · obtain rfl := Option.some.inj (known.symm.trans hj)
    exact lastUnder_iff.mpr ⟨texts, hbuild⟩
  · rw [known] at hnone
    cases hnone

def cameraStart : State := begin sampleEnv (Table.listing Table.empty)

def cameraMade : State := cameraStart.resolve sampleEnv cameraItem

def cameraAgain : State := cameraMade.resolve sampleEnv cameraItem

def cameraListed : State :=
  { cameraAgain with
    cache := OrderSync.productLookup sampleEnv.py cameraAgain.products.listing.rows
    filed := filedAs sampleEnv.py cameraAgain.products.listing.rows }

def cameraRun : List Action :=
  [.resolveProduct cameraItem, .resolveProduct cameraItem,
    .productLookup cameraAgain.products.listing.rows, .resolveProduct cameraItem]

/-- Referred to by its name, the camera is found again, also by the next run. -/
theorem camera_stable : Stable (cameraListed.resolve sampleEnv cameraItem) := by
  have hlist : step sampleEnv cameraAgain (.productLookup cameraAgain.products.listing.rows) =
      some cameraListed := by
    simp only [step, List.Perm.refl, if_true]
    rfl
  have hrun : exec (step sampleEnv) cameraStart cameraRun =
      some (cameraListed.resolve sampleEnv cameraItem) :=
    exec_cons_iff.mpr ⟨cameraMade, rfl, exec_cons_iff.mpr ⟨cameraAgain, rfl,
      exec_cons_iff.mpr ⟨cameraListed, hlist, rfl⟩⟩⟩
  have hfirst : LeadsBack sampleEnv Table.empty cameraStart (.resolveProduct cameraItem) := by
    refine ⟨fun id hid => ?_, fun _ _ text _ => rfl⟩
    cases hid
  have hagain : LeadsBack sampleEnv Table.empty cameraMade (.resolveProduct cameraItem) :=
    leadsBack_of_filed 1 (by decide +kernel) (by decide +kernel)
  have hlast : LeadsBack sampleEnv Table.empty cameraListed (.resolveProduct cameraItem) :=
    leadsBack_of_filed 1 (by decide +kernel) (by decide +kernel)
  refine references_stable sampleEnv (Table.listing Table.empty) cameraRun _
    (collisionFree_of_one cameraItem (by simp [feedItems, cameraRun])) hrun ?_
  refine along_cons.mpr ⟨hfirst, fun t ht => ?_⟩
  obtain rfl := Option.some.inj ht
  refine along_cons.mpr ⟨hagain, fun t ht => ?_⟩
  obtain rfl := Option.some.inj ht
  refine along_cons.mpr ⟨trivial, fun t ht => ?_⟩
  obtain rfl := Option.some.inj (hlist.symm.trans ht)
  exact along_cons.mpr ⟨hlast, fun _ _ => trivial⟩

end ProductReferences
