import CrmPortal.OrderSyncSpec

/-!
# The product cache over a run

One cache serves the whole feed and no rollback touches it. What it says is true
as long as every entry is stored. Whatever happens, it only ever learns
identities that the sequence hands out while it learns them, so a run never puts
the identity of an older product under a new text.
-/

namespace ProductCache

open PyValue IdentityTable Transaction CrmDatabase OrderNormalization OrderSync OrderSyncSpec

/-- The texts under which a product is cached. -/
def Names (py : Builtins) (id : Nat) (product : Product) (key : String) : Prop :=
  key = py.lower product.sku ∨ key = py.lower product.name ∨ key = toString id

/-- Every cached product is in the table and carries the text it is cached under. -/
def CacheSound (py : Builtins) (c : Catalogue) : Prop :=
  ∀ key id, c.cache key = some id →
    ∃ product, c.products.row id = some product ∧ Names py id product key

/-- The product of an item carries its reference, or the SKU made from it. -/
def Resolved (env : SyncEnv) (products : ProductTable) (item : NormalizedItem) (id : Nat) :
    Prop :=
  ∃ product, products.row id = some product ∧ (Names env.py id product (itemRef env.py item) ∨
    ∃ text, hashedText env.py item = .ok text ∧ product.sku = syncSku env.py text)

theorem cachePut_some {cache : String → Option Nat} {key k : String} {id i : Nat}
    (h : cachePut cache key id k = some i) : (k = key ∧ i = id) ∨ cache k = some i := by
  unfold cachePut at h
  by_cases hk : k = key
  · rw [if_pos hk] at h
    exact Or.inl ⟨hk, (Option.some.inj h).symm⟩
  · rw [if_neg hk] at h
    exact Or.inr h

theorem productLookup_sound (py : Builtins) {products : ProductTable}
    (listing : Table.Listing products) :
    CacheSound py ⟨products, productLookup py listing.rows⟩ := by
  have scan : ∀ (rows : List (Nat × Product)) (cache : String → Option Nat),
      (∀ entry ∈ rows, products.row entry.1 = some entry.2) →
      CacheSound py ⟨products, cache⟩ →
      CacheSound py ⟨products, rows.foldl (fun cache product =>
        cachePut (cachePut (cachePut cache (py.lower product.2.sku) product.1)
          (py.lower product.2.name) product.1) (toString product.1) product.1) cache⟩ := by
    intro rows
    induction rows with
    | nil => exact fun _ _ h => h
    | cons entry rest ih =>
      intro cache hrows hcache
      rw [List.foldl_cons]
      apply ih _ fun e he => hrows e (List.mem_cons_of_mem _ he)
      intro key id hkey
      have hrow := hrows entry List.mem_cons_self
      rcases cachePut_some hkey with ⟨hk, rfl⟩ | hkey
      · exact ⟨entry.2, hrow, Or.inr (Or.inr hk)⟩
      rcases cachePut_some hkey with ⟨hk, rfl⟩ | hkey
      · exact ⟨entry.2, hrow, Or.inr (Or.inl hk)⟩
      rcases cachePut_some hkey with ⟨hk, rfl⟩ | hkey
      · exact ⟨entry.2, hrow, Or.inl hk⟩
      · exact hcache key id hkey
  apply scan listing.rows (fun _ => none)
  · intro entry hentry
    exact (listing.complete entry.1 entry.2).mp hentry
  · intro key id h
    cases h

theorem resolveProduct_sound {env : SyncEnv} {item : NormalizedItem} {c d : Catalogue} {id : Nat}
    (hc : CacheSound env.py c) (h : resolveProduct env item c = (.ok id, d)) :
    CacheSound env.py d ∧ Resolved env d.products item id := by
  rcases resolveProduct_ok_iff.mp h with
    ⟨hhit, rfl⟩ | ⟨_, text, name, products, htext, _, _, _, hinsert, rfl⟩
  · refine ⟨hc, ?_⟩
    obtain ⟨product, hrow, hnames⟩ := hc _ _ hhit
    exact ⟨product, hrow, Or.inl hnames⟩
  · have hext := Table.insert_extends hinsert
    obtain ⟨_, _, _, hrow⟩ := Table.insert_eq_some hinsert
    have hnew : products.row id = some (newProduct env item name (syncSku env.py text)) := by
      rw [hrow id, if_pos rfl]
    refine ⟨?_, ⟨_, hnew, Or.inr ⟨text, htext, rfl⟩⟩⟩
    intro key i hkey
    rcases cachePut_some hkey with ⟨hk, rfl⟩ | hkey
    · exact ⟨_, hnew, Or.inr (Or.inl hk)⟩
    rcases cachePut_some hkey with ⟨hk, rfl⟩ | hkey
    · exact ⟨_, hnew, Or.inl hk⟩
    · obtain ⟨product, hproduct, hnames⟩ := hc key i hkey
      exact ⟨product, hext i product hproduct, hnames⟩

theorem Resolved.extends {env : SyncEnv} {products more : ProductTable} {item : NormalizedItem}
    {id : Nat} (h : Resolved env products item id) (hext : Table.Extends products more) :
    Resolved env more item id := by
  obtain ⟨product, hrow, hcarries⟩ := h
  exact ⟨product, hext id product hrow, hcarries⟩

theorem resolveItems_sound {env : SyncEnv} {items : List NormalizedItem} {c d : Catalogue}
    {ids : List Nat} (hc : CacheSound env.py c) (h : resolveItems env items c = (.ok ids, d)) :
    CacheSound env.py d ∧ List.Forall₂ (Resolved env d.products) items ids := by
  induction items generalizing c ids with
  | nil =>
    obtain ⟨rfl, rfl⟩ := Tx.pure_ok_iff.mp h
    exact ⟨hc, List.Forall₂.nil⟩
  | cons item rest ih =>
    obtain ⟨id, m, hid, hrest⟩ := Tx.bind_ok_iff.mp h
    obtain ⟨tail, m', htail, hpure⟩ := Tx.bind_ok_iff.mp hrest
    obtain ⟨rfl, rfl⟩ := Tx.pure_ok_iff.mp hpure
    obtain ⟨hm, hitem⟩ := resolveProduct_sound hc hid
    obtain ⟨hd, hitems⟩ := ih hm htail
    exact ⟨hd, List.Forall₂.cons (hitem.extends (resolveItems_extends htail)) hitems⟩

/-- Texts that are cached anew name products inserted since. -/
structure Grows (c d : Catalogue) : Prop where
  next : c.products.next ≤ d.products.next
  cache : ∀ key, d.cache key = c.cache key ∨
    ∃ id, d.cache key = some id ∧ c.products.next ≤ id ∧ id < d.products.next

theorem Grows.refl (c : Catalogue) : Grows c c := ⟨Nat.le_refl _, fun _ => Or.inl rfl⟩

theorem Grows.trans {a b c : Catalogue} (h : Grows a b) (k : Grows b c) : Grows a c where
  next := Nat.le_trans h.next k.next
  cache := by
    intro key
    rcases k.cache key with hsame | ⟨id, hid, hlow, hhigh⟩
    · rcases h.cache key with hold | ⟨id, hid, hlow, hhigh⟩
      · exact Or.inl (hsame.trans hold)
      · exact Or.inr ⟨id, hsame.trans hid, hlow, Nat.lt_of_lt_of_le hhigh k.next⟩
    · exact Or.inr ⟨id, hid, Nat.le_trans h.next hlow, hhigh⟩

theorem Grows.remember {c d : Catalogue} {id : Nat} (h : Grows c d) (hlow : c.products.next ≤ id)
    (hhigh : id < d.products.next) (key : String) : Grows c (d.remember key id) where
  next := h.next
  cache := by
    intro k
    by_cases hk : k = key
    · exact Or.inr ⟨id, if_pos hk, hlow, hhigh⟩
    · have hsame : (d.remember key id).cache k = d.cache k := if_neg hk
      rw [hsame]
      exact h.cache k

/-- Also where it raises after the row has been flushed. -/
theorem resolveProduct_grows (env : SyncEnv) (item : NormalizedItem) :
    Tx.Moves Grows (resolveProduct env item) := by
  intro c
  have same := Grows.refl c
  unfold resolveProduct
  rw [Tx.bind_of_ok _ (Tx.read_apply c)]
  cases c.cache (itemRef env.py item) with
  | some id => exact same
  | none =>
    refine Tx.bind_reaches (by rw [Tx.ofExcept_state]; exact same) fun text m htext => ?_
    obtain ⟨_, rfl⟩ := Tx.ofExcept_ok_iff.mp htext
    refine Tx.bind_reaches (by rw [Tx.orRaise_state]; exact same) fun name m hname => ?_
    obtain ⟨_, rfl⟩ := Tx.orRaise_ok_iff.mp hname
    refine Tx.bind_reaches (by rw [Tx.check_state]; exact same) fun _ m hprice => ?_
    obtain ⟨_, rfl⟩ := Tx.check_ok_iff.mp hprice
    refine Tx.bind_reaches (by rw [Tx.orRaise_state]; exact same) fun inserted m hinsert => ?_
    obtain ⟨hinserted, rfl⟩ := Tx.orRaise_ok_iff.mp hinsert
    obtain ⟨id, products⟩ := inserted
    obtain ⟨rfl, _, hnext, _⟩ := Table.insert_eq_some hinserted
    have hlow : m.products.next ≤ m.products.next := Nat.le_refl _
    have hhigh : m.products.next < products.next := by omega
    have flushed : Grows m { m with products := products } :=
      ⟨Nat.le_of_lt hhigh, fun _ => Or.inl rfl⟩
    have bySku := flushed.remember hlow hhigh (env.py.lower (syncSku env.py text))
    dsimp only
    rw [Tx.bind_of_ok _ (Tx.write_apply _ _), Tx.bind_of_ok _ (Tx.write_apply _ _)]
    refine Tx.bind_reaches (by rw [Tx.ofExcept_state]; exact bySku) fun spelled m' hspelled => ?_
    obtain ⟨_, rfl⟩ := Tx.ofExcept_ok_iff.mp hspelled
    exact bySku.remember hlow hhigh (env.py.lower spelled)

/-- The programs of an entry, over the session. -/
def SessionGrows (s t : SyncSession) : Prop := Grows s.catalogue t.catalogue

theorem SessionGrows.refl (s : SyncSession) : SessionGrows s s := Grows.refl _

theorem SessionGrows.trans {a b c : SyncSession} (h : SessionGrows a b) (k : SessionGrows b c) :
    SessionGrows a c := Grows.trans h k

theorem syncItem_grows (env : SyncEnv) (orderId : Nat) (item : NormalizedItem) :
    Tx.Moves SessionGrows (syncItem env orderId item) := by
  have trans := fun a b c => SessionGrows.trans (a := a) (b := b) (c := c)
  refine Tx.moves_bind trans ?_ fun productId => ?_
  · exact Tx.moves_focus (resolveProduct_grows env item) fun _ _ h => h
  · refine Tx.moves_bind trans (Tx.moves_read SessionGrows.refl) fun s => ?_
    refine Tx.moves_bind trans (Tx.moves_check SessionGrows.refl _ _) fun _ => ?_
    refine Tx.moves_bind trans (Tx.moves_check SessionGrows.refl _ _) fun _ => ?_
    refine Tx.moves_bind trans (Tx.moves_check SessionGrows.refl _ _) fun _ => ?_
    exact Tx.moves_write fun s => Grows.refl s.catalogue

theorem storeEntry_grows (env : SyncEnv) (n : NormalizedOrder) :
    Tx.Moves SessionGrows (storeEntry env n) := by
  have trans := fun a b c => SessionGrows.trans (a := a) (b := b) (c := c)
  refine Tx.moves_bind trans ?_ fun customerId => ?_
  · exact fun s => Grows.refl s.catalogue
  refine Tx.moves_bind trans ?_ fun stored => ?_
  · exact fun s => Grows.refl s.catalogue
  refine Tx.moves_bind trans ?_ fun _ => ?_
  · refine Tx.moves_bind trans (Tx.moves_write fun s => Grows.refl s.catalogue) fun _ => ?_
    exact Tx.moves_forEach SessionGrows.refl trans (syncItem_grows env stored.2) n.items
  refine Tx.moves_bind trans (Tx.moves_check SessionGrows.refl _ _) fun _ => ?_
  refine Tx.moves_bind trans (Tx.moves_write fun s => Grows.refl s.catalogue) fun _ => ?_
  exact Tx.moves_pure SessionGrows.refl _

/-- The rollback takes the rows back, but neither the identities nor the cache. -/
theorem rollback_grows {s t : SyncSession} (h : SessionGrows s t) :
    SessionGrows s (SyncSession.rollback s t) where
  next := Nat.le_max_left _ _
  cache := by
    intro key
    rcases h.cache key with hsame | ⟨id, hid, hlow, hhigh⟩
    · exact Or.inl hsame
    · exact Or.inr ⟨id, hid, hlow, Nat.lt_of_lt_of_le hhigh (Nat.le_max_right _ _)⟩

theorem syncEntry_grows (env : SyncEnv) (n : NormalizedOrder) (s : SyncSession) :
    SessionGrows s (syncEntry env n s).2 := by
  rcases syncEntry_cases env n s with ⟨_, h⟩ | ⟨_, action, id, t, hstore, h⟩ |
    ⟨_, exc, m, hstore, h⟩
  · rw [h]
    exact SessionGrows.refl s
  · have grown := storeEntry_grows env n s
    rw [hstore] at grown
    rw [h]
    exact grown
  · have grown := storeEntry_grows env n s
    rw [hstore] at grown
    rw [h]
    exact rollback_grows grown

/-- Every cached identity has been handed out. -/
def CacheWithin (s : SyncSession) : Prop :=
  ∀ key id, s.productCache key = some id → id < s.db.products.next

theorem SessionGrows.within {s t : SyncSession} (h : SessionGrows s t) (hs : CacheWithin s) :
    CacheWithin t := by
  intro key id hkey
  rcases h.cache key with hsame | ⟨i, hi, _, hhigh⟩
  · exact Nat.lt_of_lt_of_le (hs key id (hsame.symm.trans hkey)) h.next
  · obtain rfl : i = id := Option.some.inj (hi.symm.trans hkey)
    exact hhigh

theorem startSession_within (env : SyncEnv) (db : Db) (listing : Table.Listing db.products) :
    CacheWithin (startSession env db listing) := by
  intro key id hkey
  obtain ⟨product, hrow, _⟩ := productLookup_sound env.py listing key id hkey
  exact Table.lt_next hrow

theorem syncAll_within {env : SyncEnv} {ns : List NormalizedOrder} {s : SyncSession}
    (h : CacheWithin s) : CacheWithin (syncAll env ns s).2 := by
  induction ns generalizing s with
  | nil => exact h
  | cons n rest ih => exact ih ((syncEntry_grows env n s).within h)

end ProductCache
