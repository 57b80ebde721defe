import CrmPortal.Library.ShiftedTable
import CrmPortal.ProductCache
import CrmPortal.SyncContainment

/-!
# What a failed entry does to the rest of a feed

Two runs over one feed, one of them with an entry more that fails. Its rows are
rolled back, so from then on the runs differ by the identities it used up, and by
the texts under which the cache still holds products that are gone. An entry that
looks none of these texts up does the same in both runs; one that does takes a
product without a row, and its item violates the foreign key.
-/

namespace SyncIsolation

open PyValue IdentityTable Transaction CrmDatabase OrderNormalization OrderSync OrderSyncSpec
open ProductCache SyncContainment

/-- Other identities for the rows of the tables that the sync writes. -/
structure Renaming where
  customer : Nat → Nat
  product : Nat → Nat
  order : Nat → Nat

def Renaming.onOrder (ρ : Renaming) (order : Order) : Order :=
  { order with customerId := order.customerId.map ρ.customer }

def Renaming.onItem (ρ : Renaming) (item : OrderItem) : OrderItem :=
  { item with orderId := ρ.order item.orderId, productId := item.productId.map ρ.product }

theorem Renaming.onOrder_eq {ρ : Renaming} {order : Order}
    (h : ∀ id, order.customerId = some id → ρ.customer id = id) : ρ.onOrder order = order := by
  have hid : order.customerId.map ρ.customer = order.customerId := by
    cases hc : order.customerId with
    | none => rfl
    | some id => rw [Option.map_some, h id hc]
  rw [Renaming.onOrder, hid]

theorem Renaming.onItem_eq {ρ : Renaming} {item : OrderItem}
    (horder : ρ.order item.orderId = item.orderId)
    (h : ∀ id, item.productId = some id → ρ.product id = id) : ρ.onItem item = item := by
  have hid : item.productId.map ρ.product = item.productId := by
    cases hp : item.productId with
    | none => rfl
    | some id => rw [Option.map_some, h id hp]
  rw [Renaming.onItem, hid, horder]

/-- `b` is `a` up to the identities of rows that `start` does not hold. -/
structure SameButIds (start a b : Db) (ρ : Renaming) : Prop where
  customers : Table.Renamed ρ.customer id a.customers b.customers
  products : Table.Renamed ρ.product id a.products b.products
  orders : Table.Renamed ρ.order ρ.onOrder a.orders b.orders
  orderItems : b.orderItems = a.orderItems.map ρ.onItem
  oldCustomers : ∀ i, (start.customers.row i).isSome → ρ.customer i = i
  oldProducts : ∀ i, (start.products.row i).isSome → ρ.product i = i
  oldOrders : ∀ i, (start.orders.row i).isSome → ρ.order i = i

/-- The identities that the failed entry used up. -/
structure Gaps where
  customers : Gap
  products : Gap
  orders : Gap

def Gaps.renaming (g : Gaps) : Renaming := ⟨g.customers.skip, g.products.skip, g.orders.skip⟩

/-- A text names the same product on both sides, or one that is gone. -/
structure SameCatalogue (g : Gap) (c d : Catalogue) : Prop where
  products : Table.Shifted g id c.products d.products
  cache : ∀ key, (∃ id, d.cache key = some id ∧ g.holds id = true) ∨
    d.cache key = (c.cache key).map g.skip

/-- `t` is the session of the run with the failed entry, `s` that of the other. -/
structure Alike (g : Gaps) (s t : SyncSession) : Prop where
  customers : Table.Shifted g.customers id s.db.customers t.db.customers
  orders : Table.Shifted g.orders g.renaming.onOrder s.db.orders t.db.orders
  orderItems : t.db.orderItems = s.db.orderItems.map g.renaming.onItem
  catalogue : SameCatalogue g.products s.catalogue t.catalogue

theorem SameCatalogue.remember {g : Gap} {c d : Catalogue} (h : SameCatalogue g c d)
    (key : String) (id : Nat) :
    SameCatalogue g (c.remember key id) (d.remember key (g.skip id)) where
  products := h.products
  cache := by
    intro k
    by_cases hk : k = key
    · right
      simp [Catalogue.remember, cachePut, hk]
    · simpa [Catalogue.remember, cachePut, hk] using h.cache k

/-- A row goes into both tables or into neither. -/
theorem paired_insert {Left Right Row Key : Type} [DecidableEq Key] {key : Row → Option Key}
    {g : Gap} {f : Row → Row} {t t' : Table Row key} {R : Left → Right → Prop} {a : Left}
    {b : Right} (h : Table.Shifted g f t t') (keeps : ∀ r, key (f r) = key r) (r : Row)
    (e : PyExc) (states : R a b) :
    Tx.Paired (fun p q => q.1 = g.skip p.1 ∧ Table.Shifted g f p.2 q.2) R
      (Tx.orRaise e (t.insert r) a) (Tx.orRaise e (t'.insert (f r)) b) := by
  refine Tx.paired_orRaise e ?_ states
  rcases h.insert keeps r with ⟨ht, ht'⟩ | ⟨u, u', ht, ht', hu⟩
  · exact Or.inl ⟨ht, ht'⟩
  · exact Or.inr ⟨(t.next, u), (g.skip t.next, u'), ht, ht', rfl, hu⟩

section Programs
variable {env : SyncEnv} {n : NormalizedOrder} {g : Gaps}

theorem resolveCustomer_alike {s t : CustomerTable} (h : Table.Shifted g.customers id s t) :
    Tx.Paired (fun i j => j = g.customers.skip i) (Table.Shifted g.customers id)
      (resolveCustomer env n s) (resolveCustomer env n t) := by
  have hlookup : lookupCustomer t n.customerEmail =
      (lookupCustomer s n.customerEmail).map g.customers.skip := by
    unfold lookupCustomer
    split
    · rfl
    · exact h.find (fun _ => rfl) _
  unfold resolveCustomer
  rw [Tx.bind_of_ok _ (Tx.read_apply s), Tx.bind_of_ok _ (Tx.read_apply t), hlookup]
  cases lookupCustomer s n.customerEmail with
  | some i => exact .ok rfl h
  | none =>
    refine Tx.paired_bind (Tx.paired_orRaise_same _ _ h) fun name _ s₁ t₁ _ _ hname h₁ => ?_
    subst hname
    refine Tx.paired_bind (Tx.paired_check _ _ h₁) fun _ _ s₂ t₂ _ _ _ h₂ => ?_
    refine Tx.paired_bind (Tx.paired_check _ _ h₂) fun _ _ s₃ t₃ _ _ _ h₃ => ?_
    refine Tx.paired_bind (paired_insert h (fun _ => rfl) _ _ h₃) ?_
    rintro ⟨i, u⟩ ⟨j, u'⟩ s₄ t₄ _ _ ⟨hid, hu⟩ _
    exact .ok hid hu

theorem updatedOrder_alike (customerId : Nat) (notes address : String) (order : Order) :
    g.renaming.onOrder (updatedOrder env customerId n notes address order) =
      updatedOrder env (g.customers.skip customerId) n notes address (g.renaming.onOrder order) :=
        rfl

theorem newOrder_alike (customerId : Nat) (notes address : String) :
    g.renaming.onOrder (newOrder env customerId n notes address) =
      newOrder env (g.customers.skip customerId) n notes address := rfl

/-- The same branch on both sides, and orders that correspond. -/
def SameOrder (g : Gaps) (p q : SyncAction × Nat) : Prop := q = (p.1, g.orders.skip p.2)

theorem upsertOrder_alike {s t : OrderTable} (h : Table.Shifted g.orders g.renaming.onOrder s t)
    (customerId : Nat) :
    Tx.Paired (SameOrder g) (Table.Shifted g.orders g.renaming.onOrder)
      (upsertOrder env customerId n s)
      (upsertOrder env (g.customers.skip customerId) n t) := by
  unfold upsertOrder
  rw [Tx.bind_of_ok _ (Tx.read_apply s), Tx.bind_of_ok _ (Tx.read_apply t)]
  refine Tx.paired_bind (Tx.paired_orRaise_same _ _ h) fun notes _ s₁ t₁ _ _ hnotes h₁ => ?_
  subst hnotes
  refine Tx.paired_bind (Tx.paired_orRaise_same _ _ h₁) fun address _ s₂ t₂ _ _ haddress h₂ => ?_
  subst haddress
  refine Tx.paired_bind (Tx.paired_check _ _ h₂) fun _ _ s₃ t₃ _ _ _ h₃ => ?_
  rw [h.find (fun _ => rfl) (env.sourceName, n.sourceOrderId)]
  cases s.find (env.sourceName, n.sourceOrderId) with
  | none =>
    refine Tx.paired_bind (Tx.paired_check _ _ h₃) fun _ _ s₄ t₄ _ _ _ h₄ => ?_
    rw [← newOrder_alike]
    refine Tx.paired_bind (paired_insert h (fun _ => rfl) _ _ h₄) ?_
    rintro ⟨i, u⟩ ⟨j, u'⟩ s₅ t₅ _ _ ⟨hid, hu⟩ _
    exact .ok (congrArg (Prod.mk SyncAction.created) hid) hu
  | some i =>
    exact .ok rfl (h₃.modify i _ _ fun order => updatedOrder_alike _ _ _ order)

/-- The lookup that starts `resolveProduct` finds a product that is gone. -/
def takesLost (lost : Gap) (py : Builtins) (item : NormalizedItem)
    (cache : String → Option Nat) : Bool :=
  match cache (itemRef py item) with
  | some id => lost.holds id
  | none => false

theorem SameCatalogue.lookup {gap : Gap} {c d : Catalogue} {item : NormalizedItem}
    (h : SameCatalogue gap c d) (hkept : takesLost gap env.py item d.cache = false) :
    d.cache (itemRef env.py item) = (c.cache (itemRef env.py item)).map gap.skip := by
  rcases h.cache (itemRef env.py item) with ⟨id, hid, hlost⟩ | hsame
  · rw [takesLost, hid] at hkept
    cases hkept.symm.trans hlost
  · exact hsame

theorem resolveProduct_alike {gap : Gap} {c d : Catalogue} {item : NormalizedItem}
    (h : SameCatalogue gap c d) (hkept : takesLost gap env.py item d.cache = false) :
    Tx.Paired (fun i j => j = gap.skip i) (SameCatalogue gap)
      (resolveProduct env item c) (resolveProduct env item d) := by
  unfold resolveProduct
  rw [Tx.bind_of_ok _ (Tx.read_apply c), Tx.bind_of_ok _ (Tx.read_apply d), h.lookup hkept]
  cases c.cache (itemRef env.py item) with
  | some id => exact .ok rfl h
  | none =>
    refine Tx.paired_bind (Tx.paired_ofExcept _ h) fun text _ c₁ d₁ _ _ htext h₁ => ?_
    subst htext
    refine Tx.paired_bind (Tx.paired_orRaise_same _ _ h₁) fun name _ c₂ d₂ _ _ hname h₂ => ?_
    subst hname
    refine Tx.paired_bind (Tx.paired_check _ _ h₂) fun _ _ c₃ d₃ _ _ _ h₃ => ?_
    refine Tx.paired_bind (paired_insert h.products (fun _ => rfl) _ _ h₃) ?_
    rintro ⟨i, u⟩ ⟨j, u'⟩ c₄ d₄ _ _ ⟨hid, hu⟩ h₄
    obtain rfl : j = gap.skip i := hid
    have flushed : SameCatalogue gap { c₄ with products := u } { d₄ with products := u' } :=
      ⟨hu, h₄.cache⟩
    have bySku := flushed.remember (env.py.lower (syncSku env.py text)) i
    dsimp only
    rw [Tx.bind_of_ok _ (Tx.write_apply _ _), Tx.bind_of_ok _ (Tx.write_apply _ _),
      Tx.bind_of_ok _ (Tx.write_apply _ _), Tx.bind_of_ok _ (Tx.write_apply _ _)]
    refine Tx.paired_bind (Tx.paired_ofExcept _ bySku) fun spelled _ c₅ d₅ _ _ hspelled h₅ => ?_
    subst hspelled
    exact .ok rfl (h₅.remember (env.py.lower spelled) i)

theorem addOrderItem_alike {s t : SyncSession} (h : Alike g s t) (orderId : Nat)
    (item : NormalizedItem) (productId : Nat) :
    Tx.Paired (fun _ _ => True) (Alike g) (addOrderItem env orderId item productId s)
      (addOrderItem env (g.orders.skip orderId) item (g.products.skip productId) t) := by
  unfold addOrderItem
  rw [Tx.bind_of_ok _ (Tx.read_apply s), Tx.bind_of_ok _ (Tx.read_apply t)]
  refine Tx.paired_bind (Tx.paired_check _ _ h) fun _ _ s₁ t₁ _ _ _ h₁ => ?_
  refine Tx.paired_bind (Tx.paired_check _ _ h₁) fun _ _ s₂ t₂ _ _ _ h₂ => ?_
  have hrow : (t.db.products.row (g.products.skip productId)).isSome =
      (s.db.products.row productId).isSome := h.catalogue.products.isSome productId
  rw [hrow]
  refine Tx.paired_bind (Tx.paired_check _ _ h₂) fun _ _ s₃ t₃ _ _ _ h₃ => ?_
  refine .ok trivial ⟨h₃.customers, h₃.orders, ?_, h₃.catalogue⟩
  simp [h₃.orderItems, Gaps.renaming, Renaming.onItem]

theorem syncItem_alike {s t : SyncSession} {item : NormalizedItem} (h : Alike g s t)
    (hkept : takesLost g.products env.py item t.productCache = false) (orderId : Nat) :
    Tx.Paired (fun _ _ => True) (Alike g) (syncItem env orderId item s)
      (syncItem env (g.orders.skip orderId) item t) := by
  have resolved : Tx.Paired (fun i j => j = g.products.skip i) (Alike g)
      (onCatalogue (resolveProduct env item) s) (onCatalogue (resolveProduct env item) t) :=
    Tx.paired_focus (resolveProduct_alike h.catalogue hkept) fun c d hc =>
      ⟨h.customers, h.orders, h.orderItems, hc⟩
  refine Tx.paired_bind resolved fun i j s₁ t₁ _ _ hid h₁ => ?_
  subst hid
  exact addOrderItem_alike h₁ orderId item i

/-- A product that is gone has no row to refer to. -/
theorem syncItem_lost {s t : SyncSession} {item : NormalizedItem} (h : Alike g s t)
    (hlost : takesLost g.products env.py item t.productCache = true) (orderId : Nat) :
    ∃ exc t', syncItem env orderId item t = (.error exc, t') := by
  rcases hrun : syncItem env orderId item t with ⟨exc | u, t'⟩
  · exact ⟨exc, t', rfl⟩
  obtain ⟨id, c, hid, _, _, hrow, _⟩ := syncItem_ok_iff.mp hrun
  unfold takesLost at hlost
  rcases resolveProduct_ok_iff.mp hid with ⟨hhit, rfl⟩ | ⟨hmiss, _⟩
  · change t.productCache (itemRef env.py item) = some id at hhit
    rw [hhit] at hlost
    rw [show t.catalogue.products.row id = none from h.catalogue.products.gap id hlost] at hrow
    cases hrow
  · change t.productCache (itemRef env.py item) = none at hmiss
    rw [hmiss] at hlost
    cases hlost

/-- Some item of the order takes a product that is gone; the items before it are
stored. -/
def itemsTakeLost (env : SyncEnv) (lost : Gap) (orderId : Nat) :
    List NormalizedItem → SyncSession → Bool
  | [], _ => false
  | item :: rest, s =>
    takesLost lost env.py item s.productCache ||
      match syncItem env orderId item s with
      | (.ok _, t) => itemsTakeLost env lost orderId rest t
      | (.error _, _) => false

theorem syncItems_alike {s t : SyncSession} {items : List NormalizedItem} (h : Alike g s t)
    (orderId : Nat)
    (hkept : itemsTakeLost env g.products (g.orders.skip orderId) items t = false) :
    Tx.Paired (fun _ _ => True) (Alike g) (Tx.forEach (syncItem env orderId) items s)
      (Tx.forEach (syncItem env (g.orders.skip orderId)) items t) := by
  induction items generalizing s t with
  | nil => exact .ok trivial h
  | cons item rest ih =>
    rw [itemsTakeLost, Bool.or_eq_false_iff] at hkept
    obtain ⟨hitem, hrest⟩ := hkept
    refine Tx.paired_bind (syncItem_alike h hitem orderId) fun _ _ s₁ t₁ _ ht _ h₁ => ?_
    rw [ht] at hrest
    exact ih h₁ hrest

theorem syncItems_lost {s t : SyncSession} {items : List NormalizedItem} (h : Alike g s t)
    (orderId : Nat)
    (hlost : itemsTakeLost env g.products (g.orders.skip orderId) items t = true) :
    ∃ exc t', Tx.forEach (syncItem env (g.orders.skip orderId)) items t = (.error exc, t') := by
  induction items generalizing s t with
  | nil => cases hlost
  | cons item rest ih =>
    rcases htake : takesLost g.products env.py item t.productCache with _ | _
    · rw [itemsTakeLost, htake, Bool.false_or] at hlost
      have paired := syncItem_alike h htake orderId
      rcases ht : syncItem env (g.orders.skip orderId) item t with ⟨exc | u, t₁⟩
      · exact ⟨exc, t₁, Tx.bind_of_error _ ht⟩
      · rw [ht] at hlost paired
        rcases hs : syncItem env orderId item s with ⟨exc | u', s₁⟩
        · rw [hs] at paired
          cases paired
        · rw [hs] at paired
          obtain ⟨exc, t', hfails⟩ := ih paired.states hlost
          exact ⟨exc, t', (Tx.bind_of_ok _ ht).trans hfails⟩
    · obtain ⟨exc, t', hfails⟩ := syncItem_lost h htake (g.orders.skip orderId)
      exact ⟨exc, t', Tx.bind_of_error _ hfails⟩

theorem dropItems_alike {s t : SyncSession} (h : Alike g s t) (orderId : Nat) :
    Alike g (s.dropItems orderId) (t.dropItems (g.orders.skip orderId)) where
  customers := h.customers
  orders := h.orders
  orderItems := by
    simp only [SyncSession.dropItems, h.orderItems, List.filter_map]
    congr 1
    refine List.filter_congr fun item _ => ?_
    simp [Gaps.renaming, Renaming.onItem]
  catalogue := h.catalogue

/-- The customer and the order of an entry. -/
def upsertEntry (env : SyncEnv) (n : NormalizedOrder) :
    Tx SyncSession PyExc (SyncAction × Nat) := do
  let customerId ← onCustomers (resolveCustomer env n)
  onOrders (upsertOrder env customerId n)

/-- The items of an entry and its audit row. -/
def finishEntry (env : SyncEnv) (n : NormalizedOrder) (stored : SyncAction × Nat) :
    Tx SyncSession PyExc (SyncAction × Nat) := do
  replaceOrderItems env stored.2 n.items
  let row := auditRow env n.sourceOrderId stored.1.label "success"
    (.text s!"{stored.1.label} order from {env.sourceName}")
  Tx.check .dataError (auditTaken env row)
  Tx.write fun s => s.addAudit row
  return stored

theorem storeEntry_eq (env : SyncEnv) (n : NormalizedOrder) (s : SyncSession) :
    storeEntry env n s = (upsertEntry env n >>= finishEntry env n) s := by
  unfold storeEntry upsertEntry
  simp only [Tx.bind_apply]
  rcases onCustomers (resolveCustomer env n) s with ⟨exc | customerId, m⟩
  · rfl
  · rfl

theorem upsertEntry_alike {s t : SyncSession} (h : Alike g s t) :
    Tx.Paired (SameOrder g) (Alike g) (upsertEntry env n s) (upsertEntry env n t) := by
  have resolved : Tx.Paired (fun i j => j = g.customers.skip i) (Alike g)
      (onCustomers (resolveCustomer env n) s) (onCustomers (resolveCustomer env n) t) :=
    Tx.paired_focus (resolveCustomer_alike h.customers) fun c d hc =>
      ⟨hc, h.orders, h.orderItems, h.catalogue⟩
  refine Tx.paired_bind resolved fun i j s₁ t₁ _ _ hid h₁ => ?_
  subst hid
  exact Tx.paired_focus (upsertOrder_alike h₁.orders i) fun o o' ho =>
    ⟨h₁.customers, ho, h₁.orderItems, h₁.catalogue⟩

theorem finishEntry_alike {s t : SyncSession} (h : Alike g s t) (action : SyncAction)
    (orderId : Nat)
    (hkept : itemsTakeLost env g.products (g.orders.skip orderId) n.items
      (t.dropItems (g.orders.skip orderId)) = false) :
    Tx.Paired (SameOrder g) (Alike g) (finishEntry env n (action, orderId) s)
      (finishEntry env n (action, g.orders.skip orderId) t) := by
  refine Tx.paired_bind (syncItems_alike (dropItems_alike h orderId) orderId hkept)
    fun _ _ s₁ t₁ _ _ _ h₁ => ?_
  refine Tx.paired_bind (Tx.paired_check _ _ h₁) fun _ _ s₂ t₂ _ _ _ h₂ => ?_
  exact .ok rfl ⟨h₂.customers, h₂.orders, h₂.orderItems, h₂.catalogue⟩

/-- The entry gets as far as its items and one of them takes a product that is
gone. -/
def entryTakesLost (env : SyncEnv) (lost : Gap) (n : NormalizedOrder) (s : SyncSession) : Bool :=
  decide (n.sourceOrderId ≠ "") &&
    match upsertEntry env n s with
    | (.ok (_, orderId), t) => itemsTakeLost env lost orderId n.items (t.dropItems orderId)
    | (.error _, _) => false

theorem storeEntry_alike {s t : SyncSession} (h : Alike g s t) (hid : n.sourceOrderId ≠ "")
    (hkept : entryTakesLost env g.products n t = false) :
    Tx.Paired (SameOrder g) (Alike g) (storeEntry env n s) (storeEntry env n t) := by
  rw [storeEntry_eq, storeEntry_eq]
  refine Tx.paired_bind (upsertEntry_alike h) ?_
  rintro ⟨action, orderId⟩ _ s₁ t₁ _ ht rfl h₁
  simp only [entryTakesLost, ht, ne_eq, hid, not_false_eq_true, decide_true, Bool.true_and] at hkept
  exact finishEntry_alike h₁ action orderId hkept

theorem storeEntry_lost {s t : SyncSession} (h : Alike g s t)
    (hlost : entryTakesLost env g.products n t = true) :
    n.sourceOrderId ≠ "" ∧ ∃ exc t', storeEntry env n t = (.error exc, t') := by
  obtain ⟨hid, hitems⟩ := Bool.and_eq_true_iff.mp hlost
  refine ⟨of_decide_eq_true hid, ?_⟩
  have paired : Tx.Paired (SameOrder g) (Alike g) (upsertEntry env n s) (upsertEntry env n t) :=
    upsertEntry_alike h
  rcases ht : upsertEntry env n t with ⟨exc | ⟨action, orderId⟩, t₁⟩
  · rw [ht] at hitems
    cases hitems
  rcases hs : upsertEntry env n s with ⟨exc | ⟨action', orderId'⟩, s₁⟩
  · rw [hs, ht] at paired
    cases paired
  rw [ht] at hitems
  rw [hs, ht] at paired
  cases paired with
  | ok same h₁ =>
    obtain ⟨rfl, rfl⟩ := Prod.mk.inj same
    obtain ⟨exc, t', hfails⟩ := syncItems_lost (dropItems_alike h₁ orderId') orderId' hitems
    refine ⟨exc, t', ?_⟩
    rw [storeEntry_eq, Tx.bind_of_ok _ ht]
    exact Tx.bind_of_error _ hfails

theorem Alike.rollback {s t u v : SyncSession} (h : Alike g s t) (k : Alike g u v) :
    Alike g (SyncSession.rollback s u) (SyncSession.rollback t v) where
  customers := h.customers.rollback k.customers
  orders := h.orders.rollback k.orders
  orderItems := h.orderItems
  catalogue := ⟨h.catalogue.products.rollback k.catalogue.products, k.catalogue.cache⟩

theorem Alike.addAudit {s t : SyncSession} (h : Alike g s t) (a b : OrderSyncAudit) :
    Alike g (s.addAudit a) (t.addAudit b) :=
  ⟨h.customers, h.orders, h.orderItems, h.catalogue⟩

/-- An entry that takes no product that is gone does the same in both runs. -/
theorem syncEntry_alike {s t : SyncSession} (h : Alike g s t)
    (hkept : entryTakesLost env g.products n t = false) :
    countedAs (syncEntry env n t).1 = countedAs (syncEntry env n s).1 ∧
      Alike g (syncEntry env n s).2 (syncEntry env n t).2 := by
  unfold syncEntry Tx.savepoint
  by_cases hid : n.sourceOrderId = ""
  · rw [if_pos hid, if_pos hid]
    exact ⟨rfl, h.addAudit _ _⟩
  rw [if_neg hid, if_neg hid]
  have paired := storeEntry_alike h hid hkept
  rcases hs : storeEntry env n s with ⟨exc | ⟨action, orderId⟩, s₁⟩ <;>
    rcases ht : storeEntry env n t with ⟨exc' | ⟨action', orderId'⟩, t₁⟩ <;>
    rw [hs, ht] at paired <;> cases paired
  case error.error.error reached => exact ⟨rfl, (h.rollback reached).addAudit _ _⟩
  case ok.ok.ok same reached =>
    obtain ⟨rfl, _⟩ := Prod.mk.inj same
    exact ⟨rfl, reached⟩

/-- An entry that takes a product that is gone fails. -/
theorem syncEntry_lost {s t : SyncSession} (h : Alike g s t)
    (hlost : entryTakesLost env g.products n t = true) : (syncEntry env n t).1 = .failed := by
  obtain ⟨hid, exc, t', hfails⟩ := storeEntry_lost h hlost
  unfold syncEntry Tx.savepoint
  rw [if_neg hid, hfails]

/-- Some entry, reached in its turn, takes a product that is gone. -/
def feedTakesLost (env : SyncEnv) (lost : Gap) : List NormalizedOrder → SyncSession → Bool
  | [], _ => false
  | n :: rest, s =>
    entryTakesLost env lost n s || feedTakesLost env lost rest (syncEntry env n s).2

theorem syncAll_alike {ns : List NormalizedOrder} {s t : SyncSession} (h : Alike g s t)
    (hkept : feedTakesLost env g.products ns t = false) :
    (syncAll env ns t).1.map countedAs = (syncAll env ns s).1.map countedAs ∧
      Alike g (syncAll env ns s).2 (syncAll env ns t).2 := by
  induction ns generalizing s t with
  | nil => exact ⟨rfl, h⟩
  | cons n rest ih =>
    rw [feedTakesLost, Bool.or_eq_false_iff] at hkept
    obtain ⟨hentry, hrest⟩ := hkept
    obtain ⟨hcount, hnext⟩ := syncEntry_alike h hentry
    obtain ⟨hcounts, hend⟩ := ih hnext hrest
    refine ⟨?_, hend⟩
    simp only [syncAll, List.map_cons, hcount, hcounts]

/-- Where every entry is stored without the failed one, the first to take a product
that is gone makes the difference. -/
theorem syncAll_lost {ns : List NormalizedOrder} {s t : SyncSession} (h : Alike g s t)
    (hlost : feedTakesLost env g.products ns t = true)
    (hstored : ∀ outcome ∈ (syncAll env ns s).1, outcome.isFailed = false) :
    (syncAll env ns t).1.map countedAs ≠ (syncAll env ns s).1.map countedAs := by
  induction ns generalizing s t with
  | nil => cases hlost
  | cons n rest ih =>
    simp only [syncAll, List.map_cons, List.forall_mem_cons] at hstored ⊢
    obtain ⟨hfirst, hrest⟩ := hstored
    intro hsame
    obtain ⟨hhead, htail⟩ := List.cons.inj hsame
    rcases hentry : entryTakesLost env g.products n t with _ | _
    · rw [feedTakesLost, hentry, Bool.false_or] at hlost
      exact ih (syncEntry_alike h hentry).2 hlost hrest htail
    · rw [syncEntry_lost h hentry] at hhead
      rcases houtcome : (syncEntry env n s).1 with ⟨action, order⟩ | _
      · rw [houtcome] at hhead
        cases hhead
      · rw [houtcome] at hfirst
        cases hfirst

end Programs
/-- The identities that an entry hands out. -/
def usedUp (env : SyncEnv) (n : NormalizedOrder) (s : SyncSession) : Gaps :=
  let t := (syncEntry env n s).2
  { customers := Table.gapSince s.db.customers t.db.customers
    products := Table.gapSince s.db.products t.db.products
    orders := Table.gapSince s.db.orders t.db.orders }

/-- The entry raises inside its savepoint. -/
def FailsInSavepoint (env : SyncEnv) (n : NormalizedOrder) (s : SyncSession) : Prop :=
  n.sourceOrderId ≠ "" ∧ ∃ exc m, storeEntry env n s = (.error exc, m)

theorem failed_alike {env : SyncEnv} {n : NormalizedOrder} {s : SyncSession}
    (hdb : s.db.ForeignKeys) (hcache : CacheWithin s) (hfails : FailsInSavepoint env n s) :
    (syncEntry env n s).1 = .failed ∧ Alike (usedUp env n s) s (syncEntry env n s).2 := by
  obtain ⟨hid, exc, m, hstore⟩ := hfails
  have grown := syncEntry_grows env n s
  unfold usedUp
  rcases syncEntry_cases env n s with ⟨hempty, _⟩ | ⟨_, action, id, t, hok, _⟩ |
    ⟨_, exc', m', _, h⟩
  · exact absurd hempty hid
  · cases hstore.symm.trans hok
  rw [h] at grown ⊢
  refine ⟨rfl, ?_, ?_, ?_, ?_, ?_⟩
  · exact Table.Shifted.ofRollback s.db.customers m'.db.customers fun _ _ _ => rfl
  · refine Table.Shifted.ofRollback s.db.orders m'.db.orders fun i order horder => ?_
    exact Renaming.onOrder_eq fun id hid =>
      Table.gapSince_skip _ _ (hdb.customer i order id horder hid)
  · have same : s.db.orderItems.map id = s.db.orderItems := List.map_id _
    refine same.symm.trans (List.map_congr_left fun item hitem => Eq.symm ?_)
    exact Renaming.onItem_eq (Table.gapSince_skip _ _ (hdb.order item hitem))
      fun id hid => Table.gapSince_skip _ _ (hdb.product item hitem id hid)
  · exact Table.Shifted.ofRollback s.db.products m'.db.products fun _ _ _ => rfl
  · intro key
    rcases grown.cache key with hsame | ⟨id, hid, hlow, hhigh⟩
    · right
      refine hsame.trans ?_
      cases hold : s.catalogue.cache key with
      | none => rfl
      | some id =>
        have hkept : (Table.gapSince s.db.products (s.rollback m').db.products).skip id = id :=
          Gap.skip_of_lt (hcache key id hold)
        exact congrArg some hkept.symm
    · exact Or.inl ⟨id, hid, Table.gapSince_holds hlow hhigh⟩

theorem Alike.sameButIds {g : Gaps} {s t : SyncSession} (h : Alike g s t) {start : Db}
    (customers : ∀ i, (start.customers.row i).isSome → g.customers.skip i = i)
    (products : ∀ i, (start.products.row i).isSome → g.products.skip i = i)
    (orders : ∀ i, (start.orders.row i).isSome → g.orders.skip i = i) :
    SameButIds start s.db t.db g.renaming :=
  ⟨h.customers.renamed, h.catalogue.products.renamed, h.orders.renamed, h.orderItems, customers,
    products, orders⟩

/-- The entries before and after the failing one are counted as in a run without
it, and the same rows are committed. -/
def Unharmed (env : SyncEnv) (db : Db) (listing : Table.Listing db.products)
    (before : List Arrival) (failing : Arrival) (after : List Arrival) : Prop :=
  match syncExternalOrders env db listing (before ++ after),
    syncExternalOrders env db listing (before ++ failing :: after) with
  | .ok (r, without), .ok (r', committed) =>
    (r'.outcomes.map countedAs).eraseIdx before.length = r.outcomes.map countedAs ∧
      ∃ ρ, SameButIds db without committed ρ
  | .error _, .error _ => True
  | _, _ => False

theorem Unharmed.counts {env : SyncEnv} {db : Db} {listing : Table.Listing db.products}
    {before after : List Arrival} {failing : Arrival} {x y : SyncResult × Db}
    (h : Unharmed env db listing before failing after)
    (hshort : syncExternalOrders env db listing (before ++ after) = .ok x)
    (hlong : syncExternalOrders env db listing (before ++ failing :: after) = .ok y) :
    (y.1.outcomes.map countedAs).eraseIdx before.length = x.1.outcomes.map countedAs := by
  unfold Unharmed at h
  rw [hshort, hlong] at h
  exact h.1

/-- The failed entry does not keep the run from committing, and no later entry
takes a product that went with its savepoint. -/
structure KeptApart (env : SyncEnv) (s : SyncSession) (ms : List NormalizedOrder)
    (n : NormalizedOrder) (ks : List NormalizedOrder) : Prop where
  audited : (∀ m ∈ ms ++ ks, env.backend.takesStr (.varchar 120) m.sourceOrderId = true) →
    env.backend.takesStr (.varchar 120) n.sourceOrderId = true
  unused : feedTakesLost env (usedUp env n s).products ks (syncEntry env n s).2 = false

/-- The run without the failing entry commits and stores every later entry. -/
def StoredWithout (env : SyncEnv) (db : Db) (listing : Table.Listing db.products)
    (before after : List Arrival) : Prop :=
  ∃ r db', syncExternalOrders env db listing (before ++ after) = .ok (r, db') ∧
    ∀ outcome ∈ r.outcomes.drop before.length, outcome.isFailed = false

theorem countedAs_eraseIdx {first second second' : List EntryOutcome} {outcome : EntryOutcome} :
    ((first ++ outcome :: second').map countedAs).eraseIdx first.length =
        (first ++ second).map countedAs ↔
      second'.map countedAs = second.map countedAs := by
  have hlength : (first.map countedAs).length ≤ first.length := by simp
  rw [List.map_append, List.map_append, List.map_cons,
    List.eraseIdx_append_of_length_le hlength, List.append_right_inj]
  simp

/-- The session before the failing entry, and after it. -/
theorem failing_reached {env : SyncEnv} {db : Db} {listing : Table.Listing db.products}
    (hdb : db.ForeignKeys) {ms : List NormalizedOrder} {n : NormalizedOrder}
    (hfails : FailsInSavepoint env n (syncAll env ms (startSession env db listing)).2) :
    let s := (syncAll env ms (startSession env db listing)).2
    (syncEntry env n s).1 = .failed ∧ Alike (usedUp env n s) s (syncEntry env n s).2 :=
  failed_alike (syncAll_foreignKeys hdb) (syncAll_within (startSession_within env db listing))
    hfails

/-- Nothing that was there before the run changes its identity. -/
theorem committed_sameButIds {env : SyncEnv} {db : Db} {listing : Table.Listing db.products}
    {ms : List NormalizedOrder} {n : NormalizedOrder} {s t : SyncSession}
    (h : Alike (usedUp env n (syncAll env ms (startSession env db listing)).2) s t) :
    ∃ ρ, SameButIds db s.db t.db ρ := by
  have frame := syncAll_frame env ms (startSession env db listing)
  refine ⟨_, h.sameButIds ?_ ?_ ?_⟩
  · exact fun i hi => Table.gapSince_skip _ _ (frame.customers.isSome hi)
  · exact fun i hi => Table.gapSince_skip _ _ (frame.products.isSome hi)
  · intro i hi
    obtain ⟨order, horder⟩ := Option.isSome_iff_exists.mp hi
    obtain ⟨order', horder', _⟩ := frame.kept i order horder
    exact Table.gapSince_skip _ _ (Option.isSome_of_eq_some horder')

/-- Both runs commit exactly when every source id fits, and then it is the sequences
of entries that are compared. -/
theorem unharmed_iff {env : SyncEnv} {db : Db} {listing : Table.Listing db.products}
    {before after : List Arrival} {failing : Arrival} {ms ks : List NormalizedOrder}
    {n : NormalizedOrder} (hbefore : normalizeFeed env.py before = .ok ms)
    (hfailing : normalizeExternalOrder env.py failing.now failing.raw = .ok n)
    (hafter : normalizeFeed env.py after = .ok ks) :
    Unharmed env db listing before failing after ↔
      ((∀ m ∈ ms ++ ks, env.backend.takesStr (.varchar 120) m.sourceOrderId = true) →
        env.backend.takesStr (.varchar 120) n.sourceOrderId = true ∧
        ((syncAll env (ms ++ n :: ks) (startSession env db listing)).1.map countedAs).eraseIdx
            ms.length =
          (syncAll env (ms ++ ks) (startSession env db listing)).1.map countedAs ∧
        ∃ ρ, SameButIds db (syncAll env (ms ++ ks) (startSession env db listing)).2.db
          (syncAll env (ms ++ n :: ks) (startSession env db listing)).2.db ρ) := by
  have hshort : normalizeFeed env.py (before ++ after) = .ok (ms ++ ks) :=
    normalizeFeed_append_ok_iff.mpr ⟨ms, ks, hbefore, hafter, rfl⟩
  have hlong : normalizeFeed env.py (before ++ failing :: after) = .ok (ms ++ n :: ks) :=
    normalizeFeed_append_ok_iff.mpr ⟨ms, n :: ks, hbefore,
      normalizeFeed_cons_ok_iff.mpr ⟨n, ks, hfailing, hafter, rfl⟩, rfl⟩
  unfold Unharmed
  rw [syncExternalOrders_of_normalized hshort, syncExternalOrders_of_normalized hlong,
    ← normalizeFeed_length hbefore, ← List.all_eq_true]
  have hsplit : (ms ++ n :: ks).all (fun m => env.backend.takesStr (.varchar 120) m.sourceOrderId) =
      ((ms ++ ks).all (fun m => env.backend.takesStr (.varchar 120) m.sourceOrderId) &&
        env.backend.takesStr (.varchar 120) n.sourceOrderId) := by
    rw [List.all_append, List.all_append, List.all_cons]
    ac_rfl
  rw [hsplit]
  rcases (ms ++ ks).all fun m => env.backend.takesStr (.varchar 120) m.sourceOrderId with _ | _
  · simp
  rcases env.backend.takesStr (.varchar 120) n.sourceOrderId with _ | _
  · simp
  · simp [foldl_count_outcomes, SyncResult.zero]

theorem StoredWithout.entries {env : SyncEnv} {db : Db} {listing : Table.Listing db.products}
    {before after : List Arrival} {ms ks : List NormalizedOrder}
    (hbefore : normalizeFeed env.py before = .ok ms) (hafter : normalizeFeed env.py after = .ok ks)
    (h : StoredWithout env db listing before after) :
    (∀ m ∈ ms ++ ks, env.backend.takesStr (.varchar 120) m.sourceOrderId = true) ∧
      ∀ outcome ∈ (syncAll env ks (syncAll env ms (startSession env db listing)).2).1,
        outcome.isFailed = false := by
  obtain ⟨r, db', hrun, hstored⟩ := h
  have hshort : normalizeFeed env.py (before ++ after) = .ok (ms ++ ks) :=
    normalizeFeed_append_ok_iff.mpr ⟨ms, ks, hbefore, hafter, rfl⟩
  rw [syncExternalOrders_of_normalized hshort] at hrun
  split at hrun
  · next htaken =>
    cases hrun
    rw [foldl_count_outcomes, syncAll_append, ← normalizeFeed_length hbefore,
      ← syncAll_length env ms (startSession env db listing)] at hstored
    exact ⟨List.all_eq_true.mp htaken, by simpa [SyncResult.zero] using hstored⟩
  · cases hrun

/-- A failed entry leaves the rest of its feed alone as long as no later entry takes
a product that went with its savepoint; and where the later entries are all stored
without it, only then. -/
theorem failed_entry_isolated (env : SyncEnv) (db : Db) (listing : Table.Listing db.products)
    (before after : List Arrival) (failing : Arrival) {ms ks : List NormalizedOrder}
    {n : NormalizedOrder} (hdb : db.ForeignKeys) (hbefore : normalizeFeed env.py before = .ok ms)
    (hfailing : normalizeExternalOrder env.py failing.now failing.raw = .ok n)
    (hafter : normalizeFeed env.py after = .ok ks)
    (hfails : FailsInSavepoint env n (syncAll env ms (startSession env db listing)).2) :
    (KeptApart env (syncAll env ms (startSession env db listing)).2 ms n ks →
      Unharmed env db listing before failing after) ∧
    (StoredWithout env db listing before after → Unharmed env db listing before failing after →
      KeptApart env (syncAll env ms (startSession env db listing)).2 ms n ks) := by
  obtain ⟨houtcome, alike⟩ := failing_reached hdb hfails
  have hlength : ms.length = (syncAll env ms (startSession env db listing)).1.length :=
    (syncAll_length env ms _).symm
  rw [unharmed_iff hbefore hfailing hafter]
  simp only [syncAll_append, syncAll]
  rw [houtcome, hlength, countedAs_eraseIdx]
  constructor
  · intro hkept htaken
    obtain ⟨hcounts, hend⟩ := syncAll_alike alike hkept.unused
    exact ⟨hkept.audited htaken, hcounts, committed_sameButIds hend⟩
  · intro hstored hunharmed
    obtain ⟨htaken, hentries⟩ := hstored.entries hbefore hafter
    obtain ⟨haudited, hcounts, _⟩ := hunharmed htaken
    refine ⟨fun _ => haudited, Bool.eq_false_iff.mpr fun hlost => ?_⟩
    exact syncAll_lost alike hlost hentries hcounts

/-- An item that is known by its name. -/
def namedItem (name : String) (quantity unitPrice : Int) : Json :=
  .obj [("name", .str name), ("quantity", .int quantity), ("unit_price", .int unitPrice)]

def namedOrder (id email : String) (items : List Json) : Obj :=
  [("id", .str id), ("customer_email", .str email), ("items", .arr items)]

/-- The second quantity is out of the range of its column. -/
def oversizedOrder : Arrival :=
  ⟨namedOrder "A-1" "ann@example.com" [namedItem "camera" 1 300, namedItem "strap" 3000000000 1],
    10⟩

/-- The same product again. -/
def cameraOrder : Arrival := ⟨namedOrder "A-2" "ben@example.com" [namedItem "camera" 1 300], 10⟩

def lensOrder : Arrival := ⟨namedOrder "A-3" "cid@example.com" [namedItem "lens" 1 20], 10⟩

theorem empty_foreignKeys : Db.empty.ForeignKeys where
  customer := by
    intro i order id h
    cases h
  order := fun item hitem => absurd hitem List.not_mem_nil
  product := fun item hitem => absurd hitem List.not_mem_nil

/-- `FailsInSavepoint`, to be evaluated. -/
def failsInSavepoint (env : SyncEnv) (n : NormalizedOrder) (s : SyncSession) : Bool :=
  decide (n.sourceOrderId ≠ "") && (storeEntry env n s).1.toOption.isNone

theorem failsInSavepoint_iff {env : SyncEnv} {n : NormalizedOrder} {s : SyncSession} :
    failsInSavepoint env n s = true ↔ FailsInSavepoint env n s := by
  unfold failsInSavepoint FailsInSavepoint
  rw [Bool.and_eq_true, decide_eq_true_iff]
  rcases storeEntry env n s with ⟨exc | stored, m⟩
  · simp [Except.toOption]
  · simp [Except.toOption]

theorem lost_product_fails_later_entry :
    Db.empty.ForeignKeys ∧
    (∃ n, normalizeExternalOrder sampleEnv.py oversizedOrder.now oversizedOrder.raw = .ok n ∧
      FailsInSavepoint sampleEnv n (startSession sampleEnv Db.empty (Table.listing _))) ∧
    ¬ Unharmed sampleEnv Db.empty (Table.listing _) [] oversizedOrder [cameraOrder] := by
  refine ⟨empty_foreignKeys, ?_, ?_⟩
  · obtain ⟨n, hn, hfails⟩ := exists_ok_of_any
      (p := fun n => failsInSavepoint sampleEnv n (startSession sampleEnv Db.empty
        (Table.listing _)))
      (x := normalizeExternalOrder sampleEnv.py oversizedOrder.now oversizedOrder.raw)
      (by decide +kernel)
    exact ⟨n, hn, failsInSavepoint_iff.mp hfails⟩
  · intro hunharmed
    obtain ⟨without, hshort, hcreated⟩ := exists_ok_of_any
      (p := fun x => decide (x.1.outcomes.map countedAs = [some .created]))
      (x := syncExternalOrders sampleEnv Db.empty (Table.listing _) ([] ++ [cameraOrder]))
      (by decide +kernel)
    obtain ⟨committed, hlong, hfailed⟩ := exists_ok_of_any
      (p := fun x => decide (x.1.outcomes.map countedAs = [none, none]))
      (x := syncExternalOrders sampleEnv Db.empty (Table.listing _)
        ([] ++ oversizedOrder :: [cameraOrder]))
      (by decide +kernel)
    have hcounts := hunharmed.counts hshort hlong
    rw [of_decide_eq_true hcreated, of_decide_eq_true hfailed] at hcounts
    cases hcounts

theorem failed_entry_isolated_sample :
    Unharmed sampleEnv Db.empty (Table.listing _) [cameraOrder] oversizedOrder [lensOrder] := by
  obtain ⟨ms, hms, hrest⟩ := exists_ok_of_any
    (p := fun ms => (normalizeExternalOrder sampleEnv.py oversizedOrder.now
        oversizedOrder.raw).toOption.any fun n =>
      (normalizeFeed sampleEnv.py [lensOrder]).toOption.any fun ks =>
        let s := (syncAll sampleEnv ms (startSession sampleEnv Db.empty (Table.listing _))).2
        failsInSavepoint sampleEnv n s &&
          sampleEnv.backend.takesStr (.varchar 120) n.sourceOrderId &&
          !feedTakesLost sampleEnv (usedUp sampleEnv n s).products ks (syncEntry sampleEnv n s).2)
    (x := normalizeFeed sampleEnv.py [cameraOrder]) (by decide +kernel)
  obtain ⟨n, hn, hlater⟩ := exists_ok_of_any hrest
  obtain ⟨ks, hks, hchecks⟩ := exists_ok_of_any hlater
  simp only [Bool.and_eq_true, Bool.not_eq_true'] at hchecks
  obtain ⟨⟨hfails, htaken⟩, hkept⟩ := hchecks
  exact (failed_entry_isolated sampleEnv Db.empty (Table.listing _) [cameraOrder] [lensOrder]
    oversizedOrder empty_foreignKeys hms hn hks (failsInSavepoint_iff.mp hfails)).1
    ⟨fun _ => htaken, hkept⟩

end SyncIsolation
