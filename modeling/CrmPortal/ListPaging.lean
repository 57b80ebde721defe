import CrmPortal.Library.Paging
import CrmPortal.Shops

/-!
# Paging through the lists

`list_orders`, `list_products` and `list_shops` cut a page from a query that is ordered by a
column in which rows may agree. What the description of the parameters says about the rows
is a definition of its own for the products, where the status, its default and
`include_inactive` overlap.
-/

namespace ListPaging

open PyValue IdentityTable CrmDatabase ShopCatalogSync Shops Paging

/-- What the server does with texts: LOWER, LIKE and the collation. -/
structure Dialect where
  lower : String → String
  like : String → String → Bool
  nameLe : String → String → Bool
  total : ∀ a b, nameLe a b = true ∨ nameLe b a = true
  trans : ∀ a b c, nameLe a b = true → nameLe b c = true → nameLe a c = true

structure ListEnv where
  py : Builtins
  dialect : Dialect
  databaseTargetLabel : String
  ordersSyncSourceName : String
  active_normal : py.lower (py.strip "active") = "active"

/-- `limit` as the query parameter admits it. -/
structure PageSize where
  limit : Nat
  positive : 1 ≤ limit
  small : limit ≤ 500

structure OrdersFilter where
  status : String
  customerId : Int
  backlogOnly : Bool

def OrdersFilter.takes (filter : OrdersFilter) (o : Order) : Bool :=
  (decide (filter.status = "") || decide (o.status = some filter.status)) &&
  (decide (filter.customerId = 0) ||
    decide (o.customerId.map Int.ofNat = some filter.customerId)) &&
  (!filter.backlogOnly || decide (o.backlogStatus = some "backlog"))

/-- `status` is `none` where the request does not name one. -/
structure ProductsFilter where
  search : String
  category : String
  shopId : Nat
  status : Option String
  includeInactive : Bool

def searchFilter (env : ListEnv) (search : String) (columns : List String) : Bool :=
  let pattern := "%" ++ env.py.lower search ++ "%"
  columns.any fun column => env.dialect.like (env.dialect.lower column) pattern

def ProductsFilter.takesTexts (env : ListEnv) (filter : ProductsFilter) (p : Product) : Bool :=
  (decide (filter.search = "") ||
    searchFilter env filter.search [p.name, p.sku, p.category.getD ""]) &&
  (decide (filter.category = "") || decide (p.category = some filter.category)) &&
  (decide (filter.shopId = 0) || decide (p.shopId = some filter.shopId))

/-- `(status or "active").strip().lower()`. -/
def ProductsFilter.normalizedStatus (env : ListEnv) (filter : ProductsFilter) : String :=
  let status := filter.status.getD "active"
  env.py.lower (env.py.strip (if status = "" then "active" else status))

def ProductsFilter.takesStatus (env : ListEnv) (filter : ProductsFilter) (p : Product) : Bool :=
  if filter.normalizedStatus env = "active" then decide (p.isActive = some 1)
  else if filter.normalizedStatus env = "inactive" then decide (p.isActive = some 0)
  else if filter.includeInactive = false then decide (p.isActive = some 1)
  else true

def ProductsFilter.takes (env : ListEnv) (filter : ProductsFilter) (p : Product) : Bool :=
  filter.takesTexts env p && filter.takesStatus env p

structure ShopsFilter where
  search : String
  statusFilter : String

def ShopsFilter.takes (env : ListEnv) (filter : ShopsFilter) (s : Shop) : Bool :=
  let normalizedSearch := env.py.lower (env.py.strip filter.search)
  let pattern := "%" ++ normalizedSearch ++ "%"
  (decide (normalizedSearch = "") || [s.name, s.slug, s.region].any fun column =>
    env.dialect.like (env.dialect.lower column) pattern) &&
  (decide (filter.statusFilter = "") ||
    decide (s.status = some (env.py.lower (env.py.strip filter.statusFilter))))

section Rows
variable {Row : Type} {Key : Type} {key : Row → Option Key}

/-- The rows of a query with this WHERE. -/
def selected (table : Table Row key) (takes : Row → Bool) : List (Nat × Row) :=
  table.listing.rows.filter fun row => takes row.2

end Rows

/-- A NULL ranks above all instants. -/
def notOlder : Option DateTime → Option DateTime → Bool
  | none, _ => true
  | some _, none => false
  | some a, some b => decide (b ≤ a)

/-- `created_at DESC`. -/
def newestFirst (a b : Nat × Order) : Prop := notOlder a.2.createdAt b.2.createdAt = true

def productsByName (env : ListEnv) (a b : Nat × Product) : Prop :=
  env.dialect.nameLe a.2.name b.2.name = true

def shopsByName (env : ListEnv) (a b : Nat × Shop) : Prop :=
  env.dialect.nameLe a.2.name b.2.name = true

structure SerializedOrder where
  id : Nat
  customerId : Option Nat
  customerName : String
  customerEmail : String
  total : PyFloat
  status : Option String
  sourceSystem : String
  sourceOrderId : Option String
  syncStatus : String
  backlogStatus : String
  correlationId : Option String
  lastSyncedAt : Option DateTime
  createdAt : Option DateTime

/-- `column or default`. -/
def textOr (column : Option String) (default : String) : String :=
  let text := column.getD ""
  if text = "" then default else text

def serializeOrder (customers : CustomerTable) (row : Nat × Order) : SerializedOrder :=
  let order := row.2
  let customer := order.customerId.bind customers.row
  { id := row.1
    customerId := order.customerId
    customerName := (customer.map Customer.name).getD "Unknown"
    customerEmail := textOr order.sourceCustomerEmail ((customer.map Customer.email).getD "")
    total := floatOrZero order.total
    status := order.status
    sourceSystem := textOr order.sourceSystem "enterprise-crm"
    sourceOrderId := order.sourceOrderId
    syncStatus := textOr order.syncStatus "local"
    backlogStatus := textOr order.backlogStatus "current"
    correlationId := order.correlationId
    lastSyncedAt := order.lastSyncedAt
    createdAt := order.createdAt }

structure OrdersPage where
  orders : List SerializedOrder
  total : Nat
  limit : Nat
  offset : Nat
  databaseTarget : String
  source : String

/-- `answer` is what the server makes of the query without its OFFSET and LIMIT. -/
def listOrders (env : ListEnv) (db : Db) (size : PageSize) (offset : Nat)
    (answer : List (Nat × Order)) : OrdersPage :=
  let payload := (page size.limit offset answer).map (serializeOrder db.customers)
  { orders := payload
    total := payload.length
    limit := size.limit
    offset := offset
    databaseTarget := env.databaseTargetLabel
    source := env.ordersSyncSourceName }

structure ProductsPage where
  products : List SerializedProduct
  total : Nat
  limit : Nat
  offset : Nat

def listProducts (db : Db) (size : PageSize) (offset : Nat) (answer : List (Nat × Product)) :
    ProductsPage :=
  let shopName := fun p : Product => (p.shopId.bind db.shops.row).map Shop.name
  let payload := (page size.limit offset answer).map fun row =>
    serializeProduct row.1 (shopName row.2) row.2
  { products := payload, total := payload.length, limit := size.limit, offset := offset }

structure ShopsPage where
  shops : List SerializedShop
  total : Nat
  limit : Nat
  offset : Nat

def listShops (db : Db) (size : PageSize) (offset : Nat) (answer : List (Nat × Shop)) :
    ShopsPage :=
  let shops := (page size.limit offset answer).map fun row =>
    { id := row.1, shop := row.2, productCount := productCount db row.1 : SerializedShop }
  { shops := shops, total := shops.length, limit := size.limit, offset := offset }

/-- The status that the request asks for, without the default. -/
def ProductsFilter.named (env : ListEnv) (filter : ProductsFilter) : Option String :=
  (filter.status.filter fun status => decide (status ≠ "")).map fun status =>
    env.py.lower (env.py.strip status)

/-- The status that is named decides; if none of the three is, `include_inactive` does. -/
def ProductsFilter.describedStatus (env : ListEnv) (filter : ProductsFilter) (p : Product) : Bool :=
  if filter.named env = some "all" then true
  else if filter.named env = some "active" then decide (p.isActive = some 1)
  else if filter.named env = some "inactive" then decide (p.isActive = some 0)
  else filter.includeInactive || decide (p.isActive = some 1)

/-- `status=all` goes without `include_inactive`, or `include_inactive` without a status. -/
def ProductsFilter.HidesInactive (env : ListEnv) (filter : ProductsFilter) : Prop :=
  match filter.named env with
  | none => filter.includeInactive = true
  | some status => status = "all" ∧ filter.includeInactive = false

/-- The products that the description of the parameters admits. -/
def ProductsFilter.describes (env : ListEnv) (filter : ProductsFilter) (p : Product) : Bool :=
  filter.takesTexts env p && filter.describedStatus env p

section Complete
variable (env : ListEnv) (db : Db) (size : PageSize)

/-- The pages for the offsets 0, `limit`, 2 `limit` and so on have each matching order once. -/
def OrdersComplete (filter : OrdersFilter) : Prop :=
  ∀ answer : Nat → List (Nat × Order),
    (∀ k, Answer newestFirst (selected db.orders filter.takes) (answer k)) →
    ∀ n, (selected db.orders filter.takes).length ≤ size.limit * n →
      ((List.range n).flatMap fun k =>
        (listOrders env db size (size.limit * k) (answer k)).orders.map SerializedOrder.id).Perm
        ((selected db.orders filter.takes).map Prod.fst)

def ProductsComplete (filter : ProductsFilter) : Prop :=
  ∀ answer : Nat → List (Nat × Product),
    (∀ k, Answer (productsByName env) (selected db.products (filter.takes env)) (answer k)) →
    ∀ n, (selected db.products (filter.takes env)).length ≤ size.limit * n →
      ((List.range n).flatMap fun k =>
        (listProducts db size (size.limit * k) (answer k)).products.map SerializedProduct.id).Perm
        ((selected db.products (filter.describes env)).map Prod.fst)

def ShopsComplete (filter : ShopsFilter) : Prop :=
  ∀ answer : Nat → List (Nat × Shop),
    (∀ k, Answer (shopsByName env) (selected db.shops (filter.takes env)) (answer k)) →
    ∀ n, (selected db.shops (filter.takes env)).length ≤ size.limit * n →
      ((List.range n).flatMap fun k =>
        (listShops db size (size.limit * k) (answer k)).shops.map SerializedShop.id).Perm
        ((selected db.shops (filter.takes env)).map Prod.fst)

end Complete

theorem notOlder_total (a b : Option DateTime) : notOlder a b = true ∨ notOlder b a = true := by
  cases a with
  | none => exact .inl rfl
  | some a =>
    cases b with
    | none => exact .inr rfl
    | some b => simpa [notOlder] using Int.le_total b a

theorem notOlder_trans {a b c : Option DateTime} (hab : notOlder a b = true)
    (hbc : notOlder b c = true) : notOlder a c = true := by
  match a, b, c with
  | none, _, _ => rfl
  | some _, none, _ => cases hab
  | some _, some _, none => cases hbc
  | some a, some b, some c =>
    simp only [notOlder, decide_eq_true_eq] at hab hbc ⊢
    exact Int.le_trans hbc hab

instance : DecidableRel newestFirst := fun a b =>
  inferInstanceAs (Decidable (notOlder a.2.createdAt b.2.createdAt = true))

instance : Std.Total newestFirst := ⟨fun _ _ => notOlder_total ..⟩

instance : IsTrans (Nat × Order) newestFirst := ⟨fun _ _ _ => notOlder_trans⟩

section Orders
variable {env : ListEnv}

instance : DecidableRel (productsByName env) := fun a b =>
  inferInstanceAs (Decidable (env.dialect.nameLe a.2.name b.2.name = true))

instance : Std.Total (productsByName env) := ⟨fun _ _ => env.dialect.total ..⟩

instance : IsTrans (Nat × Product) (productsByName env) := ⟨fun _ _ _ => env.dialect.trans _ _ _⟩

instance : DecidableRel (shopsByName env) := fun a b =>
  inferInstanceAs (Decidable (env.dialect.nameLe a.2.name b.2.name = true))

instance : Std.Total (shopsByName env) := ⟨fun _ _ => env.dialect.total ..⟩

instance : IsTrans (Nat × Shop) (shopsByName env) := ⟨fun _ _ _ => env.dialect.trans _ _ _⟩

end Orders

section Identities
variable {Row Key : Type} {key : Row → Option Key} {table : Table Row key}
variable {takes describes : Row → Bool} {l l' : List (Nat × Row)} {limit : Nat}

theorem mem_selected_iff {i : Nat} {r : Row} :
    (i, r) ∈ selected table takes ↔ table.row i = some r ∧ takes r = true := by
  rw [selected, List.mem_filter, table.listing.complete]

theorem selected_nodup : (selected table takes).Nodup :=
  (List.Nodup.of_map _ table.listing.once).filter _

/-- The identity leads back to the row. -/
theorem filterMap_row (h : ∀ x ∈ l, table.row x.1 = some x.2) :
    (l.map Prod.fst).filterMap (fun i => (table.row i).map (Prod.mk i)) = l := by
  rw [List.filterMap_map]
  refine (List.filterMap_congr fun x hx => ?_).trans List.filterMap_some
  rw [Function.comp_apply, h x hx]
  rfl

theorem perm_ids_iff (h : ∀ x ∈ l, table.row x.1 = some x.2)
    (h' : ∀ x ∈ l', table.row x.1 = some x.2) :
    (l.map Prod.fst).Perm (l'.map Prod.fst) ↔ l.Perm l' := by
  refine ⟨fun hids => ?_, fun hrows => hrows.map _⟩
  have hback := hids.filterMap fun i => (table.row i).map (Prod.mk i)
  rwa [filterMap_row h, filterMap_row h'] at hback

theorem mem_of_mem_pages {α : Type} {answer : Nat → List α} {n : Nat} {x : α}
    (h : x ∈ pages limit answer n) : ∃ k, x ∈ answer k := by
  obtain ⟨k, -, hk⟩ := List.mem_flatMap.mp h
  exact ⟨k, List.mem_of_mem_drop (List.mem_of_mem_take hk)⟩

/-- A page that serializes its rows with their identities serves those of the rows. -/
theorem servedIds {Answered : Type} {answer : Nat → List (Nat × Row)} {n : Nat}
    {serialize : Nat × Row → Answered} {id : Answered → Nat}
    (hid : ∀ row, id (serialize row) = row.1) :
    ((List.range n).flatMap fun k =>
      ((page limit (limit * k) (answer k)).map serialize).map id) =
      (pages limit answer n).map Prod.fst := by
  have hserved : id ∘ serialize = Prod.fst := funext hid
  simp only [pages, List.map_flatMap, List.map_map, hserved]

/-- Complete in the identities is complete in the rows. -/
theorem servedComplete_iff {Answered : Type} {le : Nat × Row → Nat × Row → Prop}
    [DecidableRel le] [Std.Total le] [IsTrans (Nat × Row) le] (positive : 1 ≤ limit)
    (serialize : Nat × Row → Answered) (id : Answered → Nat)
    (hid : ∀ row, id (serialize row) = row.1) :
    (∀ answer : Nat → List (Nat × Row), (∀ k, Answer le (selected table takes) (answer k)) →
      ∀ n, (selected table takes).length ≤ limit * n →
        ((List.range n).flatMap fun k =>
          ((page limit (limit * k) (answer k)).map serialize).map id).Perm
          ((selected table describes).map Prod.fst)) ↔
      (selected table takes).Perm (selected table describes) ∧
        WholeGroups limit le (selected table takes) := by
  rw [← noTieAtEnd_iff, ← complete_iff positive selected_nodup]
  refine forall_congr' fun answer => forall_congr' fun hanswer => forall_congr' fun n =>
    forall_congr' fun _ => ?_
  have hpages : ∀ x ∈ pages limit answer n, table.row x.1 = some x.2 := by
    intro x hx
    obtain ⟨k, hk⟩ := mem_of_mem_pages hx
    exact (mem_selected_iff.mp ((hanswer k).perm.mem_iff.mp hk)).1
  have hdescribed : ∀ x ∈ selected table describes, table.row x.1 = some x.2 :=
    fun x hx => (mem_selected_iff.mp hx).1
  rw [servedIds hid]
  exact perm_ids_iff hpages hdescribed

/-- Two conditions select the same rows if they agree on the rows of the table. -/
theorem selected_perm_iff : (selected table takes).Perm (selected table describes) ↔
    ∀ i r, table.row i = some r → takes r = describes r := by
  rw [List.perm_ext_iff_of_nodup selected_nodup selected_nodup]
  constructor
  · intro h i r hrow
    have hsame := h (i, r)
    simp only [mem_selected_iff, hrow, true_and] at hsame
    exact Bool.eq_iff_iff.mpr hsame
  · rintro h ⟨i, r⟩
    simp only [mem_selected_iff]
    exact and_congr_right fun hrow => by rw [h i r hrow]

end Identities

section Completeness
variable {env : ListEnv} {db : Db} {size : PageSize}

/-- The status of the query is the one that is named, or else the default. -/
theorem normalizedStatus_eq (filter : ProductsFilter) :
    filter.normalizedStatus env = (filter.named env).getD "active" := by
  unfold ProductsFilter.normalizedStatus ProductsFilter.named
  cases filter.status with
  | none => simp [env.active_normal]
  | some status =>
    by_cases hempty : status = ""
    · simp [hempty, Option.filter, env.active_normal]
    · simp [hempty, Option.filter]

theorem takesStatus_eq_iff {filter : ProductsFilter} {p : Product} :
    filter.takesStatus env p = filter.describedStatus env p ↔
      (filter.HidesInactive env → p.isActive = some 1) := by
  unfold ProductsFilter.takesStatus ProductsFilter.describedStatus ProductsFilter.HidesInactive
  rw [normalizedStatus_eq]
  cases filter.named env with
  | none => cases filter.includeInactive <;> simp
  | some status =>
    by_cases hall : status = "all"
    · cases filter.includeInactive <;> simp [hall]
    · by_cases hactive : status = "active"
      · simp [hactive]
      · by_cases hinactive : status = "inactive"
        · simp [hinactive]
        · cases filter.includeInactive <;> simp [hall, hactive, hinactive]

theorem takes_eq_iff {filter : ProductsFilter} {p : Product} :
    filter.takes env p = filter.describes env p ↔
      (filter.HidesInactive env → filter.takesTexts env p = true → p.isActive = some 1) := by
  unfold ProductsFilter.takes ProductsFilter.describes
  cases htexts : filter.takesTexts env p with
  | false => simp
  | true => simpa using takesStatus_eq_iff

theorem ordersComplete_iff (filter : OrdersFilter) : OrdersComplete env db size filter ↔
    WholeGroups size.limit newestFirst (selected db.orders filter.takes) :=
  (servedComplete_iff size.positive (serializeOrder db.customers) SerializedOrder.id
    fun _ => rfl).trans (and_iff_right (List.Perm.refl _))

theorem shopsComplete_iff (filter : ShopsFilter) : ShopsComplete env db size filter ↔
    WholeGroups size.limit (shopsByName env) (selected db.shops (filter.takes env)) :=
  (servedComplete_iff size.positive
    (fun row : Nat × Shop =>
      { id := row.1, shop := row.2, productCount := productCount db row.1 : SerializedShop })
    SerializedShop.id fun _ => rfl).trans (and_iff_right (List.Perm.refl _))

theorem described_perm_iff (filter : ProductsFilter) :
    (selected db.products (filter.takes env)).Perm (selected db.products (filter.describes env)) ↔
      (filter.HidesInactive env → ∀ i p, db.products.row i = some p →
        filter.takesTexts env p = true → p.isActive = some 1) := by
  simp only [selected_perm_iff, takes_eq_iff]
  exact ⟨fun h hides i p hrow => h i p hrow hides, fun h i p hrow hides => h hides i p hrow⟩

theorem productsComplete_iff (filter : ProductsFilter) : ProductsComplete env db size filter ↔
    (filter.HidesInactive env → ∀ i p, db.products.row i = some p →
        filter.takesTexts env p = true → p.isActive = some 1) ∧
      WholeGroups size.limit (productsByName env) (selected db.products (filter.takes env)) :=
  (servedComplete_iff size.positive
    (fun row : Nat × Product =>
      serializeProduct row.1 ((row.2.shopId.bind db.shops.row).map Shop.name) row.2)
    SerializedProduct.id fun _ => rfl).trans (and_congr_left' (described_perm_iff filter))

/-- Paging gives each matching row once exactly if no page ends inside of a group of rows that
tie and, for the products, the parameters do not hide a product that is not active. -/
theorem paging_complete_iff (env : ListEnv) (db : Db) (size : PageSize) :
    (∀ filter, OrdersComplete env db size filter ↔
      WholeGroups size.limit newestFirst (selected db.orders filter.takes)) ∧
    (∀ filter, ProductsComplete env db size filter ↔
      (filter.HidesInactive env → ∀ i p, db.products.row i = some p →
        filter.takesTexts env p = true → p.isActive = some 1) ∧
      WholeGroups size.limit (productsByName env) (selected db.products (filter.takes env))) ∧
    ∀ filter, ShopsComplete env db size filter ↔
      WholeGroups size.limit (shopsByName env) (selected db.shops (filter.takes env)) :=
  ⟨ordersComplete_iff, productsComplete_iff, shopsComplete_iff⟩

end Completeness

def sampleDialect : Dialect where
  lower := id
  like := fun _ _ => true
  nameLe := fun a b => decide (a ≤ b)
  total := fun a b => (String.le_total a b).imp decide_eq_true decide_eq_true
  trans := fun _ _ _ hab hbc =>
    decide_eq_true (String.le_trans (of_decide_eq_true hab) (of_decide_eq_true hbc))

theorem ascii_active_normal : Ascii.lower (Ascii.strip "active") = "active" := by
  decide +kernel

def sampleEnv : ListEnv where
  py := asciiBuiltins id
  dialect := sampleDialect
  databaseTargetLabel := "postgresql"
  ordersSyncSourceName := "octo-drone-shop"
  active_normal := ascii_active_normal

def sampleRow : Order where
  customerId := some 1
  total := .fin 10
  status := some "completed"
  notes := none
  shippingAddress := none
  sourceSystem := none
  sourceOrderId := none
  sourceCustomerEmail := none
  syncStatus := none
  backlogStatus := none
  syncError := none
  sourcePayload := none
  correlationId := none
  lastSyncedAt := none
  createdAt := some 0

def retired : Product where
  shopId := none
  name := "Kite"
  sku := "KITE"
  description := none
  price := .fin 10
  stock := some 1
  category := none
  imageUrl := none
  isActive := some 0

section Tables
variable {Row Key : Type} [DecidableEq Key] {key : Row → Option Key}

def filled (rows : List Row) : Table Row key :=
  rows.foldl (fun table row => ((table.insert row).map Prod.snd).getD table) Table.empty

end Tables

def sampleDb : Db :=
  { Db.empty with orders := filled [sampleRow, sampleRow], products := filled [retired] }

def oneRow : PageSize := ⟨1, by decide, by decide⟩

def everyOrder : OrdersFilter := ⟨"", 0, false⟩

def everyProduct : ProductsFilter := ⟨"", "", 0, some "all", false⟩

theorem sampleDb_orders : (1, sampleRow) ∈ selected sampleDb.orders everyOrder.takes := by
  decide +kernel

theorem everyProduct_hides : everyProduct.HidesInactive sampleEnv := by
  have hnamed : everyProduct.named sampleEnv = some "all" := by decide +kernel
  rw [ProductsFilter.HidesInactive, hnamed]
  exact ⟨rfl, rfl⟩

/-- The second page may repeat the order of the first; with `status=all` the product that is
not active is on no page. -/
theorem rows_lost_by_paging :
    ¬ OrdersComplete sampleEnv sampleDb oneRow everyOrder ∧
      ¬ ProductsComplete sampleEnv sampleDb oneRow everyProduct := by
  constructor
  · intro hcomplete
    have hgroups := (ordersComplete_iff everyOrder).mp hcomplete (1, sampleRow) sampleDb_orders 1
    exact absurd hgroups (by decide +kernel)
  · intro hcomplete
    obtain ⟨hactive, -⟩ := (productsComplete_iff everyProduct).mp hcomplete
    exact absurd (hactive everyProduct_hides 1 retired (by decide +kernel) (by decide +kernel))
      (by decide)

end ListPaging
