import CrmPortal.Library.IdentityTable
import CrmPortal.PyValue

/-!
# The tables of the CRM database

Rows carry the columns that the modelled code reads or writes; nullable columns
are options. UNIQUE constraints are part of the tables. What a column takes of
the values bound to it (length, type, range) is the server's and the driver's
business and a parameter, `Backend`. Columns filled from the configuration, from
generated identifiers or from the clock are taken to fit.
-/

namespace CrmDatabase

open PyValue IdentityTable

inductive ColumnType where
  | varchar (length : Nat)
  | text
  deriving DecidableEq

/-- What a text or an integer column stores for a JSON value bound to it, `none`
when the driver or the server refuses it, and the numbers a float column takes. -/
structure Backend where
  bindText : ColumnType → Json → Option String
  bindText_str : ∀ c s t, bindText c (.str s) = some t → t = s
  bindInt : Json → Option Int
  bindInt_int : ∀ n m, bindInt (.int n) = some m → m = n
  takesFloat : PyFloat → Bool

/-- An integer in the range of the integer columns. -/
def Backend.takesInt (b : Backend) (n : Int) : Bool := (b.bindInt (.int n)).isSome

/-- What a nullable text column stores for a JSON value: a null stays a null. -/
def Backend.bindNullable (b : Backend) (c : ColumnType) (v : Json) : Option (Option String) :=
  match v with
  | .null => some none
  | v => (b.bindText c v).map some

def Backend.takesStr (b : Backend) (c : ColumnType) (s : String) : Bool :=
  (b.bindText c (.str s)).isSome

theorem Backend.bindText_of_takesStr {b : Backend} {c : ColumnType} {s : String}
    (h : b.takesStr c s = true) : b.bindText c (.str s) = some s := by
  obtain ⟨t, ht⟩ := Option.isSome_iff_exists.mp h
  rw [ht, b.bindText_str c s t ht]

/-- PostgreSQL behind a driver that binds text columns to strings only. -/
def postgres : Backend where
  bindText := fun column value =>
    match value with
    | .str s =>
      let fits := match column with
        | .varchar length => decide (s.length ≤ length)
        | .text => true
      if fits && !s.toList.contains (Char.ofNat 0) then some s else none
    | _ => none
  bindText_str := by
    intro c s t h
    simp only [Option.ite_none_right_eq_some] at h
    exact (Option.some.inj h.2).symm
  bindInt := fun value =>
    match value with
    | .int n => if -(2 ^ 31) ≤ n ∧ n < 2 ^ 31 then some n else none
    | _ => none
  bindInt_int := by
    intro n m h
    simp only [Option.ite_none_right_eq_some] at h
    exact (Option.some.inj h.2).symm
  takesFloat := fun _ => true

structure Customer where
  name : String
  email : String
  phone : Option String
  company : Option String
  industry : Option String
  revenue : Option PyFloat
  notes : Option String
  deriving DecidableEq

structure Shop where
  name : String
  slug : String
  storefrontUrl : String
  crmBaseUrl : String
  region : String
  currency : Option String
  status : Option String
  notes : Option String
  deriving DecidableEq

structure Product where
  shopId : Option Nat
  name : String
  sku : String
  description : Option String
  price : PyFloat
  stock : Option Int
  category : Option String
  imageUrl : Option String
  isActive : Option Int
  deriving DecidableEq

structure Order where
  customerId : Option Nat
  total : PyFloat
  status : Option String
  notes : Option String
  shippingAddress : Option String
  sourceSystem : Option String
  sourceOrderId : Option String
  sourceCustomerEmail : Option String
  syncStatus : Option String
  backlogStatus : Option String
  syncError : Option String
  sourcePayload : Option String
  correlationId : Option String
  lastSyncedAt : Option DateTime
  createdAt : Option DateTime
  deriving DecidableEq

structure OrderItem where
  orderId : Nat
  productId : Option Nat
  quantity : Int
  unitPrice : PyFloat
  deriving DecidableEq

/-- `str(exc)` is kept symbolic. -/
inductive Message where
  | text (s : String)
  | strOf (exc : PyExc)
  deriving DecidableEq

structure OrderSyncAudit where
  sourceSystem : String
  sourceOrderId : String
  syncAction : String
  syncStatus : String
  message : Message
  correlationId : String
  traceId : String
  deriving DecidableEq

structure AuditLog where
  userId : Option Int
  action : String
  resource : String
  details : String
  ipAddress : Option String
  userAgent : Option String
  traceId : String
  deriving DecidableEq

def Customer.emailKey (c : Customer) : Option String := some c.email

def Shop.slugKey (s : Shop) : Option String := some s.slug

def Product.skuKey (p : Product) : Option String := some p.sku

/-- UNIQUE(source_system, source_order_id); a NULL in either takes the row out. -/
def Order.sourceKey (o : Order) : Option (String × String) :=
  match o.sourceSystem, o.sourceOrderId with
  | some system, some id => some (system, id)
  | _, _ => none

abbrev CustomerTable := Table Customer Customer.emailKey
abbrev ShopTable := Table Shop Shop.slugKey
abbrev ProductTable := Table Product Product.skuKey
abbrev OrderTable := Table Order Order.sourceKey

structure Db where
  customers : CustomerTable
  shops : ShopTable
  products : ProductTable
  orders : OrderTable
  orderItems : List OrderItem
  orderSyncAudit : List OrderSyncAudit
  auditLogs : List AuditLog

namespace Db

def empty : Db :=
  ⟨Table.empty, Table.empty, Table.empty, Table.empty, [], [], []⟩

/-- The rows of `db`, with the identities used since then left used. -/
def rollback (db later : Db) : Db where
  customers := db.customers.rollback later.customers
  shops := db.shops.rollback later.shops
  products := db.products.rollback later.products
  orders := db.orders.rollback later.orders
  orderItems := db.orderItems
  orderSyncAudit := db.orderSyncAudit
  auditLogs := db.auditLogs

def itemsOf (db : Db) (orderId : Nat) : List OrderItem :=
  db.orderItems.filter (fun item => decide (item.orderId = orderId))

/-- The REFERENCES clauses of the order tables. -/
structure ForeignKeys (db : Db) : Prop where
  customer : ∀ i order id, db.orders.row i = some order → order.customerId = some id →
    (db.customers.row id).isSome
  order : ∀ item ∈ db.orderItems, (db.orders.row item.orderId).isSome
  product : ∀ item ∈ db.orderItems, ∀ id, item.productId = some id → (db.products.row id).isSome

/-- The same rows everywhere; only unused identities may differ. -/
structure SameRows (a b : Db) : Prop where
  customers : ∀ i, a.customers.row i = b.customers.row i
  shops : ∀ i, a.shops.row i = b.shops.row i
  products : ∀ i, a.products.row i = b.products.row i
  orders : ∀ i, a.orders.row i = b.orders.row i
  orderItems : a.orderItems = b.orderItems
  orderSyncAudit : a.orderSyncAudit = b.orderSyncAudit
  auditLogs : a.auditLogs = b.auditLogs

theorem SameRows.refl (db : Db) : SameRows db db :=
  ⟨fun _ => rfl, fun _ => rfl, fun _ => rfl, fun _ => rfl, rfl, rfl, rfl⟩

theorem SameRows.trans {a b c : Db} (h : SameRows a b) (k : SameRows b c) : SameRows a c where
  customers := fun i => (h.customers i).trans (k.customers i)
  shops := fun i => (h.shops i).trans (k.shops i)
  products := fun i => (h.products i).trans (k.products i)
  orders := fun i => (h.orders i).trans (k.orders i)
  orderItems := h.orderItems.trans k.orderItems
  orderSyncAudit := h.orderSyncAudit.trans k.orderSyncAudit
  auditLogs := h.auditLogs.trans k.auditLogs

theorem rollback_sameRows (db later : Db) : SameRows (db.rollback later) db :=
  ⟨fun _ => rfl, fun _ => rfl, fun _ => rfl, fun _ => rfl, rfl, rfl, rfl⟩

end Db
end CrmDatabase
