import CrmPortal.Library.Paging
import CrmPortal.Library.Grouping
import CrmPortal.OrderTotals

/-!
# The revenue of the regions and the conversion funnel

`revenue_by_region` joins the shipments with their orders and sums the joined rows: an order
is in the sum once for each of its shipments. `conversion_funnel` counts leads, customers and
at last orders, of which one customer may have many.
-/

namespace Analytics

open PyValue IdentityTable CrmDatabase OrderTotals
open Grouping (repeats perm_dedup_append mem_of_mem_repeats)

structure Shipment where
  orderId : Option Nat
  destinationRegion : Option String
  shippingCost : Option PyFloat
  deriving DecidableEq

structure RegionRow where
  destinationRegion : Option String
  orderCount : Nat
  totalRevenue : PyFloat
  totalShippingCost : PyFloat
  deriving DecidableEq

section Revenue
variable (shipments : List Shipment) (orders : OrderTable)

/-- The LEFT JOIN: a NULL and a dangling id have no order. -/
def joinedShipments : List (Shipment × Option (Nat × Order)) :=
  shipments.map fun s => (s, s.orderId.bind fun id => (orders.row id).map (Prod.mk id))

/-- The aggregates of one group; SUM and COUNT leave the NULLs out. -/
def regionRow (region : Option String) : RegionRow :=
  let group := (joinedShipments shipments orders).filter fun row =>
    decide (row.1.destinationRegion = region)
  { destinationRegion := region
    orderCount := (group.filterMap fun row => row.1.orderId).dedup.length
    totalRevenue := (group.filterMap fun row => row.2.map fun order => order.2.total).sum
    totalShippingCost := (group.filterMap fun row => row.1.shippingCost).sum }

def regionRows : List RegionRow :=
  (shipments.map Shipment.destinationRegion).dedup.map (regionRow shipments orders)

/-- `total_revenue DESC`; the server ranks a NaN above all numbers. -/
def highestFirst (a b : RegionRow) : Prop :=
  a.totalRevenue = .nan ∨ PyFloat.le b.totalRevenue a.totalRevenue = true

structure RevenueByRegion where
  regions : List RegionRow
  total : Nat

/-- `rows` is the answer of the server. -/
def revenueByRegion (rows : List RegionRow) : RevenueByRegion where
  regions := rows
  total := rows.length

/-- The existing orders with a shipment to the region, each once. -/
def ordersShippedTo (region : Option String) : List (Nat × Order) :=
  orders.listing.rows.filter fun row => shipments.any fun s =>
    decide (s.orderId = some row.1) && decide (s.destinationRegion = region)

/-- The orders of the shipments to the region, each once for every such shipment. -/
def shippedRows (region : Option String) : List (Nat × Order) :=
  (shipments.filter fun s => decide (s.destinationRegion = region)).filterMap fun s =>
    s.orderId.bind fun id => (orders.row id).map (Prod.mk id)

/-- The totals of the orders, each once for every shipment to the region but one. -/
def surplus (region : Option String) : List PyFloat :=
  (repeats (shippedRows shipments orders region)).map fun row => row.2.total

end Revenue

variable {shipments : List Shipment} {orders : OrderTable} {region : Option String}

theorem totalRevenue_eq : (regionRow shipments orders region).totalRevenue =
    ((shippedRows shipments orders region).map fun row => row.2.total).sum := by
  simp only [regionRow, joinedShipments, shippedRows, List.filter_map, List.filterMap_map,
    List.map_filterMap]
  rfl

theorem mem_shippedRows_iff {row : Nat × Order} : row ∈ shippedRows shipments orders region ↔
    row ∈ ordersShippedTo shipments orders region := by
  simp only [shippedRows, ordersShippedTo, List.mem_filterMap, List.mem_filter, List.any_eq_true,
    Bool.and_eq_true, decide_eq_true_iff, Option.bind_eq_some_iff, Option.map_eq_some_iff]
  constructor
  · rintro ⟨s, ⟨hs, hregion⟩, id, hid, order, horder, rfl⟩
    exact ⟨(orders.listing.complete id order).mpr horder, s, hs, hid, hregion⟩
  · rintro ⟨hrow, s, hs, hid, hregion⟩
    exact ⟨s, ⟨hs, hregion⟩, row.1, hid, row.2, (orders.listing.complete _ _).mp hrow, rfl⟩

theorem ordersShippedTo_nodup : (ordersShippedTo shipments orders region).Nodup :=
  (List.Nodup.of_map _ orders.listing.once).filter _

/-- The orders that are counted once, and the others. -/
theorem shippedRows_perm : (shippedRows shipments orders region).Perm
    (ordersShippedTo shipments orders region ++ repeats (shippedRows shipments orders region)) := by
  refine (perm_dedup_append _).trans (List.Perm.append_right _ ?_)
  rw [List.perm_ext_iff_of_nodup (List.nodup_dedup _) ordersShippedTo_nodup]
  intro row
  rw [List.mem_dedup, mem_shippedRows_iff]

theorem totalRevenue_split : (regionRow shipments orders region).totalRevenue =
    ((ordersShippedTo shipments orders region).map fun row => row.2.total).sum +
      (surplus shipments orders region).sum := by
  rw [totalRevenue_eq, (shippedRows_perm.map _).sum_eq, List.map_append, List.sum_append]
  rfl

/-- `order_count` counts these orders, if no shipment names one that is gone. -/
theorem orderCount_eq
    (present : ∀ s ∈ shipments, ∀ id, s.orderId = some id → ∃ o, orders.row id = some o) :
    (regionRow shipments orders region).orderCount =
      (ordersShippedTo shipments orders region).length := by
  rw [← List.length_map (f := Prod.fst)]
  refine List.Perm.length_eq ?_
  have honce : ((ordersShippedTo shipments orders region).map Prod.fst).Nodup :=
    orders.listing.once.sublist (List.filter_sublist.map _)
  rw [List.perm_ext_iff_of_nodup (List.nodup_dedup _) honce]
  intro id
  simp only [joinedShipments, List.filter_map, List.filterMap_map, List.mem_dedup,
    List.mem_filterMap, List.mem_filter, Function.comp_apply, decide_eq_true_iff, List.mem_map,
    ordersShippedTo, List.any_eq_true, Bool.and_eq_true]
  constructor
  · rintro ⟨s, ⟨hs, hregion⟩, hid⟩
    obtain ⟨o, ho⟩ := present s hs id hid
    exact ⟨(id, o), ⟨(orders.listing.complete id o).mpr ho, s, hs, hid, hregion⟩, rfl⟩
  · rintro ⟨row, ⟨-, s, hs, hid, hregion⟩, rfl⟩
    exact ⟨s, ⟨hs, hregion⟩, hid⟩

def Finite (x : PyFloat) : Prop := ∃ q, x = .fin q

theorem finite_add_iff {x y : PyFloat} : Finite (x + y) ↔ Finite x ∧ Finite y := by
  change Finite (x.add y) ↔ Finite x ∧ Finite y
  cases x <;> cases y <;> simp [Finite, PyFloat.add]

theorem finite_sum_iff {xs : List PyFloat} : Finite xs.sum ↔ ∀ x ∈ xs, Finite x := by
  induction xs with
  | nil =>
    simp only [List.sum_nil, List.not_mem_nil, false_implies, implies_true, iff_true]
    exact ⟨0, rfl⟩
  | cons x xs ih => rw [List.sum_cons, finite_add_iff, ih, List.forall_mem_cons]

theorem add_self_of_not_finite {x : PyFloat} (h : ¬ Finite x) : x + x = x := by
  cases x with
  | fin q => exact absurd ⟨q, rfl⟩ h
  | inf => rfl
  | ninf => rfl
  | nan => rfl

theorem add_finite {x y : PyFloat} (h : ¬ Finite x) (hy : Finite y) : x + y = x := by
  obtain ⟨q, rfl⟩ := hy
  cases x with
  | fin p => exact absurd ⟨p, rfl⟩ h
  | inf => rfl
  | ninf => rfl
  | nan => rfl

/-- A sum that is not a number stays the same when a member is added again. -/
theorem sum_add_member {xs : List PyFloat} {y : PyFloat} (h : ¬ Finite xs.sum) (hy : y ∈ xs) :
    xs.sum + y = xs.sum := by
  by_cases hfinite : Finite y
  · exact add_finite h hfinite
  · have hsum : xs.sum = y + (xs.erase y).sum := by
      rw [(List.perm_cons_erase hy).sum_eq, List.sum_cons]
    calc xs.sum + y = y + (xs.erase y).sum + y := by rw [hsum]
      _ = y + y + (xs.erase y).sum := add_right_comm ..
      _ = xs.sum := by rw [add_self_of_not_finite hfinite, hsum]

theorem sum_add_members {xs ys : List PyFloat} (h : ¬ Finite xs.sum) (hys : ∀ y ∈ ys, y ∈ xs) :
    xs.sum + ys.sum = xs.sum := by
  induction ys with
  | nil => exact add_zero _
  | cons y ys ih =>
    obtain ⟨hy, hrest⟩ := List.forall_mem_cons.mp hys
    rw [List.sum_cons, ← add_assoc, sum_add_member h hy, ih hrest]

theorem add_eq_self_iff {x y : PyFloat} (h : Finite x) : x + y = x ↔ y = 0 := by
  obtain ⟨p, rfl⟩ := h
  change (PyFloat.fin p).add y = .fin p ↔ y = .fin 0
  cases y <;> simp [PyFloat.add]

/-- Adding members again changes nothing exactly if they come to zero or there is no number
to change. -/
theorem sum_add_eq_self_iff {xs ys : List PyFloat} (hys : ∀ y ∈ ys, y ∈ xs) :
    xs.sum + ys.sum = xs.sum ↔ ys.sum = 0 ∨ ∃ x ∈ xs, ¬ Finite x := by
  by_cases hfinite : Finite xs.sum
  · rw [add_eq_self_iff hfinite]
    have hall := finite_sum_iff.mp hfinite
    exact ⟨Or.inl, fun h => h.elim id fun ⟨x, hx, hnot⟩ => absurd (hall x hx) hnot⟩
  · refine ⟨fun _ => Or.inr ?_, fun _ => sum_add_members hfinite hys⟩
    by_contra hnone
    exact hfinite (finite_sum_iff.mpr fun x hx => by_contra fun hnot => hnone ⟨x, hx, hnot⟩)

theorem surplus_member {x : PyFloat} (h : x ∈ surplus shipments orders region) :
    x ∈ (ordersShippedTo shipments orders region).map fun row => row.2.total := by
  obtain ⟨row, hrow, rfl⟩ := List.mem_map.mp h
  exact List.mem_map_of_mem (mem_shippedRows_iff.mp (mem_of_mem_repeats hrow))

theorem mem_regionRows {row : RegionRow} (h : row ∈ regionRows shipments orders) :
    row = regionRow shipments orders row.destinationRegion := by
  obtain ⟨region, -, rfl⟩ := List.mem_map.mp h
  rfl

/-- The revenue of a region is that of its orders exactly if what the other shipments of
these orders add comes to zero, or some total is no number. -/
theorem region_revenue_iff {rows : List RegionRow}
    (answer : Paging.Answer highestFirst (regionRows shipments orders) rows) {row : RegionRow}
    (listed : row ∈ (revenueByRegion rows).regions) :
    row.totalRevenue =
        ((ordersShippedTo shipments orders row.destinationRegion).map fun row => row.2.total).sum ↔
      (surplus shipments orders row.destinationRegion).sum = 0 ∨
        ∃ order ∈ ordersShippedTo shipments orders row.destinationRegion,
          ¬ Finite order.2.total := by
  have hrow := mem_regionRows (answer.perm.mem_iff.mp listed)
  have htotal : row.totalRevenue =
      ((ordersShippedTo shipments orders row.destinationRegion).map fun row => row.2.total).sum +
        (surplus shipments orders row.destinationRegion).sum :=
    (congrArg RegionRow.totalRevenue hrow).trans totalRevenue_split
  rw [htotal, sum_add_eq_self_iff fun _ => surplus_member]
  simp only [List.mem_map, exists_exists_and_eq_and]

def sampleOrder (customer : Nat) : Order where
  customerId := some customer
  total := .fin 100
  status := none
  notes := none
  shippingAddress := none
  sourceSystem := none
  sourceOrderId := none
  sourceCustomerEmail := none
  syncStatus := none
  backlogStatus := none
  syncError := none
  sourcePayload := none
  correlationId := none
  lastSyncedAt := none
  createdAt := none

def added (orders : OrderTable) (o : Order) : OrderTable :=
  ((orders.insert o).map Prod.snd).getD orders

def oneOrder : OrderTable := added Table.empty (sampleOrder 1)

def toEurope : Shipment := ⟨some 1, some "eu", some (.fin 5)⟩

theorem regionRows_answer (shipments : List Shipment)
    (single : (regionRows shipments oneOrder).length = 1) :
    Paging.Answer highestFirst (regionRows shipments oneOrder) (regionRows shipments oneOrder) := by
  obtain ⟨row, hrow⟩ := List.length_eq_one_iff.mp single
  rw [hrow]
  exact ⟨List.Perm.refl _, List.pairwise_singleton _ _⟩

theorem europe_listed (shipments : List Shipment) (h : toEurope ∈ shipments) :
    regionRow shipments oneOrder (some "eu") ∈
      (revenueByRegion (regionRows shipments oneOrder)).regions :=
  List.mem_map_of_mem (List.mem_dedup.mpr (List.mem_map_of_mem h))

theorem single_shipment_revenue :
    (regionRow [toEurope] oneOrder (some "eu")).totalRevenue =
      ((ordersShippedTo [toEurope] oneOrder (some "eu")).map fun row => row.2.total).sum :=
  (region_revenue_iff (regionRows_answer [toEurope] (by decide +kernel))
    (europe_listed [toEurope] List.mem_cons_self)).mpr (Or.inl (by decide +kernel))

/-- An order in two shipments is in the revenue of the region twice. -/
theorem split_shipment_counts_twice :
    Paging.Answer highestFirst (regionRows [toEurope, toEurope] oneOrder)
      (regionRows [toEurope, toEurope] oneOrder) ∧
    regionRow [toEurope, toEurope] oneOrder (some "eu") ∈
      (revenueByRegion (regionRows [toEurope, toEurope] oneOrder)).regions ∧
    (regionRow [toEurope, toEurope] oneOrder (some "eu")).orderCount = 1 ∧
    (regionRow [toEurope, toEurope] oneOrder (some "eu")).totalRevenue = .fin 200 ∧
    ((ordersShippedTo [toEurope, toEurope] oneOrder (some "eu")).map
      fun row => row.2.total).sum = .fin 100 :=
  ⟨regionRows_answer _ (by decide +kernel), europe_listed _ List.mem_cons_self,
    by decide +kernel, by decide +kernel, by decide +kernel⟩

structure Lead where
  status : Option String
  customerId : Option Nat
  deriving DecidableEq

structure Funnel where
  leads : Nat
  qualified : Nat
  convertedToCustomer : Nat
  placedOrder : Nat
  deriving DecidableEq

section Funnel
variable (leads : List Lead) (orders : OrderTable)

/-- The `customer_id` of the rows with the status `converted`, less the NULLs. -/
def convertedCustomers : List Nat :=
  (leads.filter fun l => decide (l.status = some "converted")).filterMap Lead.customerId

/-- The identities of the INNER JOIN: an order once for every converted lead of its customer. -/
def joinedOrders : List Nat :=
  orders.listing.rows.flatMap fun row =>
    (leads.filter fun l => decide (l.customerId.isSome ∧ l.customerId = row.2.customerId) &&
      decide (l.status = some "converted")).map fun _ => row.1

def conversionFunnel : Funnel where
  leads := leads.length
  qualified := leads.countP fun l =>
    decide (l.status = some "qualified") || decide (l.status = some "converted")
  convertedToCustomer := (convertedCustomers leads).dedup.length
  placedOrder := (joinedOrders leads orders).dedup.length

/-- No customer of a converted lead has two orders. -/
def OneOrderEach : Prop :=
  ∀ i j o p customer, orders.row i = some o → orders.row j = some p →
    o.customerId = some customer → p.customerId = some customer →
    customer ∈ convertedCustomers leads → i = j

end Funnel

variable {leads : List Lead}

theorem mem_convertedCustomers_iff {customer : Nat} : customer ∈ convertedCustomers leads ↔
    ∃ l ∈ leads, l.status = some "converted" ∧ l.customerId = some customer := by
  simp only [convertedCustomers, List.mem_filterMap, List.mem_filter, decide_eq_true_iff, and_assoc]

theorem mem_joinedOrders {id : Nat} (h : id ∈ joinedOrders leads orders) :
    ∃ o customer, orders.row id = some o ∧ o.customerId = some customer ∧
      customer ∈ convertedCustomers leads := by
  obtain ⟨⟨i, o⟩, hrow, hid⟩ := List.mem_flatMap.mp h
  obtain ⟨l, hl, rfl⟩ := List.mem_map.mp hid
  simp only [List.mem_filter, Bool.and_eq_true, decide_eq_true_iff] at hl
  obtain ⟨hlead, ⟨hsome, hsame⟩, hstatus⟩ := hl
  obtain ⟨customer, hcustomer⟩ := Option.isSome_iff_exists.mp hsome
  refine ⟨o, customer, (orders.listing.complete i o).mp hrow, hsame ▸ hcustomer, ?_⟩
  exact mem_convertedCustomers_iff.mpr ⟨l, hlead, hstatus, hcustomer⟩

theorem qualified_le : (conversionFunnel leads orders).qualified ≤
    (conversionFunnel leads orders).leads := List.countP_le_length

theorem converted_le : (conversionFunnel leads orders).convertedToCustomer ≤
    (conversionFunnel leads orders).qualified := by
  calc (convertedCustomers leads).dedup.length
      ≤ (convertedCustomers leads).length := (List.dedup_sublist _).length_le
    _ ≤ (leads.filter fun l => decide (l.status = some "converted")).length :=
        List.length_filterMap_le ..
    _ = leads.countP fun l => decide (l.status = some "converted") :=
        List.countP_eq_length_filter.symm
    _ ≤ (conversionFunnel leads orders).qualified :=
        List.countP_mono_left fun l _ h => by simp [of_decide_eq_true h]

/-- The customer of an order tells the orders apart. -/
theorem placed_le (once : OneOrderEach leads orders) :
    (conversionFunnel leads orders).placedOrder ≤
      (conversionFunnel leads orders).convertedToCustomer := by
  let customerOf := fun id => ((orders.row id).bind Order.customerId).getD 0
  have hof : ∀ id ∈ joinedOrders leads orders, ∃ o, orders.row id = some o ∧
      o.customerId = some (customerOf id) ∧ customerOf id ∈ convertedCustomers leads := by
    intro id hid
    obtain ⟨o, customer, hrow, hcustomer, hmem⟩ := mem_joinedOrders hid
    have hsame : customerOf id = customer := by simp [customerOf, hrow, hcustomer]
    exact ⟨o, hrow, hsame ▸ hcustomer, hsame ▸ hmem⟩
  have hinj : ((joinedOrders leads orders).dedup.map customerOf).Nodup := by
    refine (List.nodup_dedup _).map_on fun i hi j hj hsame => ?_
    obtain ⟨o, ho, hcustomer, hmem⟩ := hof i (List.mem_dedup.mp hi)
    obtain ⟨p, hp, hcustomer', -⟩ := hof j (List.mem_dedup.mp hj)
    exact once i j o p (customerOf i) ho hp hcustomer (hsame ▸ hcustomer') hmem
  have hsub : (joinedOrders leads orders).dedup.map customerOf ⊆
      (convertedCustomers leads).dedup := by
    intro customer hcustomer
    obtain ⟨id, hid, rfl⟩ := List.mem_map.mp hcustomer
    obtain ⟨_, -, -, hmem⟩ := hof id (List.mem_dedup.mp hid)
    exact List.mem_dedup.mpr hmem
  have hle := (List.subperm_of_subset hinj hsub).length_le
  rwa [List.length_map] at hle

/-- The first three stages narrow, and the last one does where it counts one order a customer. -/
theorem funnel_narrows (leads : List Lead) (orders : OrderTable) :
    (conversionFunnel leads orders).qualified ≤ (conversionFunnel leads orders).leads ∧
    (conversionFunnel leads orders).convertedToCustomer ≤
      (conversionFunnel leads orders).qualified ∧
    (OneOrderEach leads orders → (conversionFunnel leads orders).placedOrder ≤
      (conversionFunnel leads orders).convertedToCustomer) :=
  ⟨qualified_le, converted_le, placed_le⟩

def convertedLead : Lead := ⟨some "converted", some 1⟩

theorem oneOrder_each : OneOrderEach [convertedLead] oneOrder := by
  intro i j o p _ ho hp _ _ _
  have hi := Table.lt_next ho
  have hj := Table.lt_next hp
  have hnext : oneOrder.next = 2 := by decide +kernel
  have hzero : oneOrder.row 0 = none := by decide +kernel
  have hpos : ∀ {k : Nat} {q : Order}, oneOrder.row k = some q → k ≠ 0 := by
    rintro k q hq rfl
    rw [hzero] at hq
    cases hq
  have hi0 := hpos ho
  have hj0 := hpos hp
  omega

theorem one_order_narrows :
    (conversionFunnel [convertedLead] oneOrder).placedOrder ≤
      (conversionFunnel [convertedLead] oneOrder).convertedToCustomer :=
  (funnel_narrows [convertedLead] oneOrder).2.2 oneOrder_each

/-- One customer with two orders. -/
theorem second_order_widens :
    conversionFunnel [convertedLead] (added oneOrder (sampleOrder 1)) = ⟨1, 1, 1, 2⟩ := by
  decide +kernel

end Analytics
