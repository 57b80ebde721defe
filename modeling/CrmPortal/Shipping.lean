import CrmPortal.Analytics
import CrmPortal.ColumnValues
import CrmPortal.ListPaging
import CrmPortal.Library.Grouping

/-!
# Shipments

A shipment is joined with its order and the customer of that, and its history is made up from
its status when it is read. What a creation records after its commit can still fail: the
shipment is then there and the answer is an error. `shipments_by_region` groups by two
regions what `revenue_by_region` groups by one.
-/

namespace Shipping

open PyValue IdentityTable UnitOfWork CrmDatabase Customers ColumnValues ListPaging Grouping

structure Shipment where
  orderId : Option Nat
  trackingNumber : Option String
  carrier : Option String
  status : Option String
  originRegion : Option String
  destinationRegion : Option String
  weightKg : Option PyFloat
  shippingCost : Option PyFloat
  estimatedDelivery : Option DateTime
  actualDelivery : Option DateTime
  createdAt : Option DateTime

abbrev ShipmentTable := Table Shipment noKey

/-- The orders are those of the time of the request. -/
structure ShippingEnv extends BodyEnv where
  orderExists : Nat → Bool

inductive Answer where
  | created (shipmentId : Nat)
  | updated (shipmentId : Int) (newStatus : Json)

/-- The row that is inserted; a null takes the default of a column that has one. -/
def shipmentRow (env : ShippingEnv) (body : Obj) : Except PyExc Shipment := do
  let orderId ← bindReference env.backend env.orderExists (body.get "order_id")
  let trackingNumber ← env.bindNullableText (.varchar 100) (body.getD "tracking_number" (.str ""))
  let carrier ← env.bindNullableText (.varchar 100) (body.getD "carrier" (.str ""))
  let originRegion ← env.bindNullableText (.varchar 50) (body.getD "origin_region" (.str ""))
  let destinationRegion ← env.bindNullableText (.varchar 50)
    (body.getD "destination_region" (.str ""))
  let weightKg ← orDataError (env.bindNullableFloat (body.getD "weight_kg" (.float .zero)))
  let shippingCost ← orDataError (env.bindNullableFloat (body.getD "shipping_cost" (.float .zero)))
  let estimatedDelivery ← env.bindNullableDateTime (body.get "estimated_delivery")
  return {
    orderId, trackingNumber, carrier, originRegion, destinationRegion, estimatedDelivery
    status := some "processing"
    weightKg := some (weightKg.getD .zero)
    shippingCost := some (shippingCost.getD .zero)
    actualDelivery := none
    createdAt := some env.now }

def insertShipment (env : ShippingEnv) (body : Obj) (t : ShipmentTable) :
    Except PyExc ShipmentTable := do
  let row ← shipmentRow env body
  match t.insert row with
  | none => .error .integrityError
  | some (_, t) => .ok t

/-- `if v: v[:30]`, of a string or a list. -/
def label (v : Json) : Except PyExc Unit :=
  match v with
  | .str _ | .arr _ => .ok ()
  | v => if v.truthy then .error .typeError else .ok ()

/-- What is recorded after the commit. -/
def recordShipment (py : Builtins) (body : Obj) : Except PyExc Unit := do
  label (body.getD "carrier" (.str ""))
  label (body.getD "origin_region" (.str ""))
  label (body.getD "destination_region" (.str ""))
  let _ ← (body.getD "shipping_cost" (.int 0)).toFloat py
  return ()

def createShipment (env : ShippingEnv) (body : Json) (t : ShipmentTable) :
    Except PyExc Answer × ShipmentTable :=
  match body.asDict with
  | .error e => (.error e, t)
  | .ok fields =>
    let block : Block ShipmentTable PyExc Empty PUnit :=
      execute env.faults (insertShipment env fields)
    match run env.faults Table.rollback block t with
    | .rolledBack e t => (.error e, t)
    | .committed _ t => match recordShipment env.py fields with
      | .error e => (.error e, t)
      | .ok _ => (.ok (.created (t.next - 1)), t)

def updatedShipment (env : ShippingEnv) (body : Obj) (s : Shipment) : Except PyExc Shipment := do
  let status ← env.bindNullableText (.varchar 50) (newStatus body)
  return { s with
    status
    actualDelivery := if isText "delivered" (newStatus body) then some env.now
      else s.actualDelivery }

def writeShipment (env : ShippingEnv) (shipmentId : Int) (body : Obj) (t : ShipmentTable) :
    Except PyExc ShipmentTable :=
  if !(env.backend.takesInt shipmentId && env.takesParameter (newStatus body)) then
    .error .dataError
  else match Orders.rowAt t shipmentId with
    | none => .ok t
    | some (id, s) => do
      let updated ← updatedShipment env body s
      return t.modify id (fun _ => updated) (noKey_keeps _)

def updateShipmentStatus (env : ShippingEnv) (shipmentId : Int) (body : Json)
    (t : ShipmentTable) : Except PyExc Answer × ShipmentTable :=
  match body.asDict with
  | .error e => (.error e, t)
  | .ok fields =>
    let block : Block ShipmentTable PyExc Empty PUnit :=
      execute env.faults (writeShipment env shipmentId fields)
    match run env.faults Table.rollback block t with
    | .rolledBack e t => (.error e, t)
    | .committed _ t => (.ok (.updated shipmentId (newStatus fields)), t)

/-- The columns that the two queries take from the joined tables. -/
structure JoinedRow where
  id : Nat
  shipment : Shipment
  orderTotal : Option PyFloat
  customerId : Option Nat
  customerName : Option String

section Reads
variable (orders : OrderTable) (customers : CustomerTable)

/-- The two outer joins, of the shipments that the WHERE has taken. -/
def joinedRows (shipments : List (Nat × Shipment)) : List JoinedRow :=
  let withOrders := outerJoin (fun s o => decide (s.2.orderId = some o.1)) shipments
    orders.listing.rows
  let withCustomers := outerJoin
    (fun row c => decide (row.2.bind (fun o => o.2.customerId) = some c.1)) withOrders
    customers.listing.rows
  withCustomers.map fun row =>
    { id := row.1.1.1
      shipment := row.1.1.2
      orderTotal := row.1.2.map fun o => o.2.total
      customerId := row.1.2.bind fun o => o.2.customerId
      customerName := row.2.map fun c => c.2.name }

structure ShipmentsFilter where
  status : String
  carrier : String

def ShipmentsFilter.takes (filter : ShipmentsFilter) (s : Shipment) : Bool :=
  (decide (filter.status = "") || decide (s.status = some filter.status)) &&
  (decide (filter.carrier = "") || decide (s.carrier = some filter.carrier))

/-- `created_at DESC`. -/
def newestFirst (a b : JoinedRow) : Prop :=
  notOlder a.shipment.createdAt b.shipment.createdAt = true

/-- `rows` is the answer of the server to the query. -/
def listShipments (size : PageSize) (offset : Nat) (rows : List JoinedRow) : List JoinedRow :=
  Paging.page size.limit offset rows

def statusesOrder : List String := ["processing", "shipped", "in_transit", "delivered"]

/-- `index(s) <= index(current) if current in statuses_order else s == current`. -/
def stepReached (current : Option String) (s : String) : Bool :=
  match current with
  | none => false
  | some current =>
    if current ∈ statusesOrder then
      decide (statusesOrder.idxOf s ≤ statusesOrder.idxOf current)
    else decide (s = current)

structure ShipmentDetail where
  shipment : JoinedRow
  trackingHistory : List (String × Bool)

/-- None is the answer that the shipment is not found. -/
def getShipment (shipmentId : Int) (t : ShipmentTable) : Option ShipmentDetail :=
  let rows := joinedRows orders customers
    (t.listing.rows.filter fun row => decide (Int.ofNat row.1 = shipmentId))
  rows.head?.map fun row =>
    ⟨row, statusesOrder.map fun s => (s, stepReached row.shipment.status s)⟩

end Reads

structure RegionPair where
  originRegion : Option String
  destinationRegion : Option String
  shipmentCount : Nat
  totalCost : Option PyFloat
  avgWeight : Option PyFloat

/-- SUM leaves the NULLs out, and is NULL where nothing is left. -/
def sqlSum (xs : List (Option PyFloat)) : Option PyFloat :=
  match xs.filterMap id with
  | [] => none
  | y :: ys => some (y :: ys).sum

def sqlAvg (xs : List (Option PyFloat)) : Option PyFloat :=
  (sqlSum xs).map fun sum => match sum with
    | .fin q => .fin (q / (xs.filterMap id).length)
    | x => x

def regions (s : Shipment) : Option String × Option String :=
  (s.originRegion, s.destinationRegion)

def touches (region : String) (s : Shipment) : Bool :=
  decide (region = "") ||
    (decide (s.originRegion = some region) || decide (s.destinationRegion = some region))

def takenBy (region : String) (t : ShipmentTable) : List Shipment :=
  (t.listing.rows.map Prod.snd).filter (touches region)

def regionPair (rows : List Shipment) (key : Option String × Option String) : RegionPair where
  originRegion := key.1
  destinationRegion := key.2
  shipmentCount := (group regions rows key).length
  totalCost := sqlSum ((group regions rows key).map Shipment.shippingCost)
  avgWeight := sqlAvg ((group regions rows key).map Shipment.weightKg)

/-- The groups, which the server answers in an order by `shipment_count DESC`. -/
def shipmentsByRegion (region : String) (t : ShipmentTable) : List RegionPair :=
  (groupKeys regions (takenBy region t)).map (regionPair (takenBy region t))

inductive Request where
  | create (env : ShippingEnv) (body : Json)
  | updateStatus (env : ShippingEnv) (shipmentId : Int) (body : Json)

def handle (t : ShipmentTable) : Request → Except PyExc Answer × ShipmentTable
  | .create env body => createShipment env body t
  | .updateStatus env shipmentId body => updateShipmentStatus env shipmentId body t

def serve (t : ShipmentTable) (r : Request) : ShipmentTable := (handle t r).2

def answers : ShipmentTable → List Request → List (Except PyExc Answer)
  | _, [] => []
  | t, r :: rest => (handle t r).1 :: answers (serve t r) rest

/-- The body is stored, and what is recorded of it after that fails. -/
def lost : Request → Bool
  | .create env (.obj fields) =>
    (env.faults 0).isNone && (env.faults 1).isNone && (shipmentRow env fields).toOption.isSome &&
      (recordShipment env.py fields).toOption.isNone
  | _ => false

inductive Outcome (t : ShipmentTable) : Request → Except PyExc Answer → ShipmentTable → Prop where
  | refused {r : Request} {e : PyExc} {t' : ShipmentTable} (kept : lost r = false)
      (rows : ∀ i, t'.row i = t.row i) : Outcome t r (.error e) t'
  | lost {r : Request} {e : PyExc} {id : Nat} {s : Shipment} {t' : ShipmentTable}
      (isLost : lost r = true) (new : s.status = some "processing")
      (inserted : t.insert s = some (id, t')) : Outcome t r (.error e) t'
  | created {r : Request} {id newId : Nat} {s : Shipment} {t' : ShipmentTable}
      (kept : lost r = false) (new : s.status = some "processing")
      (inserted : t.insert s = some (id, t')) : Outcome t r (.ok (.created newId)) t'
  | missing {r : Request} {shipmentId : Int} {status : Json} (kept : lost r = false) :
      Outcome t r (.ok (.updated shipmentId status)) t
  | updated {env : ShippingEnv} {shipmentId : Int} {fields : Obj} {id : Nat} {s s' : Shipment}
      {t' : ShipmentTable} (found : t.row id = some s)
      (written : updatedShipment env fields s = .ok s')
      (rows : ∀ i, t'.row i = if i = id then some s' else t.row i) :
      Outcome t (.updateStatus env shipmentId (.obj fields))
        (.ok (.updated shipmentId (newStatus fields))) t'

theorem insertShipment_ok {env : ShippingEnv} {body : Obj} {t t' : ShipmentTable}
    (h : insertShipment env body t = .ok t') :
    ∃ s id, shipmentRow env body = .ok s ∧ s.status = some "processing" ∧
      t.insert s = some (id, t') := by
  obtain ⟨s, hs, ht⟩ := bind_ok_iff.mp h
  split at ht
  · cases ht
  · next id t'' hid =>
    obtain rfl := Except.ok.inj ht
    refine ⟨s, id, hs, ?_, hid⟩
    simp only [shipmentRow, bind_ok_iff] at hs
    obtain ⟨_, -, _, -, _, -, _, -, _, -, _, -, _, -, _, -, hrow⟩ := hs
    rw [← Except.ok.inj hrow]

/-- No constraint of the table refuses a row. -/
theorem insertShipment_of_row {env : ShippingEnv} {body : Obj} {t : ShipmentTable} {s : Shipment}
    (h : shipmentRow env body = .ok s) : ∃ t', insertShipment env body t = .ok t' := by
  have hsome : (t.insert s).isSome := (t.insert_isSome_iff s).mpr fun k => nofun
  obtain ⟨⟨id, t'⟩, hinsert⟩ := Option.isSome_iff_exists.mp hsome
  refine ⟨t', bind_ok_iff.mpr ⟨s, h, ?_⟩⟩
  rw [hinsert]

theorem createShipment_outcome (env : ShippingEnv) (body : Json) (t : ShipmentTable) :
    Outcome t (.create env body) (createShipment env body t).1 (createShipment env body t).2 := by
  rcases hbody : body.asDict with e | fields
  · simp only [createShipment, hbody]
    refine .refused ?_ fun _ => rfl
    cases body with
    | obj fields => cases hbody
    | _ => rfl
  · simp only [createShipment, hbody]
    obtain rfl := Json.asDict_ok_iff.mp hbody
    rcases run_execute env.faults Table.rollback (insertShipment env fields) t with
      ⟨t', hsent, hcommit, hinsert, hrun⟩ | ⟨hfailed, e, reached, -, hrun⟩
    · rw [hrun]
      obtain ⟨s, id, hrow, hnew, hid⟩ := insertShipment_ok hinsert
      rcases hrecord : recordShipment env.py fields with e | _
      · exact .lost (by simp [lost, hsent, hcommit, hrow, hrecord, Except.toOption]) hnew hid
      · exact .created (by simp [lost, hrecord, Except.toOption]) hnew hid
    · rw [hrun]
      refine .refused ?_ fun _ => rfl
      rcases hrow : shipmentRow env fields with e' | s
      · simp [lost, hrow, Except.toOption]
      · obtain ⟨t', hinsert⟩ := insertShipment_of_row (t := t) hrow
        rcases hfailed with hsent | hcommit | ⟨e', herror⟩
        · simp [lost, Option.isNone_iff_eq_none, hsent]
        · simp [lost, Option.isNone_iff_eq_none, hcommit]
        · rw [hinsert] at herror
          cases herror

theorem updateShipmentStatus_outcome (env : ShippingEnv) (shipmentId : Int) (body : Json)
    (t : ShipmentTable) :
    Outcome t (.updateStatus env shipmentId body) (updateShipmentStatus env shipmentId body t).1
      (updateShipmentStatus env shipmentId body t).2 := by
  rcases hbody : body.asDict with e | fields
  · simp only [updateShipmentStatus, hbody]
    exact .refused rfl fun _ => rfl
  · simp only [updateShipmentStatus, hbody]
    obtain rfl := Json.asDict_ok_iff.mp hbody
    rcases run_execute env.faults Table.rollback (writeShipment env shipmentId fields) t with
      ⟨t', -, -, hwrite, hrun⟩ | ⟨-, e, reached, -, hrun⟩
    · rw [hrun]
      simp only [writeShipment] at hwrite
      split at hwrite
      · cases hwrite
      · split at hwrite
        · obtain rfl := Except.ok.inj hwrite
          exact .missing rfl
        · next id s hfound =>
          obtain ⟨s', hwritten, ht⟩ := bind_ok_iff.mp hwrite
          obtain rfl := Except.ok.inj ht
          have hrow := (rowAt_eq_some hfound).2
          refine .updated hrow hwritten fun i => ?_
          show (if i = id then (t.row i).map fun _ => s' else t.row i) = _
          by_cases heq : i = id
          · rw [if_pos heq, if_pos heq, heq, hrow]
            rfl
          · rw [if_neg heq, if_neg heq]
    · rw [hrun]
      exact .refused rfl fun _ => rfl

theorem handle_outcome (t : ShipmentTable) (r : Request) :
    Outcome t r (handle t r).1 (serve t r) := by
  cases r with
  | create env body => exact createShipment_outcome env body t
  | updateStatus env shipmentId body => exact updateShipmentStatus_outcome env shipmentId body t

def isCreated : Except PyExc Answer → Bool
  | .ok (.created _) => true
  | _ => false

theorem Outcome.count {t t' : ShipmentTable} {r : Request} {a : Except PyExc Answer}
    (h : Outcome t r a t') :
    t'.count = t.count + ((isCreated a).toNat + (Shipping.lost r).toNat) := by
  simp only [Table.count_eq_countWhere]
  cases h with
  | refused kept rows =>
    rw [kept]
    exact Table.countWhere_congr rows _
  | lost isLost new inserted =>
    rw [isLost]
    exact Table.countWhere_insert inserted _
  | created kept new inserted =>
    rw [kept]
    exact Table.countWhere_insert inserted _
  | missing kept =>
    rw [kept]
    rfl
  | updated found written rows =>
    exact Nat.add_right_cancel (Table.countWhere_update found rows fun _ => true)

/-- In every run the table grows by the creations that are answered and by those that are
lost: these are stored, and answered with an error. -/
theorem creations_stored (requests : List Request) (t : ShipmentTable) :
    (requests.foldl serve t).count =
        t.count + ((answers t requests).countP isCreated + requests.countP lost) ∧
      ∀ r, lost r = true → ∀ t, ∃ e, (handle t r).1 = .error e := by
  constructor
  · induction requests generalizing t with
    | nil => rfl
    | cons r rest ih =>
      rw [List.foldl_cons, ih, (handle_outcome t r).count, answers, List.countP_cons,
        List.countP_cons]
      cases isCreated (handle t r).1 <;> cases lost r <;> simp <;> omega
  · intro r hlost t
    have houtcome := handle_outcome t r
    generalize (handle t r).1 = a at houtcome
    generalize serve t r = t' at houtcome
    cases houtcome with
    | refused kept rows => exact ⟨_, rfl⟩
    | lost isLost new inserted => exact ⟨_, rfl⟩
    | created kept new inserted =>
      rw [kept] at hlost
      cases hlost
    | missing kept =>
      rw [kept] at hlost
      cases hlost
    | updated found written rows => cases hlost

def sampleShippingEnv : ShippingEnv where
  toBodyEnv := sampleBodyEnv
  orderExists := fun id => decide (id = 1)

/-- A null is stored as the default cost, and cannot be recorded. -/
example : lost (.create sampleShippingEnv (.obj [("shipping_cost", .null)])) = true := by
  decide +kernel

/-- The columns that no update sets, and the date of the delivery once it is there. -/
structure Stays (old new : Shipment) : Prop where
  order : new.orderId = old.orderId
  tracking : new.trackingNumber = old.trackingNumber
  carrier : new.carrier = old.carrier
  regions : regions new = regions old
  weight : new.weightKg = old.weightKg
  cost : new.shippingCost = old.shippingCost
  estimated : new.estimatedDelivery = old.estimatedDelivery
  created : new.createdAt = old.createdAt
  delivered : old.actualDelivery.isSome = true → new.actualDelivery.isSome = true

theorem Stays.refl (s : Shipment) : Stays s s := ⟨rfl, rfl, rfl, rfl, rfl, rfl, rfl, rfl, id⟩

theorem Stays.trans {a b c : Shipment} (h : Stays a b) (k : Stays b c) : Stays a c where
  order := k.order.trans h.order
  tracking := k.tracking.trans h.tracking
  carrier := k.carrier.trans h.carrier
  regions := k.regions.trans h.regions
  weight := k.weight.trans h.weight
  cost := k.cost.trans h.cost
  estimated := k.estimated.trans h.estimated
  created := k.created.trans h.created
  delivered := fun ha => k.delivered (h.delivered ha)

theorem updatedShipment_ok {env : ShippingEnv} {body : Obj} {s s' : Shipment}
    (h : updatedShipment env body s = .ok s') :
    Stays s s' ∧ (s'.status = some "delivered" → s'.actualDelivery.isSome = true) := by
  obtain ⟨status, hstatus, hrow⟩ := bind_ok_iff.mp h
  obtain rfl := Except.ok.inj hrow
  constructor
  · refine ⟨rfl, rfl, rfl, rfl, rfl, rfl, rfl, rfl, fun hdated => ?_⟩
    show Option.isSome (if isText "delivered" (newStatus body) then some env.now
      else s.actualDelivery) = true
    split
    · rfl
    · exact hdated
  · intro hdelivered
    have hnamed := (stored_iff hstatus (by decide)).mp hdelivered
    show Option.isSome (if isText "delivered" (newStatus body) then some env.now
      else s.actualDelivery) = true
    rw [if_pos (isText_iff.mpr hnamed)]
    rfl

/-- The shipment is delivered, and has no date of it. -/
def Undated (t : ShipmentTable) (i : Nat) : Prop :=
  ∃ s, t.row i = some s ∧ s.status = some "delivered" ∧ s.actualDelivery = none

structure Keeps (a b : ShipmentTable) : Prop where
  undated : ∀ i, Undated b i → Undated a i
  rows : ∀ i s, a.row i = some s → ∃ s', b.row i = some s' ∧ Stays s s'

theorem Keeps.refl (t : ShipmentTable) : Keeps t t :=
  ⟨fun _ => id, fun _ s h => ⟨s, h, Stays.refl s⟩⟩

theorem Keeps.trans {a b c : ShipmentTable} (h : Keeps a b) (k : Keeps b c) : Keeps a c where
  undated i hc := h.undated i (k.undated i hc)
  rows := by
    intro i s hrow
    obtain ⟨mid, hmid, hstays⟩ := h.rows i s hrow
    obtain ⟨last, hlast, hstays'⟩ := k.rows i mid hmid
    exact ⟨last, hlast, hstays.trans hstays'⟩

theorem Keeps.insert {t t' : ShipmentTable} {s : Shipment} {id : Nat}
    (inserted : t.insert s = some (id, t')) (new : s.status = some "processing") :
    Keeps t t' := by
  obtain ⟨-, -, -, hrows⟩ := Table.insert_eq_some inserted
  refine ⟨fun i => ?_, fun i old hold => ?_⟩
  · rintro ⟨other, hother, hstatus, hnone⟩
    rw [hrows] at hother
    split at hother
    · obtain rfl := Option.some.inj hother
      exact absurd (Option.some.inj (new.symm.trans hstatus)) (by decide)
    · exact ⟨other, hother, hstatus, hnone⟩
  · exact ⟨old, Table.insert_extends inserted i old hold, Stays.refl old⟩

theorem Outcome.keeps {t t' : ShipmentTable} {r : Request} {a : Except PyExc Answer}
    (h : Outcome t r a t') : Keeps t t' := by
  cases h with
  | refused kept rows =>
    refine ⟨fun i => ?_, fun i s hrow => ⟨s, (rows i).trans hrow, Stays.refl s⟩⟩
    rintro ⟨s, hrow, hdelivered⟩
    exact ⟨s, (rows i).symm.trans hrow, hdelivered⟩
  | lost isLost new inserted => exact .insert inserted new
  | created kept new inserted => exact .insert inserted new
  | missing kept => exact Keeps.refl t
  | @updated env shipmentId fields id s s' t' found written rows =>
    obtain ⟨hstays, hdate⟩ := updatedShipment_ok written
    refine ⟨fun i => ?_, fun i old hold => ?_⟩
    · rintro ⟨other, hother, hstatus, hnone⟩
      rw [rows] at hother
      split at hother
      · obtain rfl := Option.some.inj hother
        have hsome := hdate hstatus
        rw [hnone] at hsome
        cases hsome
      · exact ⟨other, hother, hstatus, hnone⟩
    · by_cases hi : i = id
      · obtain rfl : s = old := Option.some.inj (found.symm.trans (hi ▸ hold))
        exact ⟨s', (rows i).trans (if_pos hi), hstays⟩
      · exact ⟨old, (rows i).trans ((if_neg hi).trans hold), Stays.refl old⟩

theorem keeps_run (requests : List Request) (t : ShipmentTable) :
    Keeps t (requests.foldl serve t) := by
  induction requests generalizing t with
  | nil => exact Keeps.refl t
  | cons r rest ih => exact (handle_outcome t r).keeps.trans (ih (serve t r))

section Joined
variable (orders : OrderTable) (customers : CustomerTable)

/-- What the joins find for one shipment. -/
def joinedRow (row : Nat × Shipment) : JoinedRow :=
  let order := row.2.orderId.bind orders.row
  { id := row.1
    shipment := row.2
    orderTotal := order.map Order.total
    customerId := order.bind Order.customerId
    customerName := ((order.bind Order.customerId).bind customers.row).map Customer.name }

theorem joinedRows_eq (shipments : List (Nat × Shipment)) :
    joinedRows orders customers shipments = shipments.map (joinedRow orders customers) := by
  have horders := outerJoin_find shipments fun s _ =>
    orders.listing_countP_le_one s.2.orderId
  have hcustomers := outerJoin_find
    (shipments.map fun s => (s, s.2.orderId.bind fun id => (orders.row id).map (Prod.mk id)))
    fun row _ => customers.listing_countP_le_one (row.2.bind fun o => o.2.customerId)
  simp only [Table.find_listing] at horders hcustomers
  simp only [joinedRows, horders, hcustomers, List.map_map]
  refine List.map_congr_left fun s _ => ?_
  cases hid : s.2.orderId with
  | none => simp [joinedRow, hid]
  | some id =>
    cases horder : orders.row id with
    | none => simp [joinedRow, hid, horder]
    | some order =>
      cases hcustomer : order.customerId with
      | none => simp [joinedRow, hid, horder, hcustomer]
      | some customer =>
        cases hrow : customers.row customer <;>
          simp [joinedRow, hid, horder, hcustomer, hrow]

def trackingHistory (s : Shipment) : List (String × Bool) :=
  statusesOrder.map fun step => (step, stepReached s.status step)

theorem getShipment_eq {t : ShipmentTable} {i : Nat} {s : Shipment} (h : t.row i = some s) :
    getShipment orders customers i t =
      some ⟨joinedRow orders customers (i, s), trackingHistory s⟩ := by
  have hsame : (fun row : Nat × Shipment => decide (Int.ofNat row.1 = (i : Int))) =
      fun row => decide (some i = some row.1) := by
    funext row
    rw [decide_eq_decide, Option.some.injEq]
    exact Int.ofNat_inj.trans eq_comm
  have hfind := t.find_listing (some i)
  rw [Option.bind_some, h] at hfind
  simp only [getShipment, joinedRows_eq, List.head?_map, List.head?_filter, hsame, hfind]
  rfl

end Joined

/-- The steps that are reached are the first ones, and all of them only by a delivery. -/
theorem trackingHistory_eq (s : Shipment) : ∃ n ≤ 4, trackingHistory s =
    statusesOrder.map (fun step => (step, decide (statusesOrder.idxOf step < n))) ∧
      (n = 4 ↔ s.status = some "delivered") := by
  rcases hstatus : s.status with _ | current
  · exact ⟨0, by omega, by simp [trackingHistory, hstatus, stepReached], by simp⟩
  · by_cases hmem : current ∈ statusesOrder
    · refine ⟨statusesOrder.idxOf current + 1, ?_, ?_, ?_⟩
      · exact List.idxOf_lt_length_of_mem hmem
      · simp only [trackingHistory, hstatus, stepReached, if_pos hmem, Nat.lt_succ_iff]
      · have hstep : current = "processing" ∨ current = "shipped" ∨ current = "in_transit" ∨
            current = "delivered" := by
          simpa [statusesOrder] using hmem
        rcases hstep with rfl | rfl | rfl | rfl <;> decide
    · refine ⟨0, by omega, ?_, ?_⟩
      · refine List.map_congr_left fun step hstep => ?_
        have hne : step ≠ current := fun heq => hmem (heq ▸ hstep)
        simp [hstatus, stepReached, if_neg hmem, hne]
      · simp only [Option.some.injEq]
        constructor
        · intro hzero
          cases hzero
        · rintro rfl
          exact absurd (by decide) hmem

/-- The rows of every answer to the query of a list. -/
theorem listed_row {orders : OrderTable} {customers : CustomerTable} {t : ShipmentTable}
    {takes : Shipment → Bool} {answer : List JoinedRow}
    (h : Paging.Answer newestFirst (joinedRows orders customers (selected t takes)) answer)
    {row : JoinedRow} (hrow : row ∈ answer) :
    (getShipment orders customers row.id t).map ShipmentDetail.shipment = some row := by
  rw [joinedRows_eq] at h
  obtain ⟨⟨i, s⟩, hmem, rfl⟩ := List.mem_map.mp (h.perm.mem_iff.mp hrow)
  show (getShipment orders customers i t).map _ = _
  rw [getShipment_eq orders customers (mem_selected_iff.mp hmem).1]
  rfl

theorem listed_ids {orders : OrderTable} {customers : CustomerTable} {t : ShipmentTable}
    {takes : Shipment → Bool} {answer : List JoinedRow}
    (h : Paging.Answer newestFirst (joinedRows orders customers (selected t takes)) answer) :
    (answer.map JoinedRow.id).Perm ((selected t takes).map Prod.fst) := by
  have hids := h.perm.map JoinedRow.id
  rw [joinedRows_eq, List.map_map] at hids
  exact hids

/-- After every run: the shipments are there as they were stored, but for their status and the
date of their delivery. The detail of a shipment shows the steps up to some one as reached,
all of them exactly for a delivery, which then has a date unless it was one without a date at
the start. A list has the rows of the details, and the pages of one answer have each shipment
that the filter takes once. -/
theorem shipment_history (requests : List Request) (t : ShipmentTable)
    (orders : OrderTable) (customers : CustomerTable) :
    let t' := requests.foldl serve t
    (∀ i s, t.row i = some s → ∃ s', t'.row i = some s' ∧ Stays s s') ∧
    (∀ i s, t'.row i = some s → ∃ detail, getShipment orders customers i t' = some detail ∧
      detail.shipment.shipment = s ∧ ∃ n ≤ 4, detail.trackingHistory =
        statusesOrder.map (fun step => (step, decide (statusesOrder.idxOf step < n))) ∧
        (n = 4 ↔ s.status = some "delivered") ∧
        (n = 4 → s.actualDelivery.isSome = true ∨ Undated t i)) ∧
    ∀ (filter : ShipmentsFilter) (answer : List JoinedRow),
      Paging.Answer newestFirst (joinedRows orders customers (selected t' filter.takes)) answer →
      ∀ size : PageSize,
        (∀ offset, ∀ row ∈ listShipments size offset answer,
          (getShipment orders customers row.id t').map ShipmentDetail.shipment = some row) ∧
        ∀ n, answer.length ≤ size.limit * n →
          (((List.range n).flatMap fun k => listShipments size (size.limit * k) answer).map
            JoinedRow.id).Perm ((selected t' filter.takes).map Prod.fst) := by
  intro t'
  have hkeeps : Keeps t t' := keeps_run requests t
  refine ⟨hkeeps.rows, fun i s hrow => ?_, fun filter answer hanswer size => ⟨?_, ?_⟩⟩
  · obtain ⟨n, hn, htracking, hdelivered⟩ := trackingHistory_eq s
    refine ⟨_, getShipment_eq orders customers hrow, rfl, n, hn, htracking, hdelivered, ?_⟩
    intro hall
    cases hdate : s.actualDelivery with
    | some date => exact Or.inl rfl
    | none => exact Or.inr (hkeeps.undated i ⟨s, hrow, hdelivered.mp hall, hdate⟩)
  · intro offset row hrow
    exact listed_row hanswer (List.mem_of_mem_drop (List.mem_of_mem_take hrow))
  · intro n hn
    have hpages : ((List.range n).flatMap fun k => listShipments size (size.limit * k) answer) =
        answer := (Paging.pages_const answer n).trans (List.take_of_length_le hn)
    rw [hpages]
    exact listed_ids hanswer

theorem sqlSum_getD (xs : List (Option PyFloat)) :
    (sqlSum xs).getD 0 = (xs.map fun x => x.getD 0).sum := by
  have hsum : (xs.filterMap id).sum = (xs.map fun x => x.getD 0).sum := sum_filterMap id xs
  rw [← hsum, sqlSum]
  split
  · next hnone => rw [hnone]; rfl
  · next hsome => rw [hsome]; rfl

section Regions
variable {t : ShipmentTable} {region : String}

theorem takenBy_length : (takenBy region t).length = t.countWhere (touches region) := by
  rw [takenBy, ← List.countP_eq_length_filter, List.countP_map]
  rfl

theorem takenBy_all : takenBy "" t = t.listing.rows.map Prod.snd := by
  rw [takenBy, List.filter_eq_self]
  intro s _
  rfl

/-- What the other query takes of the shipments. -/
def costRows (t : ShipmentTable) : List Analytics.Shipment :=
  t.listing.rows.map fun row => ⟨row.2.orderId, row.2.destinationRegion, row.2.shippingCost⟩

theorem totalShippingCost_eq (orders : OrderTable) (destination : Option String) :
    (Analytics.regionRow (costRows t) orders destination).totalShippingCost =
      (((takenBy "" t).filter fun s => decide (s.destinationRegion = destination)).map
        fun s => s.shippingCost.getD 0).sum := by
  rw [takenBy_all]
  simp only [Analytics.regionRow, Analytics.joinedShipments, costRows, List.filter_map,
    List.filterMap_map, List.map_map]
  exact sum_filterMap _ _

theorem regionPair_cost (rows : List Shipment) (key : Option String × Option String) :
    (regionPair rows key).totalCost.getD 0 =
      ((group regions rows key).map fun s => s.shippingCost.getD 0).sum := by
  rw [regionPair, sqlSum_getD, List.map_map]
  rfl

/-- A filter that takes all or none of a group leaves the group as it is. -/
theorem regionPair_filter {key : Option String × Option String}
    (hkey : key.1 = some region ∨ key.2 = some region) :
    regionPair (takenBy region t) key = regionPair (takenBy "" t) key := by
  have hgroup : group regions (takenBy region t) key = group regions (takenBy "" t) key := by
    rw [takenBy_all, takenBy, group, group, List.filter_filter]
    refine List.filter_congr fun s _ => ?_
    by_cases hs : regions s = key
    · subst hs
      simpa [touches, regions] using Or.inr hkey
    · simp [hs]
  simp only [regionPair, hgroup]

end Regions

/-- The groups come to the shipments that are taken. A region leaves, of the groups of all
shipments, those that it begins or ends, as they were; and those with one destination come to
the shipping costs that the revenue by region has for it. -/
theorem regions_agree (t : ShipmentTable) (orders : OrderTable) :
    (∀ region, ((shipmentsByRegion region t).map RegionPair.shipmentCount).sum =
      t.countWhere (touches region)) ∧
    (∀ region, region ≠ "" → ∀ row, row ∈ shipmentsByRegion region t ↔
      row ∈ shipmentsByRegion "" t ∧
        (row.originRegion = some region ∨ row.destinationRegion = some region)) ∧
    ∀ destination, (((shipmentsByRegion "" t).filter fun row =>
        decide (row.destinationRegion = destination)).map fun row => row.totalCost.getD 0).sum =
      (Analytics.regionRow (costRows t) orders destination).totalShippingCost := by
  refine ⟨fun region => ?_, fun region hregion row => ?_, fun destination => ?_⟩
  · have hgroups := sum_all_groups regions (takenBy region t) fun _ => 1
    simp only [← length_eq_sum] at hgroups
    rw [← takenBy_length, ← hgroups, shipmentsByRegion, List.map_map]
    rfl
  · have hkeys : ∀ key, key ∈ groupKeys regions (takenBy region t) ↔
        key ∈ groupKeys regions (takenBy "" t) ∧
          (key.1 = some region ∨ key.2 = some region) := by
      intro key
      rw [takenBy_all]
      simp only [groupKeys, takenBy, List.mem_dedup, List.mem_map, List.mem_filter]
      constructor
      · rintro ⟨s, ⟨hs, htouches⟩, rfl⟩
        exact ⟨⟨s, hs, rfl⟩, by simpa [touches, hregion, regions] using htouches⟩
      · rintro ⟨⟨s, hs, rfl⟩, hkey⟩
        exact ⟨s, ⟨hs, by simpa [touches, hregion, regions] using hkey⟩, rfl⟩
    simp only [shipmentsByRegion, List.mem_map, hkeys]
    constructor
    · rintro ⟨key, ⟨hkey, htouched⟩, rfl⟩
      exact ⟨⟨key, hkey, (regionPair_filter htouched).symm⟩, htouched⟩
    · rintro ⟨⟨key, hkey, rfl⟩, htouched⟩
      exact ⟨key, ⟨hkey, htouched⟩, regionPair_filter htouched⟩
  · have honce : ((groupKeys regions (takenBy "" t)).filter fun key =>
        decide (key.2 = destination)).Nodup := (List.nodup_dedup _).filter _
    have hmem : ∀ s ∈ takenBy "" t, decide (s.destinationRegion = destination) = true ↔
        regions s ∈ (groupKeys regions (takenBy "" t)).filter fun key =>
          decide (key.2 = destination) := by
      intro s hs
      rw [List.mem_filter]
      exact ⟨fun h => ⟨List.mem_dedup.mpr (List.mem_map_of_mem hs), h⟩, fun h => h.2⟩
    rw [totalShippingCost_eq, ← sum_groups honce hmem, shipmentsByRegion, List.filter_map,
      List.map_map]
    exact congrArg List.sum (List.map_congr_left fun key _ => regionPair_cost _ key)

end Shipping
