import CrmPortal.Orders

/-!
# The simulation endpoints that write orders and customers

`generate_orders`, `generate_backlog`, `high_value_order`, `add_random_customer` and
`create_customer` write raw SQL in a session of their own. A session that is left without
a commit takes its writes back. A column that the INSERT does not name stays NULL: the
defaults of the model belong to the ORM. What is drawn at random comes in from outside.
-/

namespace Simulation

open PyValue IdentityTable Transaction UnitOfWork CrmDatabase Orders

structure SimulationEnv where
  py : Builtins
  backend : Backend
  correlationId : String
  faults : Faults PyExc

/-- What one round draws: a row each of `customers` and `products`, a quantity
and a price, identifiers and times. -/
structure Draw where
  customer : Except PyExc (Option Nat)
  product : Except PyExc (Option (Nat × PyFloat))
  quantity : Int
  highQuantity : Int
  highPrice : PyFloat
  suffix : String
  now : DateTime
  staleTime : DateTime

inductive SimulationAnswer where
  | error (reason : String)
  | ordersGenerated (total : PyFloat) (orderIds : List Nat)
  | backlogGenerated (orderIds : List Nat)
  | highValue (orderId : Option Nat) (total : PyFloat)

abbrev SimulationBlock := Block Db PyExc SimulationAnswer

/-- `async with async_session_factory() as session`, with `commit` as the last
statement of the block: an early return commits nothing. -/
def ownSession {Answer : Type} (faults : Faults PyExc) (block : Block Db PyExc Answer Answer) :
    Tx Db PyExc Answer :=
  fun db => match block ⟨db, 0⟩ with
    | (.ok answer, w) => match faults w.statements with
      | some exc => (.error exc, db.rollback w.state)
      | none => (.ok answer, w.state)
    | (.error (.returned answer), w) => (.ok answer, db.rollback w.state)
    | (.error (.raised exc), w) => (.error exc, db.rollback w.state)

/-- `max(1, min(body.get("count", 5), most))`; a float between the two bounds is
no count. -/
def roundCount (value : Json) (most : Nat) : Except PyExc Nat :=
  match value with
  | .int n => .ok (max 1 (min n most)).toNat
  | .bool _ => .ok 1
  | .float x =>
    if PyFloat.lt (.fin most) x then .ok most
    else if PyFloat.lt (.fin 1) x then .error .typeError
    else .ok 1
  | _ => .error .typeError

/-- `random.randint(1, value)` takes a number that is whole and no less; what `int` does
not take fails as it does there. -/
def randintTakes : Json → Except PyExc PUnit
  | .int n => if 1 ≤ n then .ok ⟨⟩ else .error .valueError
  | .bool true => .ok ⟨⟩
  | .bool false => .error .valueError
  | .float (.fin q) => if q.den = 1 ∧ 1 ≤ q then .ok ⟨⟩ else .error .valueError
  | .float .nan => .error .valueError
  | .float _ => .error .overflowError
  | _ => .error .typeError

/-- The columns that the INSERT of the endpoint names. -/
structure SimulatedOrder where
  total : PyFloat
  status : Option String
  notes : Option String
  sourceOrderId : String
  syncStatus : String
  backlogStatus : Option String
  lastSyncedAt : Option DateTime
  createdAt : DateTime

def SimulatedOrder.row (o : SimulatedOrder) (customerId : Nat) (correlationId : String) :
    Order where
  customerId := some customerId
  total := o.total
  status := o.status
  notes := o.notes
  shippingAddress := none
  sourceSystem := some "crm-simulation"
  sourceOrderId := some o.sourceOrderId
  sourceCustomerEmail := none
  syncStatus := some o.syncStatus
  backlogStatus := o.backlogStatus
  syncError := none
  sourcePayload := none
  correlationId := some correlationId
  lastSyncedAt := o.lastSyncedAt
  createdAt := some o.createdAt

/-- A foreign key: what the driver binds must be the id of a row. -/
def foreignKey {Row Key : Type} {key : Row → Option Key} (backend : Backend) (t : Table Row key)
    (value : Json) : Except PyExc Nat :=
  match backend.bindInt value with
  | none => .error .dataError
  | some id => match rowAt t id with
    | none => .error .integrityError
    | some (id, _) => .ok id

/-- INSERT INTO orders. -/
def insertSimulated (env : SimulationEnv) (customerId : Json) (o : SimulatedOrder) (db : Db) :
    Except PyExc Db := do
  let id ← foreignKey env.backend db.customers customerId
  if !env.backend.takesFloat o.total then .error .dataError
  else match db.orders.insert (o.row id env.correlationId) with
    | none => .error .integrityError
    | some (_, orders) => .ok { db with orders := orders }

/-- SELECT id FROM orders WHERE source_order_id = :sid, first row. -/
def orderBySource (sid : String) (db : Db) : Option Nat :=
  (db.orders.listing.rows.find? fun row => decide (row.2.sourceOrderId = some sid)).map Prod.fst

/-- INSERT INTO order_items. -/
def insertItem (env : SimulationEnv) (orderId : Nat) (productId : Json) (quantity : Int)
    (unitPrice : PyFloat) (db : Db) : Except PyExc Db := do
  let id ← foreignKey env.backend db.products productId
  if env.backend.takesInt quantity && env.backend.takesFloat unitPrice then
    return { db with orderItems := db.orderItems ++ [⟨orderId, some id, quantity, unitPrice⟩] }
  else .error .dataError

/-- The three statements that the endpoints share. -/
def storeSimulated (env : SimulationEnv) (customerId productId : Json) (quantity : Int)
    (unitPrice : PyFloat) (o : SimulatedOrder) : SimulationBlock (Option Nat) := do
  execute env.faults (insertSimulated env customerId o)
  let orderId ← query env.faults (orderBySource o.sourceOrderId)
  match orderId with
  | none => return none
  | some id =>
    execute env.faults (insertItem env id productId quantity unitPrice)
    return some id

/-- `round(price * qty, 2)`. -/
def roundedTotal (quantity : Int) (price : PyFloat) : Except PyExc PyFloat := do
  let total ← PyFloat.intMul quantity price
  return total.round2

def noCustomers : SimulationAnswer := .error "no customers in database"

def noProducts : SimulationAnswer := .error "no products in database"

/-- A customer is drawn only if the body names none. -/
def roundCustomer (body : Obj) (draw : Draw) : SimulationBlock Json := do
  if (body.get "customer_id").truthy then return body.get "customer_id"
  else
    let drawn ← attempt draw.customer
    let id ← orReturn noCustomers drawn
    return .int id

/-- `{"status": ...}` as the column stores it; a null stays a null. -/
def roundStatus (body : Obj) : Json := body.getD "status" (.str "processing")

def generatedOrder (total : PyFloat) (status : Option String) (draw : Draw) : SimulatedOrder where
  total := total
  status := status
  notes := none
  sourceOrderId := "sim-" ++ draw.suffix
  syncStatus := "local"
  backlogStatus := some "current"
  lastSyncedAt := none
  createdAt := draw.now

def generateOrder (env : SimulationEnv) (body : Obj) (draw : Draw) :
    SimulationBlock (PyFloat × Option Nat) := do
  let customerId ← roundCustomer body draw
  let drawn ← attempt draw.product
  let drawn ← orReturn noProducts drawn
  let productId := (body.get "product_id").or (.int drawn.1)
  let _ ← attempt (randintTakes (body.getD "max_quantity" (.int 5)))
  let high := (body.get "high_value").truthy
  let price := if high then draw.highPrice else drawn.2
  let quantity := if high then draw.highQuantity else draw.quantity
  let total ← attempt (roundedTotal quantity price)
  let status ← orFail .dataError
    (env.backend.bindNullable (.varchar 50) (roundStatus body))
  let orderId ← storeSimulated env customerId productId quantity price
    (generatedOrder total status draw)
  return (total, orderId)

/-- The rounds of the loop, with the accumulators of the answer. -/
def generateRounds (env : SimulationEnv) (body : Obj) :
    List Draw → PyFloat → List Nat → SimulationBlock SimulationAnswer
  | [], totalValue, orderIds => return .ordersGenerated totalValue.round2 orderIds
  | draw :: rest, totalValue, orderIds => do
    let (total, orderId) ← generateOrder env body draw
    generateRounds env body rest (totalValue.add total) (orderIds ++ orderId.toList)

def generateOrders (env : SimulationEnv) (body : Json) (draws : Nat → Draw) :
    Tx Db PyExc SimulationAnswer := do
  let body ← Tx.ofExcept body.asDict
  let count ← Tx.ofExcept (roundCount (body.getD "count" (.int 5)) 50)
  ownSession env.faults (generateRounds env body ((List.range count).map draws) .zero [])

def backlogOrder (total : PyFloat) (draw : Draw) : SimulatedOrder where
  total := total
  status := some "pending"
  notes := none
  sourceOrderId := "sim-backlog-" ++ draw.suffix
  syncStatus := "pending"
  backlogStatus := some "backlog"
  lastSyncedAt := some draw.staleTime
  createdAt := draw.staleTime

/-- A round without a customer or a product is skipped. -/
def generateBacklogRound (env : SimulationEnv) (draw : Draw) :
    SimulationBlock (Option Nat) := do
  let customer ← attempt draw.customer
  let product ← attempt draw.product
  match customer, product with
  | some customerId, some (productId, price) =>
    let total ← attempt (roundedTotal draw.quantity price)
    storeSimulated env (.int customerId) (.int productId) draw.quantity price
      (backlogOrder total draw)
  | _, _ => return none

def backlogRounds (env : SimulationEnv) : List Draw → List Nat → SimulationBlock SimulationAnswer
  | [], orderIds => return .backlogGenerated orderIds
  | draw :: rest, orderIds => do
    let orderId ← generateBacklogRound env draw
    backlogRounds env rest (orderIds ++ orderId.toList)

def generateBacklog (env : SimulationEnv) (body : Json) (draws : Nat → Draw) :
    Tx Db PyExc SimulationAnswer := do
  let body ← Tx.ofExcept body.asDict
  let count ← Tx.ofExcept (roundCount (body.getD "count" (.int 5)) 20)
  ownSession env.faults (backlogRounds env ((List.range count).map draws) [])

/-- The INSERT names no `backlog_status`. -/
def highValueRow (draw : Draw) : SimulatedOrder where
  total := draw.highPrice.round2
  status := some "processing"
  notes := some "HIGH VALUE - Simulation generated"
  sourceOrderId := "sim-hv-" ++ draw.suffix
  syncStatus := "local"
  backlogStatus := none
  lastSyncedAt := none
  createdAt := draw.now

def highValueBlock (env : SimulationEnv) (body : Obj) (draw : Draw) :
    SimulationBlock SimulationAnswer := do
  let customerId ← roundCustomer body draw
  let product ← attempt draw.product
  let product ← orReturn noProducts product
  let orderId ← storeSimulated env customerId (.int product.1) 1 draw.highPrice.round2
    (highValueRow draw)
  return .highValue orderId draw.highPrice.round2

/-- The customer and the product are drawn before the session is opened, which
makes no difference to what it stores. -/
def highValueOrder (env : SimulationEnv) (body : Json) (draw : Draw) :
    Tx Db PyExc SimulationAnswer := do
  let body ← Tx.ofExcept body.asDict
  ownSession env.faults (highValueBlock env body draw)

structure CreateCustomerRequest where
  companyName : String
  contactName : String
  email : String
  industry : String
  revenue : PyFloat

inductive CustomerAnswer where
  | duplicate (reason : String)
  | created (customerId : Option Nat) (name email : String)

def CreateCustomerRequest.row (req : CreateCustomerRequest) : Customer where
  name := req.contactName
  email := req.email
  phone := none
  company := some req.companyName
  industry := some req.industry
  revenue := some req.revenue
  notes := none

def CreateCustomerRequest.taken (backend : Backend) (req : CreateCustomerRequest) : Bool :=
  backend.takesStr (.varchar 200) req.contactName && backend.takesStr (.varchar 200) req.email &&
    backend.takesStr (.varchar 200) req.companyName &&
    backend.takesStr (.varchar 100) req.industry && backend.takesFloat req.revenue

def insertCustomer (row : Customer) (db : Db) : Except PyExc Db :=
  match db.customers.insert row with
  | none => .error .integrityError
  | some (_, customers) => .ok { db with customers := customers }

/-- SELECT id FROM customers WHERE LOWER(email) = :email; `lowerSql` is the LOWER of the
server. -/
def lowerEmailExists (lowerSql : String → String) (email : String) (db : Db) : Bool :=
  db.customers.listing.rows.any fun row => decide (lowerSql row.2.email = email)

def createCustomerBlock (env : SimulationEnv) (lowerSql : String → String)
    (req : CreateCustomerRequest) : Block Db PyExc CustomerAnswer PUnit := do
  let existing ← query env.faults (lowerEmailExists lowerSql (env.py.lower req.email))
  ensure (.duplicate "customer with this email already exists") !existing
  execute env.faults fun db =>
    if req.taken env.backend then insertCustomer req.row db else .error .dataError

/-- The identity is selected after the commit, as the fourth statement of the session. -/
def createCustomer (env : SimulationEnv) (lowerSql : String → String)
    (req : CreateCustomerRequest) : Tx Db PyExc CustomerAnswer := do
  let answer ← ownSession env.faults (do
    createCustomerBlock env lowerSql req
    return .created none req.contactName req.email)
  match answer with
  | .duplicate reason => return .duplicate reason
  | .created _ name email =>
    match env.faults 3 with
    | some exc => Tx.raise exc
    | none =>
      let db ← Tx.read
      return .created (db.customers.find email) name email

structure FakeCompany where
  name : String
  industry : String
  revenue : PyFloat

def fakeCompanies : List FakeCompany := [
  ⟨"Quantum Dynamics", "Technology", .fin 12000000⟩,
  ⟨"Vector Air Mobility", "Aerospace", .fin 5800000⟩,
  ⟨"NovaTech Solutions", "Software", .fin 3200000⟩,
  ⟨"Pacific Rim Trading", "Logistics", .fin 8500000⟩,
  ⟨"Aurora BioSciences", "Healthcare", .fin 15000000⟩,
  ⟨"Pinnacle Manufacturing", "Industrial", .fin 9200000⟩,
  ⟨"Stellar Communications", "Telecom", .fin 7100000⟩,
  ⟨"Atlas Infrastructure", "Construction", .fin 6400000⟩]

def fakeContacts : List String :=
  ["Morgan Lee", "Jordan Chen", "Taylor Kim", "Alex Rivera", "Casey Wright", "Quinn Torres",
    "Riley Patel", "Drew Nguyen"]

/-- What `add_random_customer` draws. -/
structure RandomCustomer where
  company : FakeCompany
  contact : String
  hex : String
  known : company ∈ fakeCompanies ∧ contact ∈ fakeContacts

def RandomCustomer.email (py : Builtins) (drawn : RandomCustomer) : String :=
  "sim." ++ drawn.hex ++ "@" ++
    String.ofList ((py.lower drawn.company.name).toList.filter (· ≠ ' ')) ++ ".demo"

def RandomCustomer.row (py : Builtins) (drawn : RandomCustomer) : Customer where
  name := drawn.contact
  email := drawn.email py
  phone := none
  company := some drawn.company.name
  industry := some drawn.company.industry
  revenue := some drawn.company.revenue
  notes := none

/-- The identity is selected after the commit, as the third statement of the session. -/
def addRandomCustomer (env : SimulationEnv) (drawn : RandomCustomer) :
    Tx Db PyExc CustomerAnswer := do
  ownSession env.faults (execute env.faults (insertCustomer (drawn.row env.py)))
  match env.faults 2 with
  | some exc => Tx.raise exc
  | none =>
    let db ← Tx.read
    return .created (db.customers.find (drawn.email env.py)) drawn.contact (drawn.email env.py)

theorem insertCustomer_ok_iff {row : Customer} {db t : Db} :
    insertCustomer row db = .ok t ↔ ∃ id customers,
      db.customers.insert row = some (id, customers) ∧ t = { db with customers := customers } := by
  unfold insertCustomer
  rcases db.customers.insert row with _ | ⟨id, customers⟩
  · simp
  · simp [eq_comm]

/-- A session stores what its block reached, or takes it back. -/
theorem ownSession_cases {Answer : Type} (faults : Faults PyExc)
    (block : Block Db PyExc Answer Answer) (db : Db) :
    (∃ answer w, block ⟨db, 0⟩ = (.ok answer, w) ∧ faults w.statements = none ∧
      (ownSession faults block db).2 = w.state) ∨
    ∃ reached, (ownSession faults block db).2 = db.rollback reached := by
  unfold ownSession
  rcases block ⟨db, 0⟩ with ⟨(exc | answer) | answer, w⟩
  · exact .inr ⟨w.state, rfl⟩
  · exact .inr ⟨w.state, rfl⟩
  · rcases hfault : faults w.statements with _ | exc
    · refine .inl ⟨answer, w, rfl, hfault, ?_⟩
      dsimp only
      rw [hfault]
    · refine .inr ⟨w.state, ?_⟩
      dsimp only
      rw [hfault]

theorem addRandomCustomer_state (env : SimulationEnv) (drawn : RandomCustomer) (db : Db) :
    (addRandomCustomer env drawn db).2 =
      (ownSession env.faults (execute env.faults (insertCustomer (drawn.row env.py))) db).2 := by
  unfold addRandomCustomer
  rw [Tx.bind_apply]
  split
  · next answer t hsession =>
    rw [hsession]
    rcases env.faults 2 with _ | exc <;> rfl
  · next exc t hsession => rw [hsession]

/-- Reading the identity back leaves what the session has stored. -/
theorem createCustomer_state (env : SimulationEnv) (lowerSql : String → String)
    (req : CreateCustomerRequest) (db : Db) :
    (createCustomer env lowerSql req db).2 = (ownSession env.faults (do
      createCustomerBlock env lowerSql req
      return .created none req.contactName req.email) db).2 := by
  unfold createCustomer
  rw [Tx.bind_apply]
  split
  · next answer t hsession =>
    rw [hsession]
    rcases answer with reason | ⟨id, name, email⟩
    · rfl
    · rcases env.faults 3 with _ | exc
      · rfl
      · rfl
  · next exc t hsession => rw [hsession]

/-- The customers are as they were, or the one of the request is new: no stored e-mail
is, by the LOWER of the server, what Python makes of the one of the request. -/
theorem createCustomer_customers (env : SimulationEnv) (lowerSql : String → String)
    (req : CreateCustomerRequest) (db : Db) :
    (∀ i, (createCustomer env lowerSql req db).2.customers.row i = db.customers.row i) ∨
    ∃ id, env.faults 0 = none ∧ env.faults 1 = none ∧ env.faults 2 = none ∧
      req.taken env.backend = true ∧
      lowerEmailExists lowerSql (env.py.lower req.email) db = false ∧
      db.customers.insert req.row =
        some (id, (createCustomer env lowerSql req db).2.customers) := by
  rw [createCustomer_state]
  rcases ownSession_cases env.faults (do
      createCustomerBlock env lowerSql req
      return .created none req.contactName req.email) db with
    ⟨answer, w, hblock, hcommit, hreached⟩ | ⟨reached, hreached⟩
  · right
    unfold createCustomerBlock at hblock
    simp only [Tx.bind_ok_iff, query_ok_iff, ensure_ok_iff, execute_ok_iff, Tx.pure_ok_iff]
      at hblock
    obtain ⟨_, _, ⟨existing, _, ⟨hselect, rfl, rfl⟩, _, _, ⟨hnew, rfl⟩, hinsert, t, ht, rfl⟩,
      _, rfl⟩ := hblock
    rcases htaken : req.taken env.backend with _ | _
    · rw [htaken] at ht
      cases ht
    · rw [htaken] at ht
      obtain ⟨id, customers, hid, rfl⟩ := insertCustomer_ok_iff.mp ht
      refine ⟨id, hselect, hinsert, hcommit, rfl, ?_, ?_⟩
      · simpa using hnew
      · rw [hreached]
        exact hid
  · left
    intro i
    rw [hreached]
    rfl

end Simulation
