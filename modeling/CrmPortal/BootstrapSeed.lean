import CrmPortal.BootstrapShops
import CrmPortal.Simulation

/-!
# A start over a table without users

Such a start goes on after the administrator and the demo shops: in the same transaction
it inserts a dataset of customers, products, orders and order lines, each naming what
was inserted before it.
-/

namespace BootstrapSeed

open PyValue IdentityTable Transaction UnitOfWork CrmDatabase Products BootstrapAdmin
  BootstrapShops Simulation

/-- The clocks of the process and of the server. -/
structure SeedEnv extends BootstrapEnv where
  now : DateTime
  serverNow : DateTime

def minutes (n : Int) : Int := n * 60 * 1000000

def hours (n : Int) : Int := minutes (n * 60)

def days (n : Int) : Int := hours (n * 24)

def seedCustomer (name email phone company industry : String) (revenue : PyFloat) : Customer where
  name := name
  email := email
  phone := some phone
  company := some company
  industry := some industry
  revenue := some revenue
  notes := none

def acme : Customer := seedCustomer "Acme Corporation" "contact@acme.com" "+1-555-0101" "Acme Corp"
  "Manufacturing" (.fin 5200000)

def globex : Customer := seedCustomer "Globex Industries" "info@globex.com" "+1-555-0102" "Globex"
  "Technology" (.fin 12800000)

def initech : Customer := seedCustomer "Initech Solutions" "sales@initech.com" "+1-555-0103"
  "Initech" "Consulting" (.fin 3400000)

def wayne : Customer := seedCustomer "Wayne Enterprises" "bruce@wayne.com" "+1-555-0106"
  "Wayne Ent" "Conglomerate" (.fin 120000000)

def seedCustomers : List Customer := [acme, globex, initech, wayne]

def seedProduct (shopId : Option Nat) (name sku description : String) (cents : Int) (stock : Int)
    (category imageUrl : String) : Product where
  shopId := shopId
  name := name
  sku := sku
  description := some description
  price := .fin (cents / 100)
  stock := some stock
  category := some category
  imageUrl := some imageUrl
  isActive := some 1

def seedProducts (shopId : Option Nat) : List Product := [
  seedProduct shopId "Phantom Racer X1" "OCTO-001"
    ("Engineered for blistering speed and unmatched agility. Lightweight carbon fiber frame " ++
      "ensures maximum durability in high-speed maneuvers.")
    49999 150 "Racing Drones" "/static/img/products/octo_001.jpg",
  seedProduct shopId "Vortex Pro FPV" "OCTO-002"
    ("Immersive first-person view racing with exceptional control and a robust design, " ++
      "perfect for competitive pilots.")
    62950 120 "Racing Drones" "/static/img/products/octo_002.jpg",
  seedProduct shopId "Ignite Micro Racer" "OCTO-003"
    ("Designed for indoor racing fun and tight obstacle courses. Small size doesn't " ++
      "compromise on speed or responsiveness.")
    17900 250 "Racing Drones" "/static/img/products/octo_003.jpg",
  seedProduct shopId "SkyLens 4K Pro" "OCTO-004"
    ("Capture breathtaking aerial footage with a 3-axis gimbal and advanced flight modes. " ++
      "Extended battery for longer creative sessions.")
    129999 80 "Camera Drones" "/static/img/products/octo_004.jpg",
  seedProduct shopId "AeroFold Mini" "OCTO-005"
    ("Your perfect travel companion, easily folding down to fit in any bag. Crisp 1080p " ++
      "video and stable flight.")
    34995 180 "Camera Drones" "/static/img/products/octo_005.jpg",
  seedProduct shopId "CinemaFly Xtreme" "OCTO-006"
    ("Designed for professional filmmakers with interchangeable lenses and unparalleled " ++
      "stability for cinematic productions.")
    350000 60 "Camera Drones" "/static/img/products/octo_006.jpg",
  seedProduct shopId "TerraSurvey RTK" "OCTO-007"
    ("Precision mapping and surveying with RTK GPS for centimeter-level accuracy. " ++
      "Streamlines data collection for construction.")
    950000 50 "Industrial Drones" "/static/img/products/octo_007.jpg",
  seedProduct shopId "InspectMaster Thermal" "OCTO-008"
    ("Detailed inspections with high-resolution thermal camera and advanced obstacle " ++
      "avoidance for infrastructure assessments.")
    720000 70 "Industrial Drones" "/static/img/products/octo_008.jpg",
  seedProduct shopId "AgriSprayer Pro" "OCTO-009"
    ("Optimize crop health with efficient and precise payload application. Robust design " ++
      "handles large fields with ease.")
    1100000 55 "Industrial Drones" "/static/img/products/octo_009.jpg",
  seedProduct shopId "Extra Flight Battery Pack" "OCTO-010"
    ("Extend your flight time with an additional high-capacity LiPo battery. Compatible " ++
      "with Phantom Racer and SkyLens series.")
    4999 400 "Accessories" "/static/img/products/acc_001.jpg",
  seedProduct shopId "Propeller Guard Set" "OCTO-011"
    ("Protect your drone and surroundings with this durable propeller guard set. Easy to " ++
      "install, essential for beginners.")
    1995 500 "Accessories" "/static/img/products/acc_002.jpg",
  seedProduct shopId "Rugged Carrying Case" "OCTO-012"
    ("Safely transport your drone with this custom-fitted rugged carrying case. Superior " ++
      "protection against impacts.")
    12000 200 "Accessories" "/static/img/products/acc_003.jpg"]

/-- `rows[i].id`: the flush has given every row its identity. -/
def identityOf (ids : List Nat) (i : Nat) : Nat := ids.getD i 0

def seedOrders (env : SeedEnv) (customers : List Nat) : List Order := [
  { customerId := some (identityOf customers 0)
    total := .fin 129998
    status := some "completed"
    notes := none
    shippingAddress := some "123 Industrial Way, Springfield"
    sourceSystem := some "seed"
    sourceOrderId := some "seed-1001"
    sourceCustomerEmail := some acme.email
    syncStatus := some "seeded"
    backlogStatus := some "current"
    syncError := none
    sourcePayload := none
    correlationId := some "seed-1001"
    lastSyncedAt := some (env.now - days 2)
    createdAt := some env.serverNow },
  { customerId := some (identityOf customers 1)
    total := .fin 44998
    status := some "processing"
    notes := none
    shippingAddress := some "456 Tech Park, Silicon Valley"
    sourceSystem := some "seed"
    sourceOrderId := some "seed-1002"
    sourceCustomerEmail := some globex.email
    syncStatus := some "seeded"
    backlogStatus := some "backlog"
    syncError := none
    sourcePayload := none
    correlationId := some "seed-1002"
    lastSyncedAt := some (env.now - hours 3)
    createdAt := some env.serverNow },
  { customerId := some (identityOf customers 3)
    total := .fin 269997
    status := some "pending"
    notes := none
    shippingAddress := some "1007 Mountain Drive, Gotham"
    sourceSystem := some "octo-drone-shop"
    sourceOrderId := some "drone-2001"
    sourceCustomerEmail := some wayne.email
    syncStatus := some "synced"
    backlogStatus := some "backlog"
    syncError := none
    sourcePayload := none
    correlationId := some "seed-2001"
    lastSyncedAt := some (env.now - minutes 45)
    createdAt := some env.serverNow }]

def seedItems (orders products : List Nat) : List OrderItem := [
  ⟨identityOf orders 0, some (identityOf products 0), 1, .fin 99999⟩,
  ⟨identityOf orders 0, some (identityOf products 2), 2, .fin 14999⟩,
  ⟨identityOf orders 1, some (identityOf products 1), 1, .fin 29999⟩,
  ⟨identityOf orders 1, some (identityOf products 2), 1, .fin 14999⟩,
  ⟨identityOf orders 2, some (identityOf products 0), 2, .fin 99999⟩,
  ⟨identityOf orders 2, some (identityOf products 3), 1, .fin 19999⟩]

def seedAudit : AuditLog where
  userId := none
  action := "bootstrap.seed"
  resource := "database"
  details := "Initial demo dataset loaded"
  ipAddress := some "127.0.0.1"
  userAgent := none
  traceId := "bootstrap-seed"

/-- An INSERT of the session, and the identity that the row gets. -/
def addRow (faults : Faults PyExc) (next : Db → Nat) (insert : Db → Except PyExc Db) :
    StartBlock Nat := do
  let before ← Tx.read
  execute faults fun s => (insert s.db).map fun db => { s with db := db }
  return next before.state.db

def insertSeedOrder (row : Order) (db : Db) : Except PyExc Db :=
  match db.orders.insert row with
  | none => .error .integrityError
  | some (_, orders) => .ok { db with orders := orders }

def addCustomer (faults : Faults PyExc) (row : Customer) : StartBlock Nat :=
  addRow faults (·.customers.next) (insertCustomer row)

def addProduct (faults : Faults PyExc) (row : Product) : StartBlock Nat :=
  addRow faults (·.products.next) (insertProduct row)

def addOrder (faults : Faults PyExc) (row : Order) : StartBlock Nat :=
  addRow faults (·.orders.next) (insertSeedOrder row)

/-- `session.add_all` and the flush. -/
def addAll {Row : Type} (add : Row → StartBlock Nat) : List Row → StartBlock (List Nat)
  | [] => return []
  | row :: more => do
    let id ← add row
    let ids ← addAll add more
    return id :: ids

/-- The shop that carries the slug, one of the two that `_ensure_demo_shops` returns. -/
def primaryShop : StartBlock (Option Nat) := do
  let now ← Tx.read
  return now.state.db.shops.find primaryStore.shop.slug

def seedDataset (env : SeedEnv) (faults : Faults PyExc) : StartBlock PUnit := do
  let customers ← addAll (addCustomer faults) seedCustomers
  let shopId ← primaryShop
  let products ← addAll (addProduct faults) (seedProducts shopId)
  let orders ← addAll (addOrder faults) (seedOrders env customers)
  execute faults fun s =>
    .ok { s with db := { s.db with orderItems := s.db.orderItems ++ seedItems orders products } }
  execute faults fun s =>
    .ok { s with db := { s.db with auditLogs := s.db.auditLogs ++ [seedAudit] } }

/-- `existing_user`: an identity 0 counts as none. -/
def foundUser (env : SeedEnv) (s : Store) : Bool :=
  decide (((env.server.anyRow s.accounts.users.rows).map Accounts.User.id).getD 0 ≠ 0)

/-- The administrator and the shops come first in both branches. -/
def startBlock (env : SeedEnv) (faults : Faults PyExc) (password : String) : StartBlock PUnit := do
  let before ← Tx.read
  bootstrapBlock env.toBootstrapEnv faults password
  if foundUser env before.state then return ⟨⟩ else seedDataset env faults

/-- `bootstrap_database` over any table of users. -/
def startDatabase (env : SeedEnv) (faults : Faults PyExc) (s : Store) :
    Ended Store PyExc Empty PUnit :=
  match adminPassword env.toBootstrapEnv with
  | .error e => .rolledBack e s
  | .ok password => run faults Store.rollback (startBlock env faults password) s

/-- Over a table with users a start ends with the shops. -/
theorem startDatabase_of_user {env : SeedEnv} {s : Store} (h : foundUser env s = true)
    (faults : Faults PyExc) :
    startDatabase env faults s = bootstrapDatabase env.toBootstrapEnv faults s := by
  have hblock : ∀ password, startBlock env faults password ⟨s, 0⟩ =
      bootstrapBlock env.toBootstrapEnv faults password ⟨s, 0⟩ := by
    intro password
    unfold startBlock
    rw [Tx.bind_of_ok _ (Tx.read_apply _)]
    rcases hrun : bootstrapBlock env.toBootstrapEnv faults password ⟨s, 0⟩ with ⟨e | u, w⟩
    · rw [Tx.bind_of_error _ hrun]
    · rw [Tx.bind_of_ok _ hrun, if_pos h]
      rfl
  unfold startDatabase bootstrapDatabase
  rcases adminPassword env.toBootstrapEnv with e | password
  · rfl
  · dsimp only
    unfold run
    rw [hblock password]

end BootstrapSeed
