import CrmPortal.Customers
import CrmPortal.OrderSyncSpec
import CrmPortal.Library.Schedule

/-!
# Who writes which spelling of an e-mail

Three operations insert customers. The customer router stores the e-mail of the body and
compares nothing; the simulation compares through LOWER and stores what it was given; the
sync lower-cases its e-mail, and compares it and stores it exactly. The database refuses
an e-mail that is stored already in the same spelling, and nothing else.
-/

namespace CustomerEmails

open PyValue IdentityTable Transaction UnitOfWork CrmDatabase Simulation Customers
open OrderNormalization OrderSync OrderSyncSpec Schedule

structure EmailEnv where
  py : Builtins
  backend : Backend
  bindFloat : Json → Option PyFloat
  lowerSql : String → String
  sourceName : String

/-- `undone` is where a run of the sync that fails has got to: the rollback leaves of it
the identities that are used. -/
inductive Operation where
  | createCustomer (faults : Faults PyExc) (body : Json)
  | simulateCreateCustomer (faults : Faults PyExc) (correlationId : String)
      (req : CreateCustomerRequest)
  | syncExternalOrders (correlationId traceId : String)
      (listing : (products : ProductTable) → Table.Listing products) (feed : List Arrival)
      (undone : Db)

section Operations
variable (env : EmailEnv)

def EmailEnv.customers (faults : Faults PyExc) : CustomersEnv where
  py := env.py
  backend := env.backend
  bindFloat := env.bindFloat
  faults := faults

def EmailEnv.simulation (faults : Faults PyExc) (correlationId : String) : SimulationEnv where
  py := env.py
  backend := env.backend
  correlationId := correlationId
  faults := faults

def EmailEnv.sync (correlationId traceId : String) : SyncEnv where
  py := env.py
  backend := env.backend
  sourceName := env.sourceName
  correlationId := correlationId
  traceId := traceId

/-- What the operation leaves of the database. -/
def perform (db : Db) : Operation → Db
  | .createCustomer faults body => (Customers.createCustomer (env.customers faults) body db).2
  | .simulateCreateCustomer faults correlationId req =>
    (Simulation.createCustomer (env.simulation faults correlationId) env.lowerSql req db).2
  | .syncExternalOrders correlationId traceId listing feed undone =>
    match OrderSync.syncExternalOrders (env.sync correlationId traceId) db
        (listing db.products) feed with
    | .ok (_, reached) => reached
    | .error _ => db.rollback undone

/-- Every operation can be run. -/
def step (db : Db) (op : Operation) : Option Db := some (perform env db op)

end Operations

/-- No two customers have e-mails that are equal ignoring case. -/
def Distinct (py : Builtins) (customers : CustomerTable) : Prop :=
  ∀ i j first second, customers.row i = some first → customers.row j = some second →
    py.lower first.email = py.lower second.email → i = j

/-- Where the e-mail is stored, it is stored in this spelling. -/
def OneSpelling (py : Builtins) (customers : CustomerTable) (email : String) : Prop :=
  ∀ i customer, customers.row i = some customer →
    py.lower customer.email = py.lower email → customer.email = email

/-- No statement among the first `count` fails. -/
def Undisturbed (faults : Faults PyExc) (count : Nat) : Prop := ∀ k < count, faults k = none

/-- Each entry with a source id meets its e-mail in one spelling. -/
def EntriesSpelled (env : SyncEnv) : List NormalizedOrder → SyncSession → Prop
  | [], _ => True
  | n :: rest, s =>
    (n.sourceOrderId ≠ "" → OneSpelling env.py s.db.customers (insertedEmail n)) ∧
      EntriesSpelled env rest (syncEntry env n s).2

/-- The operation meets no other spelling of an e-mail that it would store; the simulation
may meet one that the LOWER of the server turns into what Python makes of its own. -/
def MeetsOneSpelling (env : EmailEnv) (db : Db) : Operation → Prop
  | .createCustomer faults body => Undisturbed faults 2 → ∀ fields notes row,
      body.asDict = .ok fields → (fields.getD "notes" (.str "")).asStr = .ok notes →
      customerRow (env.customers faults) fields notes = .ok row →
      OneSpelling env.py db.customers row.email
  | .simulateCreateCustomer faults _ req => Undisturbed faults 3 → req.taken env.backend = true →
      ∀ i customer, db.customers.row i = some customer →
        env.py.lower customer.email = env.py.lower req.email →
        env.lowerSql customer.email = env.py.lower req.email ∨ customer.email = req.email
  | .syncExternalOrders correlationId traceId listing feed _ =>
      ∀ ns, normalizeFeed env.py feed = .ok ns →
        EntriesSpelled (env.sync correlationId traceId) ns
          (startSession (env.sync correlationId traceId) db (listing db.products))

section Insertion
variable {py : Builtins} {customers t : CustomerTable} {row : Customer} {id : Nat}

theorem Distinct.congr (h : Distinct py customers) (rows : ∀ i, t.row i = customers.row i) :
    Distinct py t := by
  intro i j first second hi hj heq
  rw [rows] at hi hj
  exact h i j first second hi hj heq

/-- The row that is inserted is met by none in its own spelling. -/
theorem insert_email (h : customers.insert row = some (id, t)) {i : Nat} {customer : Customer}
    (hi : customers.row i = some customer) : customer.email ≠ row.email := by
  intro hemail
  have hinserted : (customers.insert row).isSome := Option.isSome_of_eq_some h
  have hnone := (customers.insert_isSome_iff row).mp hinserted row.email rfl
  have hfound := (customers.find_eq_some_iff row.email i).mpr
    ⟨customer, hi, congrArg some hemail⟩
  rw [hnone] at hfound
  cases hfound

theorem Distinct.insert (h : Distinct py customers)
    (hinsert : customers.insert row = some (id, t)) (spelled : OneSpelling py customers row.email) :
    Distinct py t := by
  obtain ⟨-, -, -, hrow⟩ := Table.insert_eq_some hinsert
  have apart : ∀ i customer, customers.row i = some customer →
      py.lower customer.email ≠ py.lower row.email := by
    intro i customer hi heq
    exact insert_email hinsert hi (spelled i customer hi heq)
  intro i j first second hi hj heq
  rw [hrow] at hi hj
  by_cases hit : i = id
  · by_cases hjt : j = id
    · exact hit.trans hjt.symm
    · rw [if_pos hit] at hi
      rw [if_neg hjt] at hj
      obtain rfl := Option.some.inj hi
      exact absurd heq.symm (apart j second hj)
  · rw [if_neg hit] at hi
    by_cases hjt : j = id
    · rw [if_pos hjt] at hj
      obtain rfl := Option.some.inj hj
      exact absurd heq (apart i first hi)
    · rw [if_neg hjt] at hj
      exact h i j first second hi hj heq

/-- What an operation leaves of the customers: as they were, or with one more row. -/
theorem Distinct.grown (h : Distinct py customers)
    (hgrown : (∀ i, t.row i = customers.row i) ∨
      ∃ row id, customers.insert row = some (id, t) ∧ OneSpelling py customers row.email) :
    Distinct py t := by
  rcases hgrown with hrows | ⟨row, id, hinsert, spelled⟩
  · exact h.congr hrows
  · exact h.insert hinsert spelled

end Insertion

section Steps
variable {env : EmailEnv} {db : Db}

/-- An entry that is stored has found its customer or has inserted it. -/
theorem syncEntry_customers (sync : SyncEnv) (n : NormalizedOrder) (s : SyncSession) :
    (∀ i, (syncEntry sync n s).2.db.customers.row i = s.db.customers.row i) ∨
    ∃ row id, n.sourceOrderId ≠ "" ∧ row.email = insertedEmail n ∧
      s.db.customers.insert row = some (id, (syncEntry sync n s).2.db.customers) := by
  rcases syncEntry_cases sync n s with ⟨-, h⟩ | ⟨hid, action, orderId, t, hstore, h⟩ |
    ⟨-, exc, m, -, h⟩
  · rw [h]
    exact .inl fun _ => rfl
  · rw [h]
    obtain ⟨customerId, customers, orders, ids, c, hcustomer, -, -, -, -, rfl⟩ :=
      storeEntry_ok hstore
    rcases resolveCustomer_ok_iff.mp hcustomer with ⟨-, rfl⟩ | ⟨-, name, -, -, -, hinsert⟩
    · exact .inl fun _ => rfl
    · exact .inr ⟨newCustomer sync n name, customerId, hid, rfl, hinsert⟩
  · rw [h]
    exact .inl fun _ => rfl

theorem syncAll_distinct {sync : SyncEnv} {ns : List NormalizedOrder} {s : SyncSession}
    (spelled : EntriesSpelled sync ns s) (h : Distinct sync.py s.db.customers) :
    Distinct sync.py (syncAll sync ns s).2.db.customers := by
  induction ns generalizing s with
  | nil => exact h
  | cons n rest ih =>
    obtain ⟨hentry, hrest⟩ := spelled
    refine ih hrest (h.grown ?_)
    rcases syncEntry_customers sync n s with hrows | ⟨row, id, hid, hemail, hinsert⟩
    · exact .inl hrows
    · refine .inr ⟨row, id, hinsert, ?_⟩
      rw [hemail]
      exact hentry hid

theorem lowerEmailExists_false_iff {lowerSql : String → String} {email : String} :
    lowerEmailExists lowerSql email db = false ↔
      ∀ i customer, db.customers.row i = some customer → lowerSql customer.email ≠ email := by
  simp only [lowerEmailExists, List.any_eq_false, decide_eq_true_eq, Prod.forall]
  constructor
  · intro h i customer hi
    exact h i customer ((db.customers.listing.complete i customer).mpr hi)
  · intro h i customer hi
    exact h i customer ((db.customers.listing.complete i customer).mp hi)

/-- Where the LOWER of the server is the one of Python, the simulation stores no second copy
of a customer, however it is spelled. -/
theorem simulation_meets (agree : ∀ text, env.lowerSql text = env.py.lower text)
    (faults : Faults PyExc) (correlationId : String) (req : CreateCustomerRequest) :
    MeetsOneSpelling env db (.simulateCreateCustomer faults correlationId req) := by
  intro _ _ i customer _ heq
  exact .inl ((agree customer.email).trans heq)

/-- Every operation keeps what it meets in one spelling. -/
theorem perform_distinct {op : Operation} (h : Distinct env.py db.customers)
    (spelled : MeetsOneSpelling env db op) : Distinct env.py (perform env db op).customers := by
  cases op with
  | createCustomer faults body =>
    refine h.grown ?_
    rcases Customers.createCustomer_customers (env.customers faults) body db with hrows |
      ⟨fields, notes, row, id, hfields, hnotes, hrow, hsent, hcommit, hinsert⟩
    · exact .inl hrows
    · have hquiet : Undisturbed faults 2 := by
        intro k hk
        rcases k with _ | _ | k
        · exact hsent
        · exact hcommit
        · omega
      exact .inr ⟨row, id, hinsert, spelled hquiet fields notes row hfields hnotes hrow⟩
  | simulateCreateCustomer faults correlationId req =>
    refine h.grown ?_
    rcases Simulation.createCustomer_customers (env.simulation faults correlationId) env.lowerSql
      req db with hrows | ⟨id, hselect, hsent, hcommit, htaken, hnew, hinsert⟩
    · exact .inl hrows
    · have hquiet : Undisturbed faults 3 := by
        intro k hk
        rcases k with _ | _ | _ | k
        · exact hselect
        · exact hsent
        · exact hcommit
        · omega
      refine .inr ⟨req.row, id, hinsert, ?_⟩
      intro i customer hi heq
      rcases spelled hquiet htaken i customer hi heq with hlower | hsame
      · exact absurd hlower (lowerEmailExists_false_iff.mp hnew i customer hi)
      · exact hsame
  | syncExternalOrders correlationId traceId listing feed undone =>
    rcases hrun : OrderSync.syncExternalOrders (env.sync correlationId traceId) db
        (listing db.products) feed with exc | ⟨r, reached⟩
    · simp only [perform, hrun]
      exact h.congr fun _ => rfl
    · simp only [perform, hrun]
      obtain ⟨ns, hns, -, rfl, -⟩ := syncExternalOrders_ok_iff.mp hrun
      exact syncAll_distinct (spelled ns hns) h

end Steps

/-- In every sequence of operations each of which meets its e-mails in one spelling, no
two customers ever have e-mails that are equal ignoring case. -/
theorem emails_stay_distinct {env : EmailEnv} {db reached : Db} {ops : List Operation}
    (hrun : exec (step env) db ops = some reached)
    (spelled : Along (MeetsOneSpelling env) (step env) db ops)
    (start : Distinct env.py db.customers) : Distinct env.py reached.customers := by
  refine exec_invariant_along (P := fun db => Distinct env.py db.customers) ?_ hrun spelled start
  intro s op t hs hop hstep
  obtain rfl := Option.some.inj hstep
  exact perform_distinct hs hop

def sampleEmailEnv : EmailEnv where
  py := asciiBuiltins sampleHash
  backend := postgres
  bindFloat := fun _ => some .zero
  lowerSql := (asciiBuiltins sampleHash).lower
  sourceName := "octo-drone-shop"

def post (email : String) : Operation :=
  .createCustomer (fun _ => none) (.obj [("name", .str "Ada"), ("email", .str email)])

def syncOne (email : String) : Operation :=
  .syncExternalOrders "run-1" "trace-1" Table.listing
    [⟨sampleOrder "42" email "camera" 1 10, 0⟩] Db.empty

theorem empty_distinct (py : Builtins) : Distinct py Db.empty.customers := by
  intro i j first second hi
  cases hi

/-- The sync writes its Ada in lower case next to the one that was posted with a capital. -/
theorem second_copy_of_ada :
    ¬ ∀ (ops : List Operation) (reached : Db),
      exec (step sampleEmailEnv) Db.empty ops = some reached →
      Distinct sampleEmailEnv.py reached.customers := by
  intro hall
  have hdistinct := hall [post "Ada@x", syncOne "Ada@x"] _ rfl
  have hfirst : ((perform sampleEmailEnv (perform sampleEmailEnv Db.empty (post "Ada@x"))
      (syncOne "Ada@x")).customers.row 1).map Customer.email = some "Ada@x" := by decide +kernel
  have hsecond : ((perform sampleEmailEnv (perform sampleEmailEnv Db.empty (post "Ada@x"))
      (syncOne "Ada@x")).customers.row 2).map Customer.email = some "ada@x" := by decide +kernel
  obtain ⟨first, hi, hfirst⟩ := Option.map_eq_some_iff.mp hfirst
  obtain ⟨second, hj, hsecond⟩ := Option.map_eq_some_iff.mp hsecond
  have hsame : sampleEmailEnv.py.lower first.email = sampleEmailEnv.py.lower second.email := by
    rw [hfirst, hsecond]
    decide
  have habsurd : 1 = 2 := hdistinct 1 2 first second hi hj hsame
  omega

theorem posted_email {i : Nat} {customer : Customer}
    (h : (perform sampleEmailEnv Db.empty (post "ada@x")).customers.row i = some customer) :
    customer.email = "ada@x" := by
  have hemails : (perform sampleEmailEnv Db.empty (post "ada@x")).customers.listing.rows.map
      (fun row => row.2.email) = ["ada@x"] := by decide +kernel
  have hmem := List.mem_map_of_mem (f := fun row : Nat × Customer => row.2.email)
    ((Table.listing _).complete i customer |>.mpr h)
  rw [hemails] at hmem
  exact List.mem_singleton.mp hmem

theorem synced_email {ns : List NormalizedOrder}
    (h : normalizeFeed sampleEmailEnv.py [⟨sampleOrder "42" "Ada@x" "camera" 1 10, 0⟩] = .ok ns) :
    ∃ n, ns = [n] ∧ insertedEmail n = "ada@x" := by
  have hinserted : (normalizeExternalOrder sampleEmailEnv.py 0
      (sampleOrder "42" "Ada@x" "camera" 1 10)).toOption.map insertedEmail = some "ada@x" := by
    decide +kernel
  obtain ⟨n, tail, hn, htail, rfl⟩ := normalizeFeed_cons_ok_iff.mp h
  obtain rfl := Except.ok.inj htail
  dsimp only at hn
  rw [hn] at hinserted
  exact ⟨n, rfl, Option.some.inj hinserted⟩

/-- Posted in lower case, Ada is found by the sync. -/
theorem emails_stay_distinct_sample :
    ∃ reached, exec (step sampleEmailEnv) Db.empty [post "ada@x", syncOne "Ada@x"] =
      some reached ∧ Distinct sampleEmailEnv.py reached.customers := by
  have hrun : ∃ reached, exec (step sampleEmailEnv) Db.empty [post "ada@x", syncOne "Ada@x"] =
      some reached := ⟨_, rfl⟩
  obtain ⟨reached, hrun⟩ := hrun
  have hposted : MeetsOneSpelling sampleEmailEnv Db.empty (post "ada@x") := by
    intro _ fields notes row _ _ _ i customer hi
    cases hi
  have hsynced : MeetsOneSpelling sampleEmailEnv
      (perform sampleEmailEnv Db.empty (post "ada@x")) (syncOne "Ada@x") := by
    intro ns hns
    obtain ⟨n, rfl, hinserted⟩ := synced_email hns
    refine ⟨fun _ i customer hi _ => ?_, trivial⟩
    exact (posted_email hi).trans hinserted.symm
  refine ⟨reached, hrun, emails_stay_distinct hrun ⟨hposted, ?_⟩ (empty_distinct _)⟩
  intro t ht
  obtain rfl := Option.some.inj ht
  exact ⟨hsynced, fun _ _ => trivial⟩

end CustomerEmails
