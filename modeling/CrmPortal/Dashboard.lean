import CrmPortal.Analytics
import CrmPortal.BacklogAge
import CrmPortal.Library.Grouping

/-!
# The summary and the N+1 demo

`dashboard_summary` counts the orders of the best customers in one query, an outer join with
groups; `n_plus_one_demo` asks once for each customer. They agree, customers without orders
included, and the groups of the other queries add up to their tables.
-/

namespace Dashboard

open PyValue IdentityTable CrmDatabase BacklogAge Grouping

structure Invoice where
  status : Option String
  amount : Option PyFloat

/-- A status of the tickets, None for the NULLs, and how many have it. -/
abbrev StatusCount := Option String × Nat

structure InvoiceStat where
  status : Option String
  count : Nat
  total : PyFloat

/-- A row of the query for the best customers. -/
structure TopRow where
  id : Nat
  name : String
  revenue : Option PyFloat
  orderCount : Nat

structure TopCustomer where
  id : Nat
  name : String
  revenue : PyFloat
  orderCount : Nat

section Queries
variable (db : Db)

/-- The condition of the join; a NULL joins nothing. -/
def ordersOf (customer : Nat × Customer) (order : Nat × Order) : Bool :=
  decide (order.2.customerId = some customer.1)

/-- The columns of the GROUP BY. -/
def grouped (customer : Nat × Customer) : Nat × String × Option PyFloat :=
  (customer.1, customer.2.name, customer.2.revenue)

def customerOrders : List ((Nat × Customer) × Option (Nat × Order)) :=
  outerJoin ordersOf db.customers.listing.rows db.orders.listing.rows

def topRow (key : Nat × String × Option PyFloat) : TopRow where
  id := key.1
  name := key.2.1
  revenue := key.2.2
  orderCount := (group (fun row => grouped row.1) (customerOrders db) key).countP fun row =>
    row.2.isSome

def topRows : List TopRow :=
  (groupKeys (fun row => grouped row.1) (customerOrders db)).map (topRow db)

/-- `revenue DESC`: the NULLs come first, and the server ranks a NaN above all numbers. -/
def highestRevenue (a b : TopRow) : Prop :=
  match a.revenue, b.revenue with
  | none, _ => True
  | some _, none => False
  | some x, some y => x = .nan ∨ PyFloat.le y x = true

/-- `float(row.revenue or 0)`. -/
def topCustomer (row : TopRow) : TopCustomer :=
  ⟨row.id, row.name, row.revenue.getD .zero, row.orderCount⟩

def orderTotals : List PyFloat := db.orders.listing.rows.map fun row => row.2.total

/-- `COALESCE(AVG(total), 0)`. -/
def average (total : PyFloat) (count : Nat) : PyFloat :=
  match total with
  | .fin q => .fin (q / count)
  | x => x

end Queries

def ticketStats (tickets : List (Option String)) : List StatusCount :=
  (groupKeys id tickets).map fun status => (status, (group id tickets status).length)

/-- SUM leaves the NULLs out. -/
def amounts (invoices : List Invoice) : List PyFloat := invoices.map fun i => i.amount.getD 0

def invoiceStats (invoices : List Invoice) : List InvoiceStat :=
  (groupKeys Invoice.status invoices).map fun status =>
    let rows := group Invoice.status invoices status
    ⟨status, rows.length, (amounts rows).sum⟩

structure Summary where
  customers : Nat
  orders : Nat
  revenue : PyFloat
  average : PyFloat
  tickets : List StatusCount
  invoices : List InvoiceStat
  topCustomers : List TopCustomer
  security : OrderSecuritySummary

/-- `rows` is the answer of the server to the query for the best customers. -/
def dashboardSummary (config : SummaryConfig) (now : DateTime) (tickets : List (Option String))
    (invoices : List Invoice) (rows : List TopRow) (db : Db) : Summary where
  customers := db.customers.count
  orders := db.orders.count
  revenue := (orderTotals db).sum
  average := PyFloat.round2 (average (orderTotals db).sum db.orders.count)
  tickets := ticketStats tickets
  invoices := invoiceStats invoices
  topCustomers := (Paging.page 5 0 rows).map topCustomer
  security := orderSecuritySummary config now db

structure NPlusOneRow where
  customer : String
  orderCount : Nat
  total : PyFloat

/-- The query for one customer. -/
def nPlusOneRow (db : Db) (customer : Nat × Customer) : NPlusOneRow :=
  let orders := db.orders.listing.rows.filter (ordersOf customer)
  ⟨customer.2.name, orders.length, (orders.map fun row => row.2.total).sum⟩

structure NPlusOne where
  results : List NPlusOneRow
  queryCount : Nat

def nPlusOneDemo (db : Db) : NPlusOne where
  results := db.customers.listing.rows.map (nPlusOneRow db)
  queryCount := db.customers.listing.rows.length + 1

section TopCustomers
variable {db : Db}

theorem grouped_once (db : Db) : (db.customers.listing.rows.map grouped).Nodup := by
  refine List.Nodup.of_map Prod.fst ?_
  rw [List.map_map]
  exact db.customers.listing.once

/-- The group of a customer counts the orders that its own query would. -/
theorem topRow_grouped {customer : Nat × Customer} (h : customer ∈ db.customers.listing.rows) :
    topRow db (grouped customer) =
      ⟨customer.1, customer.2.name, customer.2.revenue, (nPlusOneRow db customer).orderCount⟩ := by
  have hgroup : group (fun row => grouped row.1) (customerOrders db) (grouped customer) =
      joined ordersOf db.orders.listing.rows customer := group_outerJoin (grouped_once db) h
  have hcount : (topRow db (grouped customer)).orderCount =
      (nPlusOneRow db customer).orderCount := by
    simp only [topRow, hgroup, count_joined, nPlusOneRow]
    exact List.countP_eq_length_filter
  rw [← hcount]
  rfl

/-- The rows of the query, in any order, are those of the customers. -/
theorem topRows_perm (db : Db) :
    (topRows db).Perm
      (db.customers.listing.rows.map fun customer => topRow db (grouped customer)) := by
  have hkeys : (groupKeys (fun row => grouped row.1) (customerOrders db)).Perm
      (db.customers.listing.rows.map grouped) := groupKeys_outerJoin (grouped_once db)
  have hrows := hkeys.map (topRow db)
  rwa [List.map_map] at hrows

theorem mem_topRows {row : TopRow} (h : row ∈ topRows db) :
    ∃ customer ∈ db.customers.listing.rows, row =
      ⟨customer.1, customer.2.name, customer.2.revenue, (nPlusOneRow db customer).orderCount⟩ := by
  obtain ⟨customer, hcustomer, rfl⟩ := List.mem_map.mp ((topRows_perm db).mem_iff.mp h)
  exact ⟨customer, hcustomer, topRow_grouped hcustomer⟩

theorem topRows_length (db : Db) : (topRows db).length = db.customers.count := by
  rw [(topRows_perm db).length_eq, List.length_map]
  rfl

end TopCustomers

/-- The orders that have a customer, if every customer named is there. -/
def withCustomer (db : Db) : List (Nat × Order) :=
  db.orders.listing.rows.filter fun row => row.2.customerId.isSome

def withoutCustomer (db : Db) : List (Nat × Order) :=
  db.orders.listing.rows.filter fun row => !row.2.customerId.isSome

section Sums
variable {M : Type} [AddCommMonoid M] {db : Db}

theorem sum_over_customers (h : db.ForeignKeys) (f : Nat × Order → M) :
    (db.customers.listing.rows.map fun customer =>
      ((db.orders.listing.rows.filter (ordersOf customer)).map f).sum).sum =
      ((withCustomer db).map f).sum := by
  have honce : (db.customers.listing.rows.map fun customer => some customer.1).Nodup := by
    have hids := db.customers.listing.once.map (f := some) (Option.some_injective Nat)
    rwa [List.map_map] at hids
  have hmem : ∀ row ∈ db.orders.listing.rows, row.2.customerId.isSome = true ↔
      row.2.customerId ∈ db.customers.listing.rows.map fun customer => some customer.1 := by
    intro row hrow
    have horder := (db.orders.listing.complete row.1 row.2).mp hrow
    rw [Option.isSome_iff_exists, List.mem_map]
    constructor
    · rintro ⟨id, hid⟩
      obtain ⟨c, hc⟩ := Option.isSome_iff_exists.mp (h.customer row.1 row.2 id horder hid)
      exact ⟨(id, c), (db.customers.listing.complete id c).mpr hc, hid.symm⟩
    · rintro ⟨customer, -, hid⟩
      exact ⟨customer.1, hid.symm⟩
  have hsum := sum_groups honce hmem f
  rwa [List.map_map] at hsum

theorem sum_with_and_without (db : Db) (f : Nat × Order → M) :
    ((withCustomer db).map f).sum + ((withoutCustomer db).map f).sum =
      (db.orders.listing.rows.map f).sum := by
  rw [← List.sum_append, ← List.map_append]
  exact ((List.filter_append_perm _ db.orders.listing.rows).map f).sum_eq

end Sums

/-- In a database without dangling references: the summary and the demo give the same number
of orders for each of the best customers, which are five of the customers or all; and the
demo's customers, with the orders that have none, come to the number of orders and to the
revenue of the summary, as its groups of tickets and invoices come to their tables. -/
theorem summary_agrees_with_demo (config : SummaryConfig) (now : DateTime)
    (tickets : List (Option String)) (invoices : List Invoice) {rows : List TopRow} {db : Db}
    (h : db.ForeignKeys) (answer : Paging.Answer highestRevenue (topRows db) rows) :
    let summary := dashboardSummary config now tickets invoices rows db
    let demo := nPlusOneDemo db
    (∀ top ∈ summary.topCustomers, ∃ c, db.customers.row top.id = some c ∧ top.name = c.name ∧
        nPlusOneRow db (top.id, c) ∈ demo.results ∧
        top.orderCount = (nPlusOneRow db (top.id, c)).orderCount) ∧
      summary.topCustomers.length = min 5 summary.customers ∧
      (demo.results.map NPlusOneRow.orderCount).sum + (withoutCustomer db).length =
        summary.orders ∧
      (demo.results.map NPlusOneRow.total).sum +
          ((withoutCustomer db).map fun row => row.2.total).sum = summary.revenue ∧
      (summary.tickets.map Prod.snd).sum = tickets.length ∧
      (summary.invoices.map InvoiceStat.count).sum = invoices.length ∧
      (summary.invoices.map InvoiceStat.total).sum = (amounts invoices).sum := by
  refine ⟨?_, ?_, ?_, ?_, ?_, ?_, ?_⟩
  · intro top htop
    obtain ⟨row, hrow, rfl⟩ := List.mem_map.mp htop
    have hmem : row ∈ topRows db := answer.perm.mem_iff.mp (List.mem_of_mem_take hrow)
    obtain ⟨⟨id, c⟩, hcustomer, rfl⟩ := mem_topRows hmem
    exact ⟨c, (db.customers.listing.complete id c).mp hcustomer, rfl,
      List.mem_map_of_mem hcustomer, rfl⟩
  · have hrows : rows.length = db.customers.count := answer.perm.length_eq.trans (topRows_length db)
    simp only [dashboardSummary, Paging.page, List.length_map, List.length_take, List.drop_zero,
      hrows]
  · have hsum := sum_over_customers h fun _ => 1
    have hall := sum_with_and_without db fun _ => 1
    simp only [← length_eq_sum] at hsum hall
    simp only [nPlusOneDemo, List.map_map]
    exact (congrArg (· + (withoutCustomer db).length) hsum).trans hall
  · have hsum := sum_over_customers h fun row => row.2.total
    have hall := sum_with_and_without db fun row => row.2.total
    simp only [nPlusOneDemo, List.map_map]
    exact (congrArg (· + ((withoutCustomer db).map fun row => row.2.total).sum) hsum).trans hall
  · have hall := sum_all_groups id tickets fun _ => 1
    simp only [← length_eq_sum] at hall
    simp only [dashboardSummary, ticketStats, List.map_map]
    exact hall
  · have hall := sum_all_groups Invoice.status invoices fun _ => 1
    simp only [← length_eq_sum] at hall
    simp only [dashboardSummary, invoiceStats, List.map_map]
    exact hall
  · have hall := sum_all_groups Invoice.status invoices fun i => i.amount.getD 0
    simp only [dashboardSummary, invoiceStats, List.map_map]
    exact hall

def ann : Customer := ⟨"Ann", "ann@example.com", none, none, none, some (.fin 10), none⟩

def bob : Customer := ⟨"Bob", "bob@example.com", none, none, none, some (.fin 20), none⟩

def addedCustomer (customers : CustomerTable) (c : Customer) : CustomerTable :=
  ((customers.insert c).map Prod.snd).getD customers

/-- Two orders of Ann, one of Bob and one without a customer. -/
def sampleOrders : OrderTable :=
  [Analytics.sampleOrder 1, Analytics.sampleOrder 1, Analytics.sampleOrder 2,
    { Analytics.sampleOrder 1 with customerId := none }].foldl Analytics.added Table.empty

def sampleDb : Db := { Db.empty with
  customers := addedCustomer (addedCustomer Table.empty ann) bob
  orders := sampleOrders }

theorem sampleOrders_rows (i : Nat) : sampleOrders.row i =
    if i = 4 then some { Analytics.sampleOrder 1 with customerId := none }
    else if i = 3 then some (Analytics.sampleOrder 2)
    else if i = 2 then some (Analytics.sampleOrder 1)
    else if i = 1 then some (Analytics.sampleOrder 1) else none := rfl

theorem sampleDb_foreignKeys : sampleDb.ForeignKeys where
  customer := by
    intro i order id hrow hid
    have hplaces := (sampleOrders_rows i).symm.trans hrow
    split_ifs at hplaces <;> obtain rfl := Option.some.inj hplaces
    · cases hid
    · obtain rfl := Option.some.inj hid
      rfl
    · obtain rfl := Option.some.inj hid
      rfl
    · obtain rfl := Option.some.inj hid
      rfl
  order := by
    intro item hitem
    cases hitem
  product := by
    intro item hitem
    cases hitem

def sampleConfig : SummaryConfig := ⟨30, .fin 50000, fun a b => PyFloat.le b a⟩

theorem summary_agrees_with_demo_sample : ∃ rows,
    Paging.Answer highestRevenue (topRows sampleDb) rows ∧
    ((nPlusOneDemo sampleDb).results.map NPlusOneRow.orderCount).sum = 3 ∧
    (dashboardSummary sampleConfig 0 [] [] rows sampleDb).orders = 4 ∧
    (dashboardSummary sampleConfig 0 [] [] rows sampleDb).topCustomers.length = 2 := by
  have hrevenues : (topRows sampleDb).map TopRow.revenue = [some (.fin 10), some (.fin 20)] := by
    decide +kernel
  obtain ⟨first, rest, htop, hfirst, hrest⟩ := List.map_eq_cons_iff.mp hrevenues
  obtain ⟨second, last, rfl, hsecond, hlast⟩ := List.map_eq_cons_iff.mp hrest
  obtain rfl := List.map_eq_nil_iff.mp hlast
  have hranked : highestRevenue second first := by
    simp only [highestRevenue, hfirst, hsecond]
    decide +kernel
  have hanswer : Paging.Answer highestRevenue (topRows sampleDb) [second, first] := by
    rw [htop]
    refine ⟨List.Perm.swap _ _ _, List.pairwise_cons.mpr ⟨?_, List.pairwise_singleton _ _⟩⟩
    intro other hother
    exact List.mem_singleton.mp hother ▸ hranked
  obtain ⟨-, hlength, hcount, -⟩ :=
    summary_agrees_with_demo sampleConfig 0 [] [] sampleDb_foreignKeys hanswer
  have horders : (dashboardSummary sampleConfig 0 [] [] [second, first] sampleDb).orders = 4 := by
    show sampleDb.orders.count = 4
    decide +kernel
  have hcustomers :
      (dashboardSummary sampleConfig 0 [] [] [second, first] sampleDb).customers = 2 := by
    show sampleDb.customers.count = 2
    decide +kernel
  have hnone : (withoutCustomer sampleDb).length = 1 := by decide +kernel
  refine ⟨[second, first], hanswer, ?_, horders, ?_⟩
  · rw [hnone, horders] at hcount
    exact Nat.add_right_cancel hcount
  · rw [hlength, hcustomers]
    rfl

end Dashboard
