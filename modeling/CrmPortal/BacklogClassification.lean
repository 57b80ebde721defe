import CrmPortal.OrdersSpec
import CrmPortal.OrderSyncSpec
import CrmPortal.Simulation

/-!
# The backlog flag of an order

Six writers set `status` and `backlog_status`, each by a rule of its own. An
order is only ever added or rewritten whole, so that it is enough to know of each
writer what the rows are like that it leaves.
-/

namespace BacklogClassification

open PyValue IdentityTable Transaction UnitOfWork CrmDatabase RequestContext ShopCatalogSync
  OrderNormalization OrderSync OrderSyncSpec Orders OrdersSpec Simulation

/-- The flag says "backlog" exactly for the statuses in `BACKLOG_STATUSES`. -/
def Classified (o : Order) : Prop :=
  o.backlogStatus = some "backlog" ↔ ∃ status ∈ backlogStatuses, o.status = some status

/-- Every order of `b` is one of `a` or satisfies `P`. -/
def Renews (P : Order → Prop) (a b : Db) : Prop :=
  ∀ i o, b.orders.row i = some o → a.orders.row i = some o ∨ P o

section Renews
variable {P : Order → Prop} {a b c : Db}

theorem Renews.refl (a : Db) : Renews P a a := fun _ _ h => Or.inl h

theorem Renews.trans (h : Renews P a b) (k : Renews P b c) : Renews P a c := by
  intro i o hc
  rcases k i o hc with hb | hP
  · exact h i o hb
  · exact Or.inr hP

theorem Renews.ofRows (h : ∀ i, b.orders.row i = a.orders.row i) : Renews P a b := by
  intro i o hb
  exact Or.inl ((h i).symm.trans hb)

/-- One row is new, and the others are as they were. -/
theorem Renews.ofRow (id : Nat) {row : Order} (hrow : P row) (hhere : b.orders.row id = some row)
    (hothers : ∀ i, i ≠ id → b.orders.row i = a.orders.row i) : Renews P a b := by
  intro i o hb
  by_cases hi : i = id
  · subst hi
    obtain rfl := Option.some.inj (hhere.symm.trans hb)
    exact Or.inr hrow
  · exact Or.inl ((hothers i hi).symm.trans hb)

end Renews

theorem classified_created (request : OrderRequest) (customer : Nat × Customer) (total : PyFloat)
    (notes address : Option String) (sourceSystem sourceOrderId : String) :
    Classified (createdOrder request customer total notes address sourceSystem sourceOrderId) :=
  ⟨fun _ => ⟨"pending", by decide, rfl⟩, fun _ => rfl⟩

theorem createOrder_renews (env : OrdersEnv) (request : OrderRequest) (w : World Push) :
    Renews Classified w.db (createOrder env request w).2.db := by
  rcases hrun : createOrder env request w with ⟨result, w'⟩
  rcases createOrder_cases hrun with
    ⟨id, total, _, _, customer, notes, address, system, source, lines, _, _, _, hstored⟩ |
      ⟨_, hsame⟩
  · refine Renews.ofRow id (classified_created request customer total notes address system source)
      ((hstored.orders id).trans (if_pos rfl)) ?_
    intro i hi
    exact (hstored.orders i).trans (if_neg hi)
  · exact Renews.ofRows hsame.rows.orders

/-- The handler's own list of statuses and `BACKLOG_STATUSES` differ in two. -/
theorem classified_withStatus (status : String) (order : Order) :
    Classified (withStatus status order) ↔
      status ≠ "backlog" ∧ status ≠ "awaiting_fulfillment" := by
  have hflag : (withStatus status order).backlogStatus = some "backlog" ↔
      status ∈ ["pending", "processing", "queued"] := by
    unfold withStatus statusBacklog
    by_cases h : status ∈ ["pending", "processing", "queued"]
    · simp [h]
    · simp [h]
  have hlisted : (∃ s ∈ backlogStatuses, (withStatus status order).status = some s) ↔
      status ∈ backlogStatuses := by
    constructor
    · rintro ⟨s, hs, heq⟩
      obtain rfl : status = s := Option.some.inj heq
      exact hs
    · intro h
      exact ⟨status, h, rfl⟩
  unfold Classified
  rw [hflag, hlisted]
  unfold backlogStatuses
  constructor
  · intro h
    constructor
    · rintro rfl
      exact absurd (h.mpr (by decide)) (by decide)
    · rintro rfl
      exact absurd (h.mpr (by decide)) (by decide)
  · rintro ⟨hbacklog, hawaiting⟩
    simp [hbacklog, hawaiting]

theorem updateOrderStatus_renews {env : OrdersEnv} {id : Nat} {body : Json} {w : World Push}
    (h : ∀ fields, body = .obj fields → (∃ old, w.db.orders.row id = some old) →
      newStatus env.py fields ≠ "backlog" ∧
        newStatus env.py fields ≠ "awaiting_fulfillment") :
    Renews Classified w.db (updateOrderStatus env id body w).2.db := by
  rcases hrun : updateOrderStatus env id body w with ⟨result, w'⟩
  rcases updateOrderStatus_cases hrun with ⟨fields, hbody, _, hwritten⟩ | ⟨_, hsame⟩
  · obtain ⟨old, hold⟩ := hwritten.found
    have hclass := (classified_withStatus (newStatus env.py fields) old).mpr
      (h fields hbody ⟨old, hold⟩)
    refine Renews.ofRow id hclass ?_ ?_
    · exact (hwritten.orders id).trans (by rw [if_pos rfl, hold]; rfl)
    · intro i hi
      exact (hwritten.orders i).trans (if_neg hi)
  · exact Renews.ofRows hsame.rows.orders

theorem classified_synced {env : SyncEnv} {n : NormalizedOrder}
    (h : n.backlogStatus = backlogStatus n.status) (customerId : Nat) (notes address : String)
    (created : Option DateTime) :
    Classified { newOrder env customerId n notes address with createdAt := created } := by
  unfold Classified newOrder
  dsimp only
  rw [h]
  unfold OrderNormalization.backlogStatus
  by_cases hstatus : n.status ∈ backlogStatuses
  · simp [hstatus]
  · simp [hstatus]

theorem syncEntry_renews {env : SyncEnv} {n : NormalizedOrder}
    (h : n.backlogStatus = backlogStatus n.status) (s : SyncSession) :
    Renews Classified s.db (syncEntry env n s).2.db := by
  rcases syncEntry_cases env n s with ⟨_, he⟩ | ⟨_, action, id, t, hstore, he⟩ | ⟨_, exc, m, _, he⟩
  · rw [he]
    exact Renews.ofRows fun _ => rfl
  · rw [he]
    obtain ⟨customerId, customers, orders, ids, c, _, horder, _, _, _, rfl⟩ := storeEntry_ok hstore
    obtain ⟨notes, address, created, _, hrow, hothers, _⟩ := upsertOrder_row horder
    exact Renews.ofRow id (classified_synced h customerId notes address created) hrow hothers
  · rw [he]
    exact Renews.ofRows fun _ => rfl

theorem syncAll_renews {env : SyncEnv} {ns : List NormalizedOrder}
    (h : ∀ n ∈ ns, n.backlogStatus = backlogStatus n.status) (s : SyncSession) :
    Renews Classified s.db (syncAll env ns s).2.db := by
  induction ns generalizing s with
  | nil => exact Renews.refl s.db
  | cons n rest ih =>
    obtain ⟨hn, hrest⟩ := List.forall_mem_cons.mp h
    exact (syncEntry_renews hn s).trans (ih hrest _)

theorem normalizeFeed_backlogStatus {py : Builtins} {feed : List Arrival}
    {ns : List NormalizedOrder} (h : normalizeFeed py feed = .ok ns) :
    ∀ n ∈ ns, n.backlogStatus = backlogStatus n.status := by
  induction feed generalizing ns with
  | nil =>
    obtain rfl := Except.ok.inj h
    intro n hn
    cases hn
  | cons entry rest ih =>
    obtain ⟨n, tail, hn, htail, rfl⟩ := normalizeFeed_cons_ok_iff.mp h
    exact List.forall_mem_cons.mpr ⟨normalize_backlogStatus hn, ih htail⟩

theorem sync_renews {env : SyncEnv} {feed : List Arrival} {db db' : Db}
    (h : SyncLeads env feed db db') : Renews Classified db db' := by
  rcases syncLeads_cases h with ⟨ns, s, rfl, hns, rfl⟩ | ⟨reached, rfl⟩
  · exact syncAll_renews (normalizeFeed_backlogStatus hns) s
  · exact Renews.ofRows fun _ => rfl

/-- A session of the simulation leaves customers and products alone. -/
structure Simulates (P : Order → Prop) (a b : Db) : Prop where
  orders : Renews P a b
  customers : b.customers = a.customers
  products : b.products = a.products

theorem Simulates.refl {P : Order → Prop} (a : Db) : Simulates P a a :=
  ⟨Renews.refl a, rfl, rfl⟩

theorem Simulates.trans {P : Order → Prop} {a b c : Db} (h : Simulates P a b)
    (k : Simulates P b c) : Simulates P a c :=
  ⟨h.orders.trans k.orders, k.customers.trans h.customers, k.products.trans h.products⟩

section Simulation
variable {P : Order → Prop} {env : SimulationEnv} {w t : Work Db}

/-- However far the block gets, its orders are old ones or satisfy `P`. -/
def Writes {Value : Type} (P : Order → Prop) (x : SimulationBlock Value) : Prop :=
  Tx.Moves (fun w t : Work Db => Simulates P w.state t.state) x

theorem writes_reads {Value : Type} {x : SimulationBlock Value} (h : Reads x) : Writes P x :=
  h.moves (R := Simulates P) Simulates.refl

theorem writes_bind {Value Next : Type} {x : SimulationBlock Value}
    {f : Value → SimulationBlock Next} (hx : Writes P x) (hf : ∀ a, Writes P (f a)) :
    Writes P (x >>= f) :=
  Tx.moves_bind (R := fun w t : Work Db => Simulates P w.state t.state)
    (fun _ _ _ h k => Simulates.trans h k) hx hf

theorem insertSimulated_ok {customerId : Json} {o : SimulatedOrder} {db db' : Db}
    (h : insertSimulated env customerId o db = .ok db') :
    ∃ id orderId orders, foreignKey env.backend db.customers customerId = .ok id ∧
      db.orders.insert (o.row id env.correlationId) = some (orderId, orders) ∧
      db' = { db with orders := orders } := by
  obtain ⟨id, hid, h⟩ := bind_ok_iff.mp h
  split at h
  · cases h
  · split at h
    · cases h
    · next orderId orders hinsert =>
      exact ⟨id, orderId, orders, hid, hinsert, (Except.ok.inj h).symm⟩

theorem insertItem_ok {orderId : Nat} {productId : Json} {quantity : Int} {price : PyFloat}
    {db db' : Db} (h : insertItem env orderId productId quantity price db = .ok db') :
    ∃ id items, foreignKey env.backend db.products productId = .ok id ∧
      db' = { db with orderItems := items } := by
  obtain ⟨id, hid, h⟩ := bind_ok_iff.mp h
  split at h
  · exact ⟨id, _, hid, (Except.ok.inj h).symm⟩
  · cases h

theorem storeSimulated_writes {o : SimulatedOrder} (h : ∀ id, P (o.row id env.correlationId))
    (customerId productId : Json) (quantity : Int) (price : PyFloat) :
    Writes P (storeSimulated env customerId productId quantity price o) := by
  refine writes_bind ?_ fun _ => writes_bind (writes_reads (reads_query _)) fun found => ?_
  · refine moves_execute Simulates.refl ?_
    intro db db' hok
    obtain ⟨id, orderId, orders, _, hinsert, rfl⟩ := insertSimulated_ok hok
    obtain ⟨_, _, _, hrow⟩ := Table.insert_eq_some hinsert
    refine ⟨Renews.ofRow orderId (h id) ((hrow orderId).trans (if_pos rfl)) ?_, rfl, rfl⟩
    intro i hi
    exact (hrow i).trans (if_neg hi)
  · cases found with
    | none => exact writes_reads (reads_pure _)
    | some orderId =>
      refine writes_bind ?_ fun _ => writes_reads (reads_pure _)
      refine moves_execute Simulates.refl ?_
      intro db db' hok
      obtain ⟨_, _, _, rfl⟩ := insertItem_ok hok
      exact ⟨Renews.refl db, rfl, rfl⟩

theorem roundCustomer_reads (body : Obj) (draw : Draw) : Reads (roundCustomer body draw) := by
  unfold roundCustomer
  split
  · exact reads_pure _
  · exact reads_bind (reads_attempt _) fun _ => reads_bind (reads_orReturn _ _) fun _ =>
      reads_pure _

/-- The rows of one round of `generate_orders`. -/
theorem generateOrder_writes (body : Obj) (draw : Draw)
    (h : ∀ status, env.backend.bindNullable (.varchar 50) (roundStatus body) = some status →
      ∀ total id, P ((generatedOrder total status draw).row id env.correlationId)) :
    Writes P (generateOrder env body draw) := by
  refine writes_bind (writes_reads (roundCustomer_reads body draw)) fun customerId => ?_
  refine writes_bind (writes_reads (reads_attempt _)) fun found => ?_
  refine writes_bind (writes_reads (reads_orReturn _ _)) fun product => ?_
  refine writes_bind (writes_reads (reads_attempt _)) fun _ => ?_
  refine writes_bind (writes_reads (reads_attempt _)) fun total => ?_
  refine moves_orFail_bind (fun w => Simulates.refl w.state) fun status hstatus => ?_
  refine writes_bind ?_ fun _ => writes_reads (reads_pure _)
  exact storeSimulated_writes (h status hstatus total) _ _ _ _

theorem generateRounds_writes {body : Obj} {draws : List Draw}
    (h : ∀ status, env.backend.bindNullable (.varchar 50) (roundStatus body) = some status →
      ∀ draw total id, P ((generatedOrder total status draw).row id env.correlationId))
    (totalValue : PyFloat) (orderIds : List Nat) :
    Writes P (generateRounds env body draws totalValue orderIds) := by
  induction draws generalizing totalValue orderIds with
  | nil => exact writes_reads (reads_pure _)
  | cons draw rest ih =>
    exact writes_bind (generateOrder_writes body draw fun status hs => h status hs draw) fun _ =>
      ih _ _

theorem backlogRounds_writes (h : ∀ draw total id, P ((backlogOrder total draw).row id
    env.correlationId)) (draws : List Draw) (orderIds : List Nat) :
    Writes P (backlogRounds env draws orderIds) := by
  induction draws generalizing orderIds with
  | nil => exact writes_reads (reads_pure _)
  | cons draw rest ih =>
    refine writes_bind ?_ fun _ => ih _
    refine writes_bind (writes_reads (reads_attempt _)) fun customer => ?_
    refine writes_bind (writes_reads (reads_attempt _)) fun product => ?_
    rcases customer with _ | customerId
    · exact writes_reads (reads_pure _)
    · rcases product with _ | ⟨productId, price⟩
      · exact writes_reads (reads_pure _)
      · refine writes_bind (writes_reads (reads_attempt _)) fun total => ?_
        exact storeSimulated_writes (h draw total) _ _ _ _

/-- A session stores what its block writes, or nothing. -/
theorem ownSession_renews {block : SimulationBlock SimulationAnswer} (h : Writes P block)
    (faults : Faults PyExc) (db : Db) : Renews P db (ownSession faults block db).2 := by
  have hmoves : Simulates P db (block ⟨db, 0⟩).2.state := h ⟨db, 0⟩
  unfold ownSession
  rcases hrun : block ⟨db, 0⟩ with ⟨(exc | answer) | answer, t⟩
  · exact Renews.ofRows fun _ => rfl
  · exact Renews.ofRows fun _ => rfl
  · rw [hrun] at hmoves
    dsimp only
    split
    · exact Renews.ofRows fun _ => rfl
    · exact hmoves.orders

/-- A session whose block does not come to its end stores nothing. -/
theorem ownSession_unfinished {block : SimulationBlock SimulationAnswer} {db : Db}
    (h : ∀ answer t, block ⟨db, 0⟩ ≠ (.ok answer, t)) (faults : Faults PyExc) :
    Renews P db (ownSession faults block db).2 := by
  unfold ownSession
  rcases hrun : block ⟨db, 0⟩ with ⟨(exc | answer) | answer, t⟩
  · exact Renews.ofRows fun _ => rfl
  · exact Renews.ofRows fun _ => rfl
  · exact absurd hrun (h answer t)

/-- The customer of a round: the one that the body names, or the one that is drawn. -/
def customerOf (body : Obj) (draw : Draw) : Option Json :=
  if (body.get "customer_id").truthy then some (body.get "customer_id")
  else match draw.customer with
    | .ok (some id) => some (.int id)
    | _ => none

def productOf (draw : Draw) : Option (Nat × PyFloat) :=
  match draw.product with
  | .ok found => found
  | .error _ => none

/-- The round has a customer and a product, and both are in the database. -/
def Fruitful (env : SimulationEnv) (db : Db) (body : Obj) (draw : Draw)
    (productId : Nat × PyFloat → Json) : Prop :=
  ∃ customerId product, customerOf body draw = some customerId ∧ productOf draw = some product ∧
    (∃ id, foreignKey env.backend db.customers customerId = .ok id) ∧
    ∃ id, foreignKey env.backend db.products (productId product) = .ok id

theorem roundCustomer_ok {body : Obj} {draw : Draw} {customerId : Json}
    (h : roundCustomer body draw w = (.ok customerId, t)) :
    customerOf body draw = some customerId ∧ t = w := by
  unfold roundCustomer at h
  unfold customerOf
  split at h
  · next htruthy =>
    obtain ⟨rfl, rfl⟩ := Tx.pure_ok_iff.mp h
    exact ⟨if_pos htruthy, rfl⟩
  · next htruthy =>
    simp only [Tx.bind_ok_iff, attempt_ok_iff, orReturn_ok_iff, Tx.pure_ok_iff] at h
    obtain ⟨drawn, _, ⟨hdrawn, rfl⟩, id, _, ⟨rfl, rfl⟩, rfl, rfl⟩ := h
    exact ⟨by rw [if_neg htruthy, hdrawn], rfl⟩

/-- The order that was just inserted is found by its source id. -/
theorem orderBySource_isSome {o : SimulatedOrder} {customerId orderId : Nat} {corr : String}
    {db : Db} {orders : OrderTable}
    (h : db.orders.insert (o.row customerId corr) = some (orderId, orders)) :
    ∃ id, orderBySource o.sourceOrderId { db with orders := orders } = some id := by
  obtain ⟨_, _, _, hrow⟩ := Table.insert_eq_some h
  have hmem : (orderId, o.row customerId corr) ∈ orders.listing.rows :=
    (orders.listing.complete _ _).mpr ((hrow orderId).trans (if_pos rfl))
  have hfound : (orders.listing.rows.find? fun row =>
      decide (row.2.sourceOrderId = some o.sourceOrderId)).isSome = true := by
    rw [List.find?_isSome]
    exact ⟨_, hmem, decide_eq_true rfl⟩
  obtain ⟨found, hsome⟩ := Option.isSome_iff_exists.mp hfound
  exact ⟨found.1, by rw [orderBySource, hsome]; rfl⟩

theorem storeSimulated_ok {customerId productId : Json} {quantity : Int} {price : PyFloat}
    {o : SimulatedOrder} {stored : Option Nat}
    (h : storeSimulated env customerId productId quantity price o w = (.ok stored, t)) :
    (∃ id, foreignKey env.backend w.state.customers customerId = .ok id) ∧
      ∃ id, foreignKey env.backend w.state.products productId = .ok id := by
  simp only [storeSimulated, Tx.bind_ok_iff, execute_ok_iff, query_ok_iff] at h
  obtain ⟨_, m, ⟨_, db, hinsert, rfl⟩, found, _, ⟨_, rfl, rfl⟩, h⟩ := h
  obtain ⟨id, orderId, orders, hid, hrow, rfl⟩ := insertSimulated_ok hinsert
  refine ⟨⟨id, hid⟩, ?_⟩
  obtain ⟨found, hfound⟩ := orderBySource_isSome hrow
  rw [hfound] at h
  simp only [Tx.bind_ok_iff, execute_ok_iff] at h
  obtain ⟨_, _, ⟨_, db, hitem, _⟩, _⟩ := h
  obtain ⟨productId, items, hproduct, _⟩ := insertItem_ok hitem
  exact ⟨productId, hproduct⟩

theorem generateOrder_fruitful {body : Obj} {draw : Draw} {r : PyFloat × Option Nat}
    (h : generateOrder env body draw w = (.ok r, t)) :
    Fruitful env w.state body draw fun product => (body.get "product_id").or (.int product.1) := by
  simp only [generateOrder, Tx.bind_ok_iff, attempt_ok_iff, orReturn_ok_iff, orFail_ok_iff] at h
  obtain ⟨customerId, m, hcustomer, found, _, ⟨hfound, hm₁⟩, product, _, ⟨rfl, hm₂⟩, _, _,
    ⟨_, hm₃⟩, total, _, ⟨_, hm₄⟩, status, _, ⟨_, hm₅⟩, stored, _, hstored, _⟩ := h
  obtain ⟨hchosen, hm⟩ := roundCustomer_ok hcustomer
  subst hm₅ hm₄ hm₃ hm₂ hm₁ hm
  refine ⟨customerId, product, hchosen, ?_, storeSimulated_ok hstored⟩
  rw [productOf, hfound]

theorem generateRounds_fruitful {body : Obj} {draws : List Draw} {totalValue : PyFloat}
    {orderIds : List Nat} {answer : SimulationAnswer}
    (h : generateRounds env body draws totalValue orderIds w = (.ok answer, t)) :
    ∀ draw ∈ draws, Fruitful env w.state body draw
      fun product => (body.get "product_id").or (.int product.1) := by
  induction draws generalizing w totalValue orderIds with
  | nil =>
    intro draw hdraw
    cases hdraw
  | cons draw rest ih =>
    obtain ⟨⟨total, orderId⟩, m, hround, hrest⟩ := Tx.bind_ok_iff.mp h
    refine List.forall_mem_cons.mpr ⟨generateOrder_fruitful hround, ?_⟩
    have hsame : Simulates (fun _ => True) w.state m.state := by
      have hwrites : Simulates (fun _ => True) w.state (generateOrder env body draw w).2.state :=
        generateOrder_writes body draw (fun _ _ _ _ => trivial) w
      rw [hround] at hwrites
      exact hwrites
    have hlater := ih hrest
    unfold Fruitful at hlater ⊢
    rw [hsame.customers, hsame.products] at hlater
    exact hlater

theorem highValueBlock_fruitful {body : Obj} {draw : Draw} {answer : SimulationAnswer}
    (h : highValueBlock env body draw w = (.ok answer, t)) :
    Fruitful env w.state body draw fun product => .int product.1 := by
  simp only [highValueBlock, Tx.bind_ok_iff, attempt_ok_iff, orReturn_ok_iff] at h
  obtain ⟨customerId, m, hcustomer, found, _, ⟨hfound, hm₁⟩, product, _, ⟨rfl, hm₂⟩, stored, _,
    hstored, _⟩ := h
  obtain ⟨hchosen, hm⟩ := roundCustomer_ok hcustomer
  subst hm₂ hm₁ hm
  refine ⟨customerId, product, hchosen, ?_, storeSimulated_ok hstored⟩
  rw [productOf, hfound]

end Simulation

theorem classified_generated {status : Option String}
    (h : ∀ text, status = some text → text ∉ backlogStatuses) (total : PyFloat) (draw : Draw)
    (customerId : Nat) (corr : String) :
    Classified ((generatedOrder total status draw).row customerId corr) := by
  constructor
  · intro hflag
    exact absurd (Option.some.inj hflag) (by decide)
  · rintro ⟨text, htext, hstatus⟩
    exact absurd htext (h text hstatus)

theorem classified_backlogOrder (total : PyFloat) (draw : Draw) (customerId : Nat)
    (corr : String) : Classified ((backlogOrder total draw).row customerId corr) :=
  ⟨fun _ => ⟨"pending", by decide, rfl⟩, fun _ => rfl⟩

/-- The calls that write orders, each in its own process environment. -/
inductive OrderCall where
  | createOrder (env : OrdersEnv) (request : OrderRequest)
  | updateOrderStatus (env : OrdersEnv) (orderId : Nat) (body : Json)
  | sync (env : SyncEnv) (feed : List Arrival)
  | generateOrders (env : SimulationEnv) (body : Json) (draws : Nat → Draw)
  | generateBacklog (env : SimulationEnv) (body : Json) (draws : Nat → Draw)
  | highValueOrder (env : SimulationEnv) (body : Json) (draw : Draw)

/-- The database after a call; a sync reads the products in any order. -/
def OrderCall.Leads (db db' : Db) : OrderCall → Prop
  | .createOrder env request => db' = (Orders.createOrder env request ⟨db, []⟩).2.db
  | .updateOrderStatus env id body => db' = (Orders.updateOrderStatus env id body ⟨db, []⟩).2.db
  | .sync env feed => SyncLeads env feed db db'
  | .generateOrders env body draws => db' = (Simulation.generateOrders env body draws db).2
  | .generateBacklog env body draws => db' = (Simulation.generateBacklog env body draws db).2
  | .highValueOrder env body draw => db' = (Simulation.highValueOrder env body draw db).2

/-- The database reached from `start` by calls that satisfy `P` where they are made. -/
inductive Runs (P : Db → OrderCall → Prop) (start : Db) : Db → Prop where
  | start : Runs P start start
  | call {db db' : Db} (call : OrderCall) : Runs P start db → P db call → call.Leads db db' →
      Runs P start db'

/-- The call does not come to a writer's slip: a status of `BACKLOG_STATUSES`
that the handler's list misses, generated orders with a status of the backlog, or
a high-value order. -/
def Careful (db : Db) : OrderCall → Prop
  | .createOrder _ _ => True
  | .updateOrderStatus env id body => ∀ fields, body = .obj fields →
      (∃ old, db.orders.row id = some old) →
        newStatus env.py fields ≠ "backlog" ∧ newStatus env.py fields ≠ "awaiting_fulfillment"
  | .sync _ _ => True
  | .generateOrders env body draws => ∀ (fields : Obj) (count : Nat), body = .obj fields →
      roundCount (fields.getD "count" (.int 5)) 50 = .ok count →
      (∀ i < count, Fruitful env db fields (draws i)
        fun product => (fields.get "product_id").or (.int product.1)) →
      ∀ status, env.backend.bindNullable (.varchar 50) (roundStatus fields) = some (some status) →
        status ∉ backlogStatuses
  | .generateBacklog _ _ _ => True
  | .highValueOrder env body draw => ∀ fields : Obj, body = .obj fields →
      ¬ Fruitful env db fields draw fun product => .int product.1

theorem generateOrders_renews {env : SimulationEnv} {body : Json} {draws : Nat → Draw} {db : Db}
    (h : Careful db (.generateOrders env body draws)) :
    Renews Classified db (Simulation.generateOrders env body draws db).2 := by
  unfold Simulation.generateOrders
  rcases hbody : body.asDict with exc | fields
  · exact Renews.refl db
  rcases hcount : roundCount (fields.getD "count" (.int 5)) 50 with exc | count
  · rw [Tx.bind_of_ok _ (Tx.ofExcept_ok_iff.mpr ⟨rfl, rfl⟩), hcount]
    exact Renews.refl db
  rw [Tx.bind_of_ok _ (Tx.ofExcept_ok_iff.mpr ⟨rfl, rfl⟩), hcount,
    Tx.bind_of_ok _ (Tx.ofExcept_ok_iff.mpr ⟨rfl, rfl⟩)]
  by_cases hfruitful : ∀ i < count, Fruitful env db fields (draws i)
      fun product => (fields.get "product_id").or (.int product.1)
  · refine ownSession_renews (generateRounds_writes ?_ _ _) env.faults db
    intro status hstatus draw total id
    refine classified_generated ?_ total draw id env.correlationId
    rintro text rfl
    exact h fields count (Json.asDict_ok_iff.mp hbody) hcount hfruitful text hstatus
  · refine ownSession_unfinished ?_ env.faults
    intro answer t hrun
    refine hfruitful fun i hi => ?_
    refine generateRounds_fruitful hrun (draws i) ?_
    exact List.mem_map.mpr ⟨i, List.mem_range.mpr hi, rfl⟩

theorem generateBacklog_renews (env : SimulationEnv) (body : Json) (draws : Nat → Draw) (db : Db) :
    Renews Classified db (Simulation.generateBacklog env body draws db).2 := by
  unfold Simulation.generateBacklog
  rcases body.asDict with exc | fields
  · exact Renews.refl db
  rw [Tx.bind_of_ok _ (Tx.ofExcept_ok_iff.mpr ⟨rfl, rfl⟩)]
  rcases roundCount (fields.getD "count" (.int 5)) 20 with exc | count
  · exact Renews.refl db
  rw [Tx.bind_of_ok _ (Tx.ofExcept_ok_iff.mpr ⟨rfl, rfl⟩)]
  refine ownSession_renews (backlogRounds_writes ?_ _ _) env.faults db
  intro draw total id
  exact classified_backlogOrder total draw id env.correlationId

theorem highValueOrder_renews {env : SimulationEnv} {body : Json} {draw : Draw} {db : Db}
    (h : Careful db (.highValueOrder env body draw)) :
    Renews Classified db (Simulation.highValueOrder env body draw db).2 := by
  unfold Simulation.highValueOrder
  rcases hbody : body.asDict with exc | fields
  · exact Renews.refl db
  rw [Tx.bind_of_ok _ (Tx.ofExcept_ok_iff.mpr ⟨rfl, rfl⟩)]
  refine ownSession_unfinished ?_ env.faults
  intro answer t hrun
  exact h fields (Json.asDict_ok_iff.mp hbody) (highValueBlock_fruitful hrun)

/-- One call: what it adds or rewrites is classified. -/
theorem leads_renews {db db' : Db} {call : OrderCall} (hcareful : Careful db call)
    (h : call.Leads db db') : Renews Classified db db' := by
  cases call with
  | createOrder env request =>
    obtain rfl := h
    exact createOrder_renews env request ⟨db, []⟩
  | updateOrderStatus env id body =>
    obtain rfl := h
    exact updateOrderStatus_renews (w := ⟨db, []⟩) hcareful
  | sync env feed => exact sync_renews h
  | generateOrders env body draws =>
    obtain rfl := h
    exact generateOrders_renews hcareful
  | generateBacklog env body draws =>
    obtain rfl := h
    exact generateBacklog_renews env body draws db
  | highValueOrder env body draw =>
    obtain rfl := h
    exact highValueOrder_renews hcareful

/-- From an empty table, careful calls keep the flag of every order with its status. -/
theorem careful_runs_classify {start db : Db} (hempty : ∀ i, start.orders.row i = none)
    (h : Runs Careful start db) : ∀ i o, db.orders.row i = some o → Classified o := by
  induction h with
  | start =>
    intro i o hrow
    rw [hempty i] at hrow
    cases hrow
  | call call _ hcareful hleads ih =>
    intro i o hrow
    rcases leads_renews hcareful hleads i o hrow with hold | hnew
    · exact ih i o hold
    · exact hnew

/-- An order is created and then given a status. -/
def statusCalls (status : String) : OrderCall × OrderCall :=
  (.createOrder sampleOrdersEnv sampleOrderRequest,
    .updateOrderStatus sampleOrdersEnv 1 (.obj [("status", .str status)]))

def statusDb (status : String) : Db :=
  (Orders.updateOrderStatus sampleOrdersEnv 1 (.obj [("status", .str status)])
    ⟨sampleCreated.db, []⟩).2.db

theorem sampleDb_empty : ∀ i, sampleDb.orders.row i = none := fun _ => rfl

/-- A status of `BACKLOG_STATUSES` that the handler takes for a current one. -/
theorem backlog_status_unflagged :
    (∀ i, sampleDb.orders.row i = none) ∧ Runs (fun _ _ => True) sampleDb (statusDb "backlog") ∧
      ∃ i o, (statusDb "backlog").orders.row i = some o ∧ ¬ Classified o := by
  refine ⟨sampleDb_empty, ?_, 1, ?_⟩
  · exact Runs.call (statusCalls "backlog").2 (Runs.call (statusCalls "backlog").1 Runs.start
      trivial rfl) trivial rfl
  · have hrow : ((statusDb "backlog").orders.row 1).any (fun o =>
        decide (o.status = some "backlog" ∧ o.backlogStatus = some "current")) = true := by
      decide +kernel
    obtain ⟨o, ho, hfacts⟩ := (Option.any_eq_true _ _).mp hrow
    obtain ⟨hstatus, hflag⟩ := of_decide_eq_true hfacts
    refine ⟨o, ho, ?_⟩
    intro hclass
    have hbacklog := hclass.mpr ⟨"backlog", by decide, hstatus⟩
    rw [hflag] at hbacklog
    exact absurd hbacklog (by decide)

/-- A status that both lists have. -/
theorem careful_runs_classify_sample :
    ∃ o, (statusDb "processing").orders.row 1 = some o ∧ Classified o := by
  have hruns : Runs Careful sampleDb (statusDb "processing") := by
    refine Runs.call (statusCalls "processing").2 (Runs.call (statusCalls "processing").1 Runs.start
      trivial rfl) ?_ rfl
    rintro fields ⟨⟩ _
    decide +kernel
  have hstored : ((statusDb "processing").orders.row 1).isSome := by decide +kernel
  obtain ⟨o, hrow⟩ := Option.isSome_iff_exists.mp hstored
  exact ⟨o, hrow, careful_runs_classify sampleDb_empty hruns 1 o hrow⟩

end BacklogClassification
