import CrmPortal.Orders

/-!
# What the order handlers do to the database

An order that is answered as created was committed with all its lines, under an
id that was free before. Any other outcome leaves every row as it was.
-/

namespace OrdersSpec

open PyValue IdentityTable Transaction UnitOfWork CrmDatabase RequestContext ShopCatalogSync Orders

variable {env : OrdersEnv} {request : OrderRequest}

theorem getCustomer_reads (id : Int) : Reads (getCustomer env id) := by
  unfold getCustomer
  split
  · exact reads_pure _
  · exact reads_bind (reads_demand _ _) fun _ => reads_query _

theorem getCustomer_leaves (id : Int) : Leaves Response.IsError (getCustomer env id) := by
  unfold getCustomer
  split
  · exact leaves_pure _
  · exact leaves_bind (reads_demand _ _) (leaves_demand _ _) fun _ => leaves_query _

theorem getProducts_reads (ids : List Int) : Reads (getProducts env ids) := by
  unfold getProducts
  split
  · exact reads_pure _
  · exact reads_bind (reads_demand _ _) fun _ => reads_query _

theorem getProducts_leaves (ids : List Int) : Leaves Response.IsError (getProducts env ids) := by
  unfold getProducts
  split
  · exact leaves_pure _
  · exact leaves_bind (reads_demand _ _) (leaves_demand _ _) fun _ => leaves_query _

section Lines
variable {py : Builtins} {products : Int → Option (Nat × Product)}

theorem orderLine_reads (item : Json) : Reads (orderLine py products item) := by
  refine reads_bind (reads_attempt _) fun _ => reads_bind (reads_attempt _) fun _ => ?_
  refine reads_bind (reads_ensure _ _) fun _ => reads_bind (reads_attempt _) fun _ => ?_
  exact reads_bind (reads_attempt _) fun _ => reads_pure _

theorem orderLine_leaves (item : Json) :
    Leaves Response.IsError (orderLine py products item) := by
  refine leaves_bind (reads_attempt _) (leaves_attempt _) fun _ => ?_
  refine leaves_bind (reads_attempt _) (leaves_attempt _) fun _ => ?_
  refine leaves_bind (reads_ensure _ _) (leaves_ensure (isError_error _) _) fun _ => ?_
  refine leaves_bind (reads_attempt _) (leaves_attempt _) fun _ => ?_
  exact leaves_bind (reads_attempt _) (leaves_attempt _) fun _ => leaves_pure _

theorem orderLines_reads (items : List Json) (total : PyFloat) :
    Reads (orderLines py products items total) := by
  induction items generalizing total with
  | nil => exact reads_pure _
  | cons item rest ih =>
    refine reads_bind (orderLine_reads item) fun line => reads_bind (reads_attempt _) fun _ => ?_
    exact reads_bind (ih _) fun _ => reads_pure _

theorem orderLines_leaves (items : List Json) (total : PyFloat) :
    Leaves Response.IsError (orderLines py products items total) := by
  induction items generalizing total with
  | nil => exact leaves_pure _
  | cons item rest ih =>
    refine leaves_bind (orderLine_reads item) (orderLine_leaves item) fun line => ?_
    refine leaves_bind (reads_attempt _) (leaves_attempt _) fun _ => ?_
    exact leaves_bind (orderLines_reads rest _) (ih _) fun _ => leaves_pure _

end Lines

theorem createOrderBlock_leaves (body : Obj) (customerId : Int) (items : Json) :
    Leaves Response.IsError (createOrderBlock env request body customerId items) := by
  refine leaves_bind (getCustomer_reads _) (getCustomer_leaves _) fun found => ?_
  refine leaves_bind (reads_orReturn _ _) (leaves_orReturn (isError_error _) _) fun customer => ?_
  refine leaves_bind (reads_attempt _) (leaves_attempt _) fun items => ?_
  refine leaves_bind (reads_attempt _) (leaves_attempt _) fun ids => ?_
  refine leaves_bind (getProducts_reads _) (getProducts_leaves _) fun products => ?_
  refine leaves_bind (orderLines_reads _ _) (orderLines_leaves _ _) fun priced => ?_
  refine leaves_bind (reads_attempt _) (leaves_attempt _) fun clientTotal => ?_
  refine leaves_bind (reads_attempt _) (leaves_attempt _) fun sourceSystem => ?_
  refine leaves_bind (reads_attempt _) (leaves_attempt _) fun sourceOrderId => ?_
  refine leaves_bind (reads_orFail _ _) (leaves_orFail _ _) fun notes => ?_
  refine leaves_bind (reads_orFail _ _) (leaves_orFail _ _) fun address => ?_
  refine leaves_bind reads_state leaves_state fun before => Proceeds.leaves ?_
  refine proceeds_bind (proceeds_execute _) fun _ => ?_
  exact proceeds_bind (proceeds_execute _) fun _ => proceeds_pure _

theorem updateOrderStatusBlock_leaves (id : Nat) (status : String) :
    Leaves Response.IsError (updateOrderStatusBlock env id status) := by
  refine leaves_bind (reads_query _) (leaves_query _) fun order => ?_
  refine leaves_bind (reads_orReturn _ _) (leaves_orReturn (isError_error _) _) fun _ => ?_
  exact Proceeds.leaves (proceeds_execute _)

theorem insertOrder_ok {backend : Backend} {row : Order} {db db' : Db}
    (h : insertOrder backend row db = .ok db') :
    ∃ id orders, db.orders.insert row = some (id, orders) ∧ db' = { db with orders := orders } := by
  unfold insertOrder at h
  split at h
  · split at h
    · cases h
    · next id orders hinsert => exact ⟨id, orders, hinsert, (Except.ok.inj h).symm⟩
  · cases h

theorem insertLines_ok {backend : Backend} {id : Nat} {lines : List OrderLine} {db db' : Db}
    (h : insertLines backend id lines db = .ok db') :
    db' = { db with orderItems := db.orderItems ++ lines.map (lineRow id) } := by
  obtain ⟨_, _, h⟩ := bind_ok_iff.mp h
  exact (Except.ok.inj h).symm

/-- The ids of the items are among those that are asked for. -/
theorem productIds_mem {py : Builtins} {items : List Json} {ids : List Int}
    (h : productIds py items = .ok ids) {fields : Obj} (hitem : Json.obj fields ∈ items)
    (hid : (fields.get "product_id").truthy = true) {id : Int}
    (hread : (fields.get "product_id").toInt py = .ok id) : id ∈ ids := by
  induction items generalizing ids with
  | nil => cases hitem
  | cons item rest ih =>
    simp only [productIds, bind_ok_iff, Json.asDict_ok_iff] at h
    obtain ⟨found, hfound, h⟩ := h
    rcases List.mem_cons.mp hitem with hhere | hrest
    · obtain rfl := Json.obj.inj (hhere.trans hfound)
      rw [if_pos hid] at h
      obtain ⟨first, hfirst, tail, -, hids⟩ := by simpa only [bind_ok_iff] using h
      obtain rfl := Except.ok.inj hids
      obtain rfl := Except.ok.inj (hread.symm.trans hfirst)
      exact List.mem_cons_self
    · split at h
      · obtain ⟨first, -, tail, htail, hids⟩ := by simpa only [bind_ok_iff] using h
        obtain rfl := Except.ok.inj hids
        exact List.mem_cons_of_mem _ (ih htail hrest)
      · exact ih h hrest

/-- The rows of the ids that are asked for. -/
def productsAsked (products : ProductTable) (ids : List Int) (id : Int) : Option (Nat × Product) :=
  if id ∈ ids then rowAt products id else none

theorem getProducts_ok {ids : List Int} {w t : Work Db} {found : Int → Option (Nat × Product)}
    (h : getProducts env ids w = (.ok found, t)) : found = productsAsked w.state.products ids := by
  unfold getProducts at h
  split at h
  · next hempty =>
    obtain ⟨rfl, -⟩ := Tx.pure_ok_iff.mp h
    obtain rfl := List.isEmpty_iff.mp hempty
    funext id
    simp [productsAsked]
  · obtain ⟨_, m, hdemand, hquery⟩ := Tx.bind_ok_iff.mp h
    obtain ⟨-, rfl⟩ := demand_ok_iff.mp hdemand
    obtain ⟨-, rfl, -⟩ := query_ok_iff.mp hquery
    rfl

/-- The lines of an order are what the loop makes of the items of the request. -/
def LinesRead (py : Builtins) (products : ProductTable) (items : Json) (total : PyFloat)
    (lines : List OrderLine) : Prop :=
  ∃ xs ids, items.iterate = .ok xs ∧ productIds py xs = .ok ids ∧ ∃ m t : Work Db,
    orderLines py (productsAsked products ids) xs .zero m = (.ok (total, lines), t)

/-- The order and its items, and nothing else. -/
structure OrderStored (row : Order) (lines : List OrderLine) (id : Nat) (db db' : Db) : Prop where
  free : db.orders.row id = none
  orders : ∀ i, db'.orders.row i = if i = id then some row else db.orders.row i
  rest : db' = { db with
    orders := db'.orders
    orderItems := db.orderItems ++ lines.map (lineRow id) }

theorem createOrderBlock_ok {body : Obj} {customerId : Int} {items : Json}
    {w t : Work Db} {created : CreatedOrder}
    (h : createOrderBlock env request body customerId items w = (.ok created, t)) :
    ∃ customer notes address sourceSystem sourceOrderId lines,
      strippedField env.py body "source_system" = .ok sourceSystem ∧
      strippedField env.py body "source_order_id" = .ok sourceOrderId ∧
      LinesRead env.py w.state.products items created.total lines ∧
      OrderStored (createdOrder request customer created.total notes address sourceSystem
        sourceOrderId) lines created.id w.state t.state := by
  simp only [createOrderBlock, Tx.bind_ok_iff, orReturn_ok_iff, attempt_ok_iff, orFail_ok_iff,
    Tx.read_ok_iff, execute_ok_iff, Tx.pure_ok_iff] at h
  obtain ⟨found, m₁, hfound, customer, _, ⟨_, hm₂⟩, xs, _, ⟨hxs, hm₃⟩, ids, m₄, ⟨hids, hm₄⟩,
    products, m₅, hproducts, ⟨total, lines⟩, m₆, hlines, hstore⟩ := h
  obtain ⟨clientTotal, _, ⟨_, hm₇⟩, sourceSystem, _, ⟨hsystem, hm₈⟩, sourceOrderId, _,
    ⟨hsource, hm₉⟩, notes, _, ⟨_, hm₁₀⟩, address, m, ⟨_, hm⟩, before, _, ⟨hbefore, hm'⟩, _, _,
    ⟨_, db₁, hinsert, rfl⟩, _, _, ⟨_, db₂, hitems, rfl⟩, rfl, rfl⟩ := hstore
  have hasked : m₄.state = w.state := by
    rw [hm₄, hm₃, hm₂, (getCustomer_reads customerId).state hfound]
  have hread : m.state = w.state := by
    rw [hm, hm₁₀, hm₉, hm₈, hm₇, (orderLines_reads xs .zero).state hlines,
      (getProducts_reads ids).state hproducts, hasked]
  obtain rfl := getProducts_ok hproducts
  rw [hasked] at hlines
  rw [hm', hread] at hinsert
  obtain ⟨id, orders, hrow, rfl⟩ := insertOrder_ok hinsert
  obtain rfl := insertLines_ok hitems
  obtain ⟨rfl, hfree, _, hrows⟩ := Table.insert_eq_some hrow
  have hid : before.state.orders.next = w.state.orders.next := by rw [hbefore, hread]
  refine ⟨customer, notes, address, sourceSystem, sourceOrderId, lines, hsystem, hsource,
    ⟨xs, ids, hxs, hids, m₅, m₆, hlines⟩, ?_⟩
  dsimp only
  rw [hid]
  exact ⟨hfree, hrows, rfl⟩

/-- The answer is an error, or there is none. -/
def NotDone (result : Except PyExc (Response OrderAnswer)) : Prop :=
  (∃ message, result = .ok (.error message)) ∨ ∃ e, result = .error e

/-- The order of a request that was answered as created. -/
def Accepted (py : Builtins) (request : OrderRequest) (id : Nat) (total : PyFloat) (db db' : Db) :
    Prop :=
  ∃ fields customer notes address sourceSystem sourceOrderId lines, request.body = .obj fields ∧
    strippedField py fields "source_system" = .ok sourceSystem ∧
    strippedField py fields "source_order_id" = .ok sourceOrderId ∧
    OrderStored (createdOrder request customer total notes address sourceSystem sourceOrderId)
      lines id db db'

/-- The handler's end, once its block has one. -/
theorem orderHandler_cases {Value : Type} (db : DbConfig) (faults : Faults PyExc)
    {block : OrderBlock Value} (hleaves : Leaves Response.IsError block)
    (answer : Value → OrderAnswer) (w : World Push) {result : Except PyExc (Response OrderAnswer)}
    {w' : World Push}
    (h : (getDb db faults block >>= answerWith answer) w = (result, w')) :
    (∃ a t, block ⟨w.db, 0⟩ = (.ok a, t) ∧ result = .ok (.answer (answer a)) ∧
      w' = ⟨t.state, w.trace ++ [.committed]⟩) ∨ (NotDone result ∧ Untouched w w') := by
  rcases getDb_atomic db faults hleaves w with ⟨a, t, hblock, hdb⟩ | ⟨hrefused, hsame⟩
  · rw [Tx.bind_of_ok _ hdb] at h
    obtain ⟨rfl, rfl⟩ := Prod.mk.inj h
    exact Or.inl ⟨a, t, hblock, rfl, rfl⟩
  · refine Or.inr ?_
    rcases hend : getDb db faults block w with ⟨exc | ended, v⟩
    · rw [hend] at hsame
      rw [Tx.bind_of_error _ hend] at h
      obtain ⟨rfl, rfl⟩ := Prod.mk.inj h
      exact ⟨Or.inr ⟨exc, rfl⟩, hsame⟩
    · rw [hend] at hrefused hsame
      rw [Tx.bind_of_ok _ hend] at h
      rcases hrefused with ⟨message, hmessage⟩ | ⟨e, he⟩
      · obtain rfl := Except.ok.inj hmessage
        obtain ⟨rfl, rfl⟩ := Prod.mk.inj h
        exact ⟨Or.inl ⟨message, rfl⟩, hsame⟩
      · cases he

/-- A step before the block that raises ends the request. -/
theorem guarded_cases {Value : Type} {x : Except PyExc Value}
    {f : Value → Tx (World Push) PyExc (Response OrderAnswer)} {w w' : World Push}
    {result : Except PyExc (Response OrderAnswer)}
    (h : (Tx.ofExcept x >>= f) w = (result, w')) :
    (∃ a, x = .ok a ∧ f a w = (result, w')) ∨ (NotDone result ∧ Untouched w w') := by
  rcases x with exc | a
  · obtain ⟨rfl, rfl⟩ := Prod.mk.inj h
    exact Or.inr ⟨Or.inr ⟨exc, rfl⟩, Untouched.refl w⟩
  · exact Or.inl ⟨a, rfl, h⟩

/-- A request that is answered as created, up to its block. -/
structure Created (env : OrdersEnv) (request : OrderRequest) (db db' : Db) (body : Obj)
    (items : Json) (created : CreatedOrder) : Prop where
  admitted : requireInternalKeyIfConfigured env request = .ok ⟨⟩
  parsed : request.body = .obj body
  listed : orderItems env.py body = .ok items
  block : ∃ customerId t, ((body.get "customer_id").or (.int 0)).toInt env.py = .ok customerId ∧
    createOrderBlock env request body customerId items ⟨db, 0⟩ = (.ok created, t) ∧ db' = t.state

theorem createOrder_created {w w' : World Push} {result : Except PyExc (Response OrderAnswer)}
    (h : createOrder env request w = (result, w')) :
    (∃ body items created, result = .ok (.answer (.created created.id created.total)) ∧
      Created env request w.db w'.db body items created) ∨ (NotDone result ∧ Untouched w w') := by
  rcases guarded_cases h with ⟨_, hkey, h⟩ | hrefused
  · rcases guarded_cases h with ⟨body, hbody, h⟩ | hrefused
    · rcases guarded_cases h with ⟨customerId, hcustomer, h⟩ | hrefused
      · rcases guarded_cases h with ⟨items, hitems, h⟩ | hrefused
        · rcases orderHandler_cases env.db env.faults
            (createOrderBlock_leaves body customerId items)
            (fun order => .created order.id order.total) w h with
            ⟨created, t, hblock, hresult, rfl⟩ | hrefused
          · exact Or.inl ⟨body, items, created, hresult, hkey, Json.asDict_ok_iff.mp hbody, hitems,
              customerId, t, hcustomer, hblock, rfl⟩
          · exact Or.inr hrefused
        · exact Or.inr hrefused
      · exact Or.inr hrefused
    · exact Or.inr hrefused
  · exact Or.inr hrefused

theorem createOrder_cases {w w' : World Push} {result : Except PyExc (Response OrderAnswer)}
    (h : createOrder env request w = (result, w')) :
    (∃ id total, result = .ok (.answer (.created id total)) ∧
      Accepted env.py request id total w.db w'.db) ∨ (NotDone result ∧ Untouched w w') := by
  rcases createOrder_created h with ⟨body, items, created, hresult, hcreated⟩ | hrefused
  · obtain ⟨customerId, t, -, hblock, hdb⟩ := hcreated.block
    obtain ⟨customer, notes, address, system, source, lines, hsystem, hsource, -, hstored⟩ :=
      createOrderBlock_ok hblock
    rw [← hdb] at hstored
    exact Or.inl ⟨created.id, created.total, hresult, body, customer, notes, address, system,
      source, lines, hcreated.parsed, hsystem, hsource, hstored⟩
  · exact Or.inr hrefused

/-- The status of an order that exists is set, with the flag that goes with it. -/
structure StatusWritten (id : Nat) (status : String) (db db' : Db) : Prop where
  found : ∃ old, db.orders.row id = some old
  orders : ∀ i, db'.orders.row i =
    if i = id then (db.orders.row i).map (withStatus status) else db.orders.row i
  rest : db' = { db with orders := db'.orders }

theorem writeStatus_ok {backend : Backend} {id : Nat} {status : String} {db db' : Db} {old : Order}
    (hold : db.orders.row id = some old) (h : writeStatus backend id status db = .ok db') :
    StatusWritten id status db db' := by
  unfold writeStatus at h
  split at h
  · obtain rfl := Except.ok.inj h
    refine ⟨⟨old, hold⟩, ?_, rfl⟩
    intro i
    exact Table.modify_row db.orders id (withStatus status) (withStatus_sourceKey status) i
  · cases h

theorem updateOrderStatus_cases {id : Nat} {body : Json} {w w' : World Push}
    {result : Except PyExc (Response OrderAnswer)}
    (h : updateOrderStatus env id body w = (result, w')) :
    (∃ fields, body = .obj fields ∧
      result = .ok (.answer (.updated id (newStatus env.py fields))) ∧
      StatusWritten id (newStatus env.py fields) w.db w'.db) ∨
    (NotDone result ∧ Untouched w w') := by
  rcases guarded_cases h with ⟨fields, hbody, h⟩ | hrefused
  · rcases orderHandler_cases env.db env.faults
      (updateOrderStatusBlock_leaves id (newStatus env.py fields))
      (fun _ => .updated id (newStatus env.py fields)) w h with ⟨_, t, hblock, hresult, rfl⟩ |
        hrefused
    · simp only [updateOrderStatusBlock, Tx.bind_ok_iff, query_ok_iff, orReturn_ok_iff,
        execute_ok_iff] at hblock
      obtain ⟨order, _, ⟨_, rfl, rfl⟩, old, _, ⟨hold, rfl⟩, _, db', hwrite, rfl⟩ := hblock
      exact Or.inl ⟨fields, Json.asDict_ok_iff.mp hbody, hresult, writeStatus_ok hold hwrite⟩
    · exact Or.inr hrefused
  · exact Or.inr hrefused

end OrdersSpec
