import CrmPortal.OrdersSpec
import CrmPortal.OrderSyncSpec

/-!
# Order intake over the push and the pull path

`POST /api/orders` inserts and `sync_external_orders` upserts into one table with
one unique source key. What was stored stays the one order of its key, with one
set of items, but a request that is repeated is never answered with it: the
handler does not look the key up, and an order that it answers as created is new.
-/

namespace OrderIntake

open PyValue IdentityTable CrmDatabase RequestContext ShopCatalogSync OrderNormalization OrderSync
  OrderSyncSpec Orders OrdersSpec

inductive IntakeEvent where
  | posted (request : OrderRequest) (result : Except PyExc (Response OrderAnswer))
  | synced (env : SyncEnv) (feed : List Arrival)

/-- Requests and runs one after another, each in a process environment of its own. -/
inductive Intake : Db → List IntakeEvent → Db → Prop where
  | done (db : Db) : Intake db [] db
  | posted {db db' : Db} {env : OrdersEnv} {request : OrderRequest}
      {result : Except PyExc (Response OrderAnswer)} {w : World Push}
      {events : List IntakeEvent} : createOrder env request ⟨db, []⟩ = (result, w) →
      Intake w.db events db' → Intake db (.posted request result :: events) db'
  | synced {db mid db' : Db} {env : SyncEnv} {feed : List Arrival} {events : List IntakeEvent} :
      SyncLeads env feed db mid → Intake mid events db' →
      Intake db (.synced env feed :: events) db'

/-- The same header and the same body; what the server adds may differ. -/
def Repeats (first again : OrderRequest) : Prop :=
  again.body = first.body ∧ again.internalServiceKey = first.internalServiceKey

/-- The parts of the source key that the body carries. -/
def CarriesKey (py : Builtins) (request : OrderRequest) (key : String × String) : Prop :=
  ∃ fields system source, request.body = .obj fields ∧
    strippedField py fields "source_system" = .ok system ∧
    strippedField py fields "source_order_id" = .ok source ∧
    (system ≠ "" → key.1 = system) ∧ (source ≠ "" → key.2 = source)

/-- The order is there, and it is the only one with its key. -/
def OneOrder (key : String × String) (orderId : Nat) (db : Db) : Prop :=
  (∃ order, db.orders.row orderId = some order ∧ order.sourceKey = some key) ∧
    ∀ i order, db.orders.row i = some order → order.sourceKey = some key → i = orderId

/-- The items are those that were stored first, or those of an entry of one run. -/
def OneItemSet (first : List OrderItem) (events : List IntakeEvent) (orderId : Nat)
    (items : List OrderItem) : Prop :=
  items = first ∨ ∃ env feed ns n ids, .synced env feed ∈ events ∧
    normalizeFeed env.py feed = .ok ns ∧ n ∈ ns ∧ items = List.zipWith (itemRow orderId) n.items ids

/-- Every repetition is answered with the order. -/
def SameAnswer (request : OrderRequest) (events : List IntakeEvent) (orderId : Nat) : Prop :=
  ∀ again result, .posted again result ∈ events → Repeats request again →
    ∃ total, result = .ok (.answer (.created orderId total))

section Steps
variable {db db' : Db} {orderId : Nat}

theorem itemsOf_append_other {id : Nat} (lines : List OrderLine) (h : orderId ≠ id)
    (items : List OrderItem) :
    (items ++ lines.map (lineRow id)).filter (fun item => decide (item.orderId = orderId)) =
      items.filter fun item => decide (item.orderId = orderId) := by
  have hnew : (lines.map (lineRow id)).filter (fun item => decide (item.orderId = orderId)) =
    [] := by
    rw [List.filter_eq_nil_iff]
    intro item hitem
    obtain ⟨line, _, rfl⟩ := List.mem_map.mp hitem
    simp [lineRow, Ne.symm h]
  rw [List.filter_append, hnew, List.append_nil]

/-- A request leaves the orders that are there and their items alone, and does
not answer with one of them. -/
theorem createOrder_keeps {env : OrdersEnv} {request : OrderRequest} {w : World Push}
    {result : Except PyExc (Response OrderAnswer)}
    (h : createOrder env request ⟨db, []⟩ = (result, w)) {order : Order}
    (hrow : db.orders.row orderId = some order) :
    w.db.orders.row orderId = some order ∧ w.db.itemsOf orderId = db.itemsOf orderId ∧
      ∀ total, result ≠ .ok (.answer (.created orderId total)) := by
  rcases createOrder_cases h with ⟨id, total, hresult, _, _, _, _, _, _, lines, _, _, _, hstored⟩ |
    ⟨hrefused, hsame⟩
  · have hne : orderId ≠ id := by
      rintro rfl
      rw [hstored.free] at hrow
      cases hrow
    refine ⟨?_, ?_, ?_⟩
    · rw [hstored.orders orderId, if_neg hne]
      exact hrow
    · rw [hstored.rest]
      exact itemsOf_append_other lines hne db.orderItems
    · intro other hother
      rw [hresult] at hother
      injection hother with hanswer
      injection hanswer with hcreated
      injection hcreated with hid
      exact hne hid.symm
  · refine ⟨(hsame.rows.orders orderId).trans hrow, ?_, ?_⟩
    · rw [Db.itemsOf, hsame.rows.orderItems]
      rfl
    · intro total hcreated
      rcases hrefused with ⟨message, hmessage⟩ | ⟨e, he⟩
      · rw [hmessage] at hcreated
        cases hcreated
      · rw [he] at hcreated
        cases hcreated

theorem syncEntry_items (env : SyncEnv) (n : NormalizedOrder) (s : SyncSession) (orderId : Nat) :
    (syncEntry env n s).2.db.itemsOf orderId = s.db.itemsOf orderId ∨
      ∃ ids, (syncEntry env n s).2.db.itemsOf orderId =
        List.zipWith (itemRow orderId) n.items ids := by
  rcases syncEntry_cases env n s with ⟨_, he⟩ | ⟨_, action, id, t, hstore, he⟩ | ⟨_, exc, m, _, he⟩
  · rw [he]
    exact Or.inl rfl
  · rw [he]
    obtain ⟨customerId, customers, orders, ids, c, _, _, _, _, _, rfl⟩ := storeEntry_ok hstore
    have hitems := itemsOf_replaced s id orderId n.items ids
    by_cases hid : orderId = id
    · subst hid
      exact Or.inr ⟨ids, hitems.trans (if_pos rfl)⟩
    · exact Or.inl (hitems.trans (if_neg hid))
  · rw [he]
    exact Or.inl rfl

theorem syncAll_items (env : SyncEnv) (ns : List NormalizedOrder) (s : SyncSession)
    (orderId : Nat) : (syncAll env ns s).2.db.itemsOf orderId = s.db.itemsOf orderId ∨
      ∃ n ∈ ns, ∃ ids, (syncAll env ns s).2.db.itemsOf orderId =
        List.zipWith (itemRow orderId) n.items ids := by
  induction ns generalizing s with
  | nil => exact Or.inl rfl
  | cons n rest ih =>
    rcases ih (syncEntry env n s).2 with hsame | ⟨m, hm, ids, hreplaced⟩
    · rcases syncEntry_items env n s orderId with hfirst | ⟨ids, hfirst⟩
      · exact Or.inl (hsame.trans hfirst)
      · exact Or.inr ⟨n, List.mem_cons_self, ids, hsame.trans hfirst⟩
    · exact Or.inr ⟨m, List.mem_cons_of_mem n hm, ids, hreplaced⟩

/-- A run keeps the order under its key, with its items or those of an entry. -/
theorem sync_keeps {env : SyncEnv} {feed : List Arrival} (h : SyncLeads env feed db db')
    {order : Order} (hrow : db.orders.row orderId = some order) :
    (∃ order', db'.orders.row orderId = some order' ∧ order'.sourceKey = order.sourceKey) ∧
      (db'.itemsOf orderId = db.itemsOf orderId ∨ ∃ ns n ids, normalizeFeed env.py feed = .ok ns ∧
        n ∈ ns ∧ db'.itemsOf orderId = List.zipWith (itemRow orderId) n.items ids) := by
  rcases syncLeads_cases h with ⟨ns, s, rfl, hns, rfl⟩ | ⟨reached, rfl⟩
  · obtain ⟨order', hrow', hkey, _⟩ := (syncAll_frame env ns s).kept orderId order hrow
    refine ⟨⟨order', hrow', hkey⟩, ?_⟩
    rcases syncAll_items env ns s orderId with hsame | ⟨n, hn, ids, hreplaced⟩
    · exact Or.inl hsame
    · exact Or.inr ⟨ns, n, ids, hns, hn, hreplaced⟩
  · exact ⟨⟨order, hrow, rfl⟩, Or.inl rfl⟩

end Steps

section Runs
variable {db db' : Db} {orderId : Nat} {events : List IntakeEvent}

/-- The order stays under its key, with one set of items, and no request is
answered with it. -/
theorem intake_keeps (h : Intake db events db') {order : Order}
    (hrow : db.orders.row orderId = some order) :
    (∃ order', db'.orders.row orderId = some order' ∧ order'.sourceKey = order.sourceKey) ∧
      OneItemSet (db.itemsOf orderId) events orderId (db'.itemsOf orderId) ∧
      ∀ again result, .posted again result ∈ events →
        ∀ total, result ≠ .ok (.answer (.created orderId total)) := by
  induction h generalizing order with
  | done db =>
    refine ⟨⟨order, hrow, rfl⟩, Or.inl rfl, ?_⟩
    intro again result hmem
    cases hmem
  | posted hcreate _ ih =>
    obtain ⟨hkept, hitems, hanswer⟩ := createOrder_keeps hcreate hrow
    obtain ⟨hfinal, hset, hlater⟩ := ih hkept
    refine ⟨hfinal, ?_, ?_⟩
    · rw [hitems] at hset
      rcases hset with hsame | ⟨env, feed, ns, n, ids, hmem, hns, hn, hreplaced⟩
      · exact Or.inl hsame
      · exact Or.inr ⟨env, feed, ns, n, ids, List.mem_cons_of_mem _ hmem, hns, hn, hreplaced⟩
    · intro again result hmem
      rcases List.mem_cons.mp hmem with hhead | htail
      · injection hhead with _ hresult
        rw [hresult]
        exact hanswer
      · exact hlater again result htail
  | synced hsync _ ih =>
    obtain ⟨⟨mid, hmid, hkey⟩, hitems⟩ := sync_keeps hsync hrow
    obtain ⟨⟨last, hlast, hlastKey⟩, hset, hlater⟩ := ih hmid
    refine ⟨⟨last, hlast, hlastKey.trans hkey⟩, ?_, ?_⟩
    · rcases hset with hsame | ⟨env, feed, ns, n, ids, hmem, hns, hn, hreplaced⟩
      · rcases hitems with hfirst | ⟨ns, n, ids, hns, hn, hreplaced⟩
        · exact Or.inl (hsame.trans hfirst)
        · exact Or.inr ⟨_, _, ns, n, ids, List.mem_cons_self, hns, hn, hsame.trans hreplaced⟩
      · exact Or.inr ⟨env, feed, ns, n, ids, List.mem_cons_of_mem _ hmem, hns, hn, hreplaced⟩
    · intro again result hmem
      rcases List.mem_cons.mp hmem with hhead | htail
      · cases hhead
      · exact hlater again result htail

/-- The order of an accepted request has a key, and the body's where it gives one. -/
theorem accepted_key {py : Builtins} {request : OrderRequest} {total : PyFloat}
    (h : Accepted py request orderId total db db') :
    ∃ order key, db'.orders.row orderId = some order ∧ order.sourceKey = some key ∧
      CarriesKey py request key := by
  obtain ⟨fields, customer, notes, address, system, source, lines, hbody, hsystem, hsource,
    hstored⟩ := h
  refine ⟨_, _, (hstored.orders orderId).trans (if_pos rfl), rfl, fields, system, source, hbody,
    hsystem, hsource, ?_, ?_⟩
  · intro hne
    exact if_neg hne
  · intro hne
    exact if_neg hne

/-- After an accepted request there is one order of its key with one set of items,
and the promise about repetitions is kept exactly when there are none. -/
theorem intake_idempotent_iff {env : OrdersEnv} {request : OrderRequest} {w : World Push}
    {total : PyFloat}
    (hfirst : createOrder env request ⟨db, []⟩ = (.ok (.answer (.created orderId total)), w))
    (hrun : Intake w.db events db') :
    (∃ key, CarriesKey env.py request key ∧ OneOrder key orderId db' ∧
        OneItemSet (w.db.itemsOf orderId) events orderId (db'.itemsOf orderId) ∧
        SameAnswer request events orderId) ↔
      ∀ again result, .posted again result ∈ events → ¬ Repeats request again := by
  have haccepted : Accepted env.py request orderId total db w.db := by
    rcases createOrder_cases hfirst with ⟨id, sum, hresult, haccepted⟩ | ⟨hrefused, _⟩
    · injection hresult with hanswer
      injection hanswer with hcreated
      injection hcreated with hid htotal
      exact hid ▸ htotal ▸ haccepted
    · rcases hrefused with ⟨message, hmessage⟩ | ⟨e, he⟩
      · cases hmessage
      · cases he
  obtain ⟨order, key, hrow, hkey, hcarries⟩ := accepted_key haccepted
  obtain ⟨⟨last, hlast, hlastKey⟩, hset, hanswers⟩ := intake_keeps hrun hrow
  constructor
  · rintro ⟨_, _, _, _, hsame⟩ again result hmem hrepeats
    obtain ⟨sum, hresult⟩ := hsame again result hmem hrepeats
    exact hanswers again result hmem sum hresult
  · intro hnone
    refine ⟨key, hcarries, ⟨⟨last, hlast, hlastKey.trans hkey⟩, ?_⟩, hset, ?_⟩
    · intro i other hother hotherKey
      exact db'.orders.unique i orderId other last key hother hlast hotherKey
        (hlastKey.trans hkey)
    · intro again result hmem hrepeats
      exact absurd hrepeats (hnone again result hmem)

end Runs

def isCreated : Except PyExc (Response OrderAnswer) → Bool
  | .ok (.answer (.created _ _)) => true
  | _ => false

theorem sampleRequest_accepted : ∃ orderId total,
    createOrder sampleOrdersEnv sampleOrderRequest ⟨sampleDb, []⟩ =
      (.ok (.answer (.created orderId total)), sampleCreated) := by
  have hcreated : isCreated (createOrder sampleOrdersEnv sampleOrderRequest ⟨sampleDb, []⟩).1 =
      true := by decide +kernel
  unfold sampleCreated
  rcases hrun : createOrder sampleOrdersEnv sampleOrderRequest ⟨sampleDb, []⟩ with ⟨result, w⟩
  rw [hrun] at hcreated
  rcases result with exc | message | ⟨orderId, total⟩ | _
  · cases hcreated
  · cases hcreated
  · exact ⟨orderId, total, rfl⟩
  · cases hcreated

def sampleRetry : Except PyExc (Response OrderAnswer) × World Push :=
  createOrder sampleOrdersEnv sampleOrderRequest ⟨sampleCreated.db, []⟩

/-- The same request again: the INSERT raises, and the caller gets no order id. -/
theorem retried_request_raises :
    ∃ orderId total,
      createOrder sampleOrdersEnv sampleOrderRequest ⟨sampleDb, []⟩ =
        (.ok (.answer (.created orderId total)), sampleCreated) ∧
      Intake sampleCreated.db [.posted sampleOrderRequest sampleRetry.1] sampleRetry.2.db ∧
      ¬ SameAnswer sampleOrderRequest [.posted sampleOrderRequest sampleRetry.1] orderId := by
  obtain ⟨orderId, total, hfirst⟩ := sampleRequest_accepted
  have hretry : createOrder sampleOrdersEnv sampleOrderRequest ⟨sampleCreated.db, []⟩ =
      (sampleRetry.1, sampleRetry.2) := rfl
  refine ⟨orderId, total, hfirst, Intake.posted hretry (Intake.done _), ?_⟩
  intro hsame
  obtain ⟨sum, hresult⟩ := hsame sampleOrderRequest sampleRetry.1 List.mem_cons_self ⟨rfl, rfl⟩
  have hcreated : isCreated sampleRetry.1 = false := by decide +kernel
  rw [hresult] at hcreated
  cases hcreated

/-- The request once, with a run of the sync after it. -/
theorem intake_idempotent_iff_sample : ∃ orderId db',
    Intake sampleCreated.db [.synced sampleEnv []] db' ∧
      ∃ key, CarriesKey sampleOrdersEnv.py sampleOrderRequest key ∧ OneOrder key orderId db' ∧
        OneItemSet (sampleCreated.db.itemsOf orderId) [.synced sampleEnv []] orderId
          (db'.itemsOf orderId) ∧
        SameAnswer sampleOrderRequest [.synced sampleEnv []] orderId := by
  obtain ⟨orderId, total, hfirst⟩ := sampleRequest_accepted
  have hrun : Intake sampleCreated.db [.synced sampleEnv []] sampleCreated.db :=
    Intake.synced ⟨Table.listing _, rfl⟩ (Intake.done _)
  refine ⟨orderId, sampleCreated.db, hrun, (intake_idempotent_iff hfirst hrun).mpr ?_⟩
  intro again result hmem
  cases List.mem_singleton.mp hmem

end OrderIntake
