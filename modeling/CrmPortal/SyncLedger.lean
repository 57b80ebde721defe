import CrmPortal.SimulationRuns
import CrmPortal.Library.AuditTrail

/-!
# The orders and the audit trail of the sync

`order_sync_audit` is only written by the sync, and only added to. Over any run of
the writers of orders, from any database, what has been added since says of each
order marked as synced which row last wrote it, and of each source key whether and
when the sync has created its order. The one exception is known: an order that was
marked when the run began, such as the one the seed marks without an audit row.
-/

namespace SyncLedger

open PyValue IdentityTable Transaction UnitOfWork CrmDatabase RequestContext ShopCatalogSync
  OrderNormalization OrderSync OrderSyncSpec Orders OrdersSpec Simulation BacklogClassification
  SimulationRuns AuditTrail

/-- The source key that an audit row is about. -/
def auditKey (row : OrderSyncAudit) : String × String := (row.sourceSystem, row.sourceOrderId)

def Success (row : OrderSyncAudit) : Prop := row.syncStatus = "success"

def Creation (row : OrderSyncAudit) : Prop :=
  row.syncStatus = "success" ∧ row.syncAction = "created"

instance : DecidablePred Creation := fun row => by
  unfold Creation
  infer_instance

/-- The row says which entry of which run has last written the order. -/
structure Vouches (row : OrderSyncAudit) (o : Order) : Prop where
  key : o.sourceKey = some (auditKey row)
  synced : o.syncStatus = some "synced"
  correlation : o.correlationId = some row.correlationId

/-- The columns of an order that only the sync writes, and where the order is from. -/
structure SameMark (old o : Order) : Prop where
  key : o.sourceKey = old.sourceKey
  system : o.sourceSystem = old.sourceSystem
  sync : o.syncStatus = old.syncStatus
  correlation : o.correlationId = old.correlationId

theorem SameMark.refl (o : Order) : SameMark o o := ⟨rfl, rfl, rfl, rfl⟩

theorem SameMark.trans {a b c : Order} (h : SameMark a b) (k : SameMark b c) : SameMark a c :=
  ⟨k.key.trans h.key, k.system.trans h.system, k.sync.trans h.sync,
    k.correlation.trans h.correlation⟩

theorem Vouches.ofSameMark {row : OrderSyncAudit} {old o : Order} (h : Vouches row old)
    (same : SameMark old o) : Vouches row o :=
  ⟨same.key.trans h.key, same.sync.trans h.synced, same.correlation.trans h.correlation⟩

/-- What the rows added since `start` say of the orders of `db`. -/
structure Ledger (start : Db) (trail : List OrderSyncAudit) (db : Db) : Prop where
  added : db.orderSyncAudit = start.orderSyncAudit ++ trail
  vouched : ∀ i o, db.orders.row i = some o → o.syncStatus = some "synced" →
    (∃ row, Latest auditKey Success trail row ∧ Vouches row o) ∨
      ∃ old, start.orders.row i = some old ∧ SameMark old o
  held : ∀ row, Latest auditKey Success trail row →
    ∃ i o, db.orders.row i = some o ∧ Vouches row o
  opened : OpenedFirst auditKey Success Creation trail
  kept : ∀ i old, start.orders.row i = some old →
    ∃ o, db.orders.row i = some o ∧ o.sourceKey = old.sourceKey
  unopened : ∀ row ∈ trail, Creation row → ∀ i old, start.orders.row i = some old →
    old.sourceKey ≠ some (auditKey row)

theorem ledger_start (start : Db) : Ledger start [] start where
  added := (List.append_nil _).symm
  vouched := fun _ o hrow _ => Or.inr ⟨o, hrow, SameMark.refl o⟩
  held := by
    intro row hlatest
    cases hlatest.mem
  opened := openedFirst_nil
  kept := fun _ old hrow => ⟨old, hrow, rfl⟩
  unopened := by
    intro row hmem
    cases hmem

/-- Orders keep their mark, and a new one has none. -/
structure Unlogged (a b : Db) : Prop where
  audits : b.orderSyncAudit = a.orderSyncAudit
  marks : ∀ i old, a.orders.row i = some old → ∃ o, b.orders.row i = some o ∧ SameMark old o
  fresh : ∀ i o, b.orders.row i = some o → a.orders.row i = none → o.syncStatus ≠ some "synced"

/-- The rows and the trail are the same. -/
theorem Unlogged.ofRows {a b : Db} (rows : ∀ i, b.orders.row i = a.orders.row i)
    (audits : b.orderSyncAudit = a.orderSyncAudit) : Unlogged a b where
  audits := audits
  marks := fun i old hrow => ⟨old, (rows i).trans hrow, SameMark.refl old⟩
  fresh := by
    intro i o hrow hnone
    rw [rows i, hnone] at hrow
    cases hrow

theorem Unlogged.refl (a : Db) : Unlogged a a := .ofRows (fun _ => rfl) rfl

theorem Unlogged.trans (a b c : Db) (h : Unlogged a b) (k : Unlogged b c) : Unlogged a c where
  audits := k.audits.trans h.audits
  marks := by
    intro i old hrow
    obtain ⟨mid, hmid, hfirst⟩ := h.marks i old hrow
    obtain ⟨o, ho, hsecond⟩ := k.marks i mid hmid
    exact ⟨o, ho, hfirst.trans hsecond⟩
  fresh := by
    intro i o hrow hnone
    rcases hmid : b.orders.row i with _ | mid
    · exact k.fresh i o hrow hmid
    · obtain ⟨o', ho', hsame⟩ := k.marks i mid hmid
      obtain rfl := Option.some.inj (ho'.symm.trans hrow)
      rw [hsame.sync]
      exact h.fresh i mid hmid hnone

theorem Unlogged.rollback (a reached : Db) : Unlogged a (a.rollback reached) :=
  .ofRows (Db.rollback_sameRows a reached).orders (Db.rollback_sameRows a reached).orderSyncAudit

/-- One order is new, and it is not marked. -/
theorem Unlogged.ofInsert {a b : Db} {id : Nat} {row : Order} (hfree : a.orders.row id = none)
    (rows : ∀ i, b.orders.row i = if i = id then some row else a.orders.row i)
    (hmark : row.syncStatus ≠ some "synced") (audits : b.orderSyncAudit = a.orderSyncAudit) :
    Unlogged a b where
  audits := audits
  marks := by
    intro i old hrow
    have hi : i ≠ id := by
      rintro rfl
      rw [hfree] at hrow
      cases hrow
    exact ⟨old, ((rows i).trans (if_neg hi)).trans hrow, SameMark.refl old⟩
  fresh := by
    intro i o hrow hnone
    by_cases hi : i = id
    · rw [rows i, if_pos hi] at hrow
      obtain rfl := Option.some.inj hrow
      exact hmark
    · rw [rows i, if_neg hi, hnone] at hrow
      cases hrow

theorem ledger_unlogged {start a b : Db} {trail : List OrderSyncAudit} (h : Ledger start trail a)
    (k : Unlogged a b) : Ledger start trail b where
  added := k.audits.trans h.added
  vouched := by
    intro i o hrow hsynced
    rcases hold : a.orders.row i with _ | old
    · exact absurd hsynced (k.fresh i o hrow hold)
    · obtain ⟨o', ho', hsame⟩ := k.marks i old hold
      obtain rfl := Option.some.inj (ho'.symm.trans hrow)
      rcases h.vouched i old hold (hsame.sync ▸ hsynced) with ⟨row, hlatest, hvouches⟩ |
        ⟨first, hfirst, hmark⟩
      · exact Or.inl ⟨row, hlatest, hvouches.ofSameMark hsame⟩
      · exact Or.inr ⟨first, hfirst, hmark.trans hsame⟩
  held := by
    intro row hlatest
    obtain ⟨i, old, hold, hvouches⟩ := h.held row hlatest
    obtain ⟨o, ho, hsame⟩ := k.marks i old hold
    exact ⟨i, o, ho, hvouches.ofSameMark hsame⟩
  opened := h.opened
  kept := by
    intro i first hfirst
    obtain ⟨old, hold, hkey⟩ := h.kept i first hfirst
    obtain ⟨o, ho, hsame⟩ := k.marks i old hold
    exact ⟨o, ho, hsame.key.trans hkey⟩
  unopened := h.unopened

theorem createOrder_unlogged (env : OrdersEnv) (request : OrderRequest) (w : World Push) :
    Unlogged w.db (Orders.createOrder env request w).2.db := by
  rcases hrun : Orders.createOrder env request w with ⟨result, w'⟩
  rcases createOrder_cases hrun with
    ⟨id, total, -, -, customer, notes, address, system, source, lines, -, -, -, hstored⟩ |
      ⟨-, hsame⟩
  · refine Unlogged.ofInsert hstored.free hstored.orders ?_ ?_
    · show some "local" ≠ some "synced"
      decide
    · have haudits := congrArg Db.orderSyncAudit hstored.rest
      exact haudits
  · exact Unlogged.ofRows hsame.rows.orders hsame.rows.orderSyncAudit

theorem updateOrderStatus_unlogged (env : OrdersEnv) (id : Nat) (body : Json) (w : World Push) :
    Unlogged w.db (Orders.updateOrderStatus env id body w).2.db := by
  rcases hrun : Orders.updateOrderStatus env id body w with ⟨result, w'⟩
  rcases updateOrderStatus_cases hrun with ⟨fields, -, -, hwritten⟩ | ⟨-, hsame⟩
  · refine ⟨?_, ?_, ?_⟩
    · have haudits := congrArg Db.orderSyncAudit hwritten.rest
      exact haudits
    · intro i old hold
      by_cases hi : i = id
      · refine ⟨withStatus (newStatus env.py fields) old, ?_, ⟨rfl, rfl, rfl, rfl⟩⟩
        exact (hwritten.orders i).trans (by rw [if_pos hi, hold]; rfl)
      · exact ⟨old, ((hwritten.orders i).trans (if_neg hi)).trans hold, SameMark.refl old⟩
    · intro i o hrow hnone
      rw [hwritten.orders i, hnone] at hrow
      split at hrow <;> cases hrow
  · exact Unlogged.ofRows hsame.rows.orders hsame.rows.orderSyncAudit

/-- The simulation adds orders without a mark, and lines. -/
theorem simulation_unlogged (env : SimulationEnv) : Kept env Unlogged where
  refl := Unlogged.refl
  trans := Unlogged.trans
  rollback := Unlogged.rollback
  store := by
    intro customerId productId quantity price o hmark
    have hinsert : ∀ db db', insertSimulated env customerId o db = .ok db' → Unlogged db db' := by
      intro db db' h
      obtain ⟨id, orderId, orders, -, hnew, rfl⟩ := insertSimulated_ok h
      obtain ⟨-, hfree, -, hrow⟩ := Table.insert_eq_some hnew
      refine Unlogged.ofInsert hfree hrow ?_ rfl
      intro heq
      exact hmark (Option.some.inj heq)
    refine respects_storeSimulated Unlogged.refl Unlogged.trans hinsert fun id db db' _ h => ?_
    obtain ⟨_, items, -, rfl⟩ := insertItem_ok h
    exact Unlogged.ofRows (fun _ => rfl) rfl

/-- A row that does not count says nothing of the orders. -/
theorem ledger_noted {start a b : Db} {trail : List OrderSyncAudit} {row : OrderSyncAudit}
    (h : Ledger start trail a) (orders : b.orders = a.orders)
    (audits : b.orderSyncAudit = a.orderSyncAudit ++ [row]) (hrow : ¬ Success row) :
    Ledger start (trail ++ [row]) b where
  added := by rw [audits, h.added, List.append_assoc]
  vouched := by
    intro i o hi hsynced
    rw [orders] at hi
    rcases h.vouched i o hi hsynced with ⟨last, hlatest, hvouches⟩ | hold
    · exact Or.inl ⟨last, hlatest.concat fun hs => absurd hs hrow, hvouches⟩
    · exact Or.inr hold
  held := by
    intro last hlatest
    rw [orders]
    rcases hlatest.of_concat with rfl | ⟨hold, -⟩
    · exact absurd hlatest.counts hrow
    · exact h.held last hold
  opened := h.opened.concat fun hopens => absurd hopens.1 hrow
  kept := by
    intro i old hold
    rw [orders]
    exact h.kept i old hold
  unopened := by
    intro r hr hcreation
    rcases List.mem_append.mp hr with hold | hnew
    · exact h.unopened r hold hcreation
    · obtain rfl := List.mem_singleton.mp hnew
      exact absurd hcreation.1 hrow

/-- An entry that is stored writes its order and, at the end of the trail, the row
that vouches for it. -/
structure Recorded (row : OrderSyncAudit) (a b : Db) : Prop where
  success : Success row
  audits : b.orderSyncAudit = a.orderSyncAudit ++ [row]
  order : ∃ id o, b.orders.row id = some o ∧ Vouches row o ∧
    (∀ old, a.orders.row id = some old → old.sourceKey = some (auditKey row)) ∧
    ∀ i, i ≠ id → b.orders.row i = a.orders.row i
  creation : Creation row → ∀ i o, a.orders.row i = some o → o.sourceKey ≠ some (auditKey row)

theorem storeEntry_recorded {env : SyncEnv} {n : NormalizedOrder} {s t : SyncSession}
    {action : SyncAction} {id : Nat} (h : storeEntry env n s = (.ok (action, id), t)) :
    Recorded (auditRow env n.sourceOrderId action.label "success"
      (.text s!"{action.label} order from {env.sourceName}")) s.db t.db := by
  obtain ⟨customerId, customers, orders, ids, c, -, horder, -, -, -, rfl⟩ := storeEntry_ok h
  obtain ⟨notes, address, created, -, hrow, hothers, hbefore⟩ := upsertOrder_row horder
  refine ⟨rfl, rfl, ⟨id, _, hrow, ⟨rfl, rfl, rfl⟩, ?_, hothers⟩, ?_⟩
  · intro old hold
    rcases hbefore with ⟨-, -, hfree, -⟩ | ⟨-, old', hold', hkey, -⟩
    · rw [hfree] at hold
      cases hold
    · obtain rfl := Option.some.inj (hold'.symm.trans hold)
      exact hkey
  · rintro ⟨-, hcreated⟩ i o ho hkey
    rcases hbefore with ⟨-, hnone, -, -⟩ | ⟨rfl, -⟩
    · exact (Table.find_eq_none_iff _ _).mp hnone i o ho hkey
    · exact absurd (show "updated" = "created" from hcreated) (by decide)

theorem ledger_recorded {start a b : Db} {trail : List OrderSyncAudit} {row : OrderSyncAudit}
    (h : Ledger start trail a) (k : Recorded row a b) : Ledger start (trail ++ [row]) b := by
  obtain ⟨id, new, hnew, hvouches, hself, hothers⟩ := k.order
  -- the rows under another key are those that the entry leaves alone
  have hne : ∀ i o, a.orders.row i = some o → o.sourceKey ≠ some (auditKey row) → i ≠ id := by
    rintro i o ho hkey rfl
    exact hkey (hself o ho)
  refine ⟨by rw [k.audits, h.added, List.append_assoc], ?_, ?_, ?_, ?_, ?_⟩
  · intro i o ho hsynced
    by_cases hi : i = id
    · subst hi
      obtain rfl := Option.some.inj (hnew.symm.trans ho)
      exact Or.inl ⟨row, latest_concat k.success, hvouches⟩
    · rw [hothers i hi] at ho
      rcases h.vouched i o ho hsynced with ⟨last, hlatest, hlast⟩ | hold
      · refine Or.inl ⟨last, hlatest.concat fun _ hkey => hi ?_, hlast⟩
        refine b.orders.unique i id o new _ ((hothers i hi).trans ho) hnew ?_ hvouches.key
        rw [hlast.key, hkey]
      · exact Or.inr hold
  · intro last hlatest
    rcases hlatest.of_concat with rfl | ⟨hold, hkey⟩
    · exact ⟨id, new, hnew, hvouches⟩
    · obtain ⟨i, o, ho, hlast⟩ := h.held last hold
      have hi : i ≠ id := by
        refine hne i o ho ?_
        rw [hlast.key]
        intro heq
        exact hkey k.success (Option.some.inj heq).symm
      exact ⟨i, o, (hothers i hi).trans ho, hlast⟩
  · refine h.opened.concat fun hopens earlier hmem hsuccess hkey => ?_
    obtain ⟨last, hlatest, hlast⟩ := exists_latest auditKey hmem hsuccess
    obtain ⟨i, o, ho, hheld⟩ := h.held last hlatest
    refine k.creation hopens i o ho ?_
    rw [hheld.key, hlast, hkey]
  · intro i old hold
    obtain ⟨o, ho, hkey⟩ := h.kept i old hold
    by_cases hi : i = id
    · subst hi
      refine ⟨new, hnew, ?_⟩
      rw [hvouches.key, ← hself o ho, hkey]
    · exact ⟨o, (hothers i hi).trans ho, hkey⟩
  · intro r hr hcreation i old hold hkey
    rcases List.mem_append.mp hr with hmem | hlast
    · exact h.unopened r hmem hcreation i old hold hkey
    · obtain rfl := List.mem_singleton.mp hlast
      obtain ⟨o, ho, hsame⟩ := h.kept i old hold
      exact k.creation hcreation i o ho (hsame.trans hkey)

theorem syncEntry_ledger (env : SyncEnv) (n : NormalizedOrder) {s : SyncSession} {start : Db}
    {trail : List OrderSyncAudit} (h : Ledger start trail s.db) :
    ∃ row, Ledger start (trail ++ [row]) (syncEntry env n s).2.db := by
  rcases syncEntry_cases env n s with ⟨-, hrun⟩ | ⟨-, action, id, t, hstore, hrun⟩ |
    ⟨-, exc, m, -, hrun⟩
  · rw [hrun]
    refine ⟨skipRow env, ledger_noted h rfl rfl ?_⟩
    show "invalid" ≠ "success"
    decide
  · rw [hrun]
    exact ⟨_, ledger_recorded h (storeEntry_recorded hstore)⟩
  · rw [hrun]
    have hback := ledger_unlogged h (Unlogged.rollback s.db m.db)
    refine ⟨auditRow env n.sourceOrderId "upsert" "failed" (.strOf exc),
      ledger_noted hback rfl rfl ?_⟩
    show "failed" ≠ "success"
    decide

theorem syncAll_ledger {env : SyncEnv} {ns : List NormalizedOrder} {s : SyncSession} {start : Db}
    {trail : List OrderSyncAudit} (h : Ledger start trail s.db) :
    ∃ more, Ledger start (trail ++ more) (syncAll env ns s).2.db := by
  induction ns generalizing s trail with
  | nil => exact ⟨[], (List.append_nil trail).symm ▸ h⟩
  | cons n rest ih =>
    obtain ⟨row, hrow⟩ := syncEntry_ledger env n h
    obtain ⟨more, hmore⟩ := ih hrow
    rw [List.append_assoc] at hmore
    exact ⟨[row] ++ more, hmore⟩

theorem orderCall_ledger {start a b : Db} {trail : List OrderSyncAudit} {call : OrderCall}
    (h : Ledger start trail a) (hcall : call.Leads a b) :
    ∃ more, Ledger start (trail ++ more) b := by
  have unlogged : Unlogged a b → ∃ more, Ledger start (trail ++ more) b := by
    intro k
    exact ⟨[], (List.append_nil trail).symm ▸ ledger_unlogged h k⟩
  cases call with
  | createOrder env request =>
    obtain rfl := hcall
    exact unlogged (createOrder_unlogged env request ⟨a, []⟩)
  | updateOrderStatus env id body =>
    obtain rfl := hcall
    exact unlogged (updateOrderStatus_unlogged env id body ⟨a, []⟩)
  | sync env feed =>
    rcases syncLeads_cases hcall with ⟨ns, s, rfl, -, rfl⟩ | ⟨reached, rfl⟩
    · exact syncAll_ledger h
    · exact unlogged (Unlogged.rollback a reached)
  | generateOrders env body draws =>
    obtain rfl := hcall
    exact unlogged ((simulation_unlogged env).generateOrders body draws a)
  | generateBacklog env body draws =>
    obtain rfl := hcall
    exact unlogged ((simulation_unlogged env).generateBacklog body draws a)
  | highValueOrder env body draw =>
    obtain rfl := hcall
    exact unlogged ((simulation_unlogged env).highValueOrder body draw a)

theorem runs_ledger {start db : Db} (h : Runs (fun _ _ => True) start db) :
    ∃ trail, Ledger start trail db := by
  induction h with
  | start => exact ⟨[], ledger_start start⟩
  | call call _ _ hleads ih =>
    obtain ⟨trail, hledger⟩ := ih
    obtain ⟨more, hmore⟩ := orderCall_ledger hledger hleads
    exact ⟨trail ++ more, hmore⟩

/-- Over any run of the writers of orders the trail is only added to, and then: an
order that is marked as synced was so, under the same run, when the run began, or the
last success of its key names the run that wrote it; every key with a success has its
order; and a key is created at most once, before any other success of it, and never
when an order had it at the start. -/
theorem trail_accounts {start db : Db} (h : Runs (fun _ _ => True) start db) :
    ∃ trail, db.orderSyncAudit = start.orderSyncAudit ++ trail ∧
      (∀ i o, db.orders.row i = some o → o.syncStatus = some "synced" →
        (∃ row, Latest auditKey Success trail row ∧ o.sourceKey = some (auditKey row) ∧
          o.correlationId = some row.correlationId) ∨
        ∃ old, start.orders.row i = some old ∧ SameMark old o) ∧
      (∀ row ∈ trail, Success row →
        ∃ i o, db.orders.row i = some o ∧ o.sourceKey = some (auditKey row) ∧
          o.syncStatus = some "synced") ∧
      OpenedFirst auditKey Success Creation trail ∧
      ∀ k, trail.countP (fun row => decide (Creation row ∧ auditKey row = k)) ≤ 1 ∧
        ((∃ i old, start.orders.row i = some old ∧ old.sourceKey = some k) →
          ∀ row ∈ trail, Creation row → auditKey row ≠ k) := by
  obtain ⟨trail, hledger⟩ := runs_ledger h
  refine ⟨trail, hledger.added, ?_, ?_, hledger.opened, fun k => ⟨?_, ?_⟩⟩
  · intro i o hrow hsynced
    rcases hledger.vouched i o hrow hsynced with ⟨row, hlatest, hvouches⟩ | hold
    · exact Or.inl ⟨row, hlatest, hvouches.key, hvouches.correlation⟩
    · exact Or.inr hold
  · intro row hmem hsuccess
    obtain ⟨last, hlatest, hkey⟩ := exists_latest auditKey hmem hsuccess
    obtain ⟨i, o, hrow, hvouches⟩ := hledger.held last hlatest
    exact ⟨i, o, hrow, hkey ▸ hvouches.key, hvouches.synced⟩
  · exact hledger.opened.once (fun row hrow => hrow.1) k
  · rintro ⟨i, old, hold, hkey⟩ row hmem hcreation rfl
    exact hledger.unopened row hmem hcreation i old hold hkey

/-- An order without items. -/
def bareOrder : Arrival := ⟨[("id", .str "A-1"), ("customer_email", .str "ada@example.com")], 0⟩

/-- A sync of one order; it stores its rows, or takes them back. -/
def afterSync (db : Db) : Db :=
  match syncExternalOrders sampleEnv db db.products.listing [bareOrder] with
  | .ok (_, reached) => reached
  | .error _ => db.rollback db

theorem afterSync_leads (db : Db) :
    (OrderCall.sync sampleEnv [bareOrder]).Leads db (afterSync db) := by
  refine ⟨db.products.listing, ?_⟩
  unfold afterSync
  rcases syncExternalOrders sampleEnv db db.products.listing [bareOrder] with exc | ⟨r, reached⟩
  · exact ⟨db, rfl⟩
  · rfl

theorem trail_accounts_sample :
    (afterSync (afterSync Db.empty)).orderSyncAudit.map OrderSyncAudit.syncAction =
        ["created", "updated"] ∧
      ∃ trail, (afterSync (afterSync Db.empty)).orderSyncAudit = [] ++ trail ∧
        OpenedFirst auditKey Success Creation trail := by
  refine ⟨by decide +kernel, ?_⟩
  obtain ⟨trail, hadded, -, -, hopened, -⟩ := trail_accounts
    (.call _ (.call _ .start trivial (afterSync_leads Db.empty)) trivial
      (afterSync_leads (afterSync Db.empty)))
  exact ⟨trail, hadded, hopened⟩

end SyncLedger
