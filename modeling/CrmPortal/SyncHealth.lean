import CrmPortal.BacklogAge
import CrmPortal.SyncLedger

/-!
# The health of the sync

The dashboard counts audit rows by their status and orders by where they come from, and
calls that the health of the sync. What the passes of the sync have returned adds up to
the same numbers, whatever other writers of orders do between them. One counter does not
fit: a pass counts an entry without a source id as failed, the dashboard as neither.
-/

namespace SyncHealth

open PyValue IdentityTable UnitOfWork CrmDatabase OrderNormalization OrderSync OrderSyncSpec
  BacklogClassification BacklogAge SyncLedger

structure HealthConfig where
  ordersSyncEnabled : Bool
  ordersSyncSourceName : String
  ordersSyncIntervalSeconds : Int
  summary : SummaryConfig

structure OrderSyncHealth where
  enabled : Bool
  source : String
  intervalSeconds : Int
  totalSyncOperations : Nat
  successful : Nat
  failed : Nat
  externalTotal : Nat
  backlog : Nat
  suspicious : Nat
  suspiciousTotal : PyFloat
  backlogAgeMinutes : Int

def auditsAs (status : String) (db : Db) : Nat :=
  db.orderSyncAudit.countP fun row => decide (row.syncStatus = status)

/-- A NULL is not different from anything. -/
def external (order : Order) : Bool :=
  order.sourceSystem.any fun system => decide (system ≠ "enterprise-crm")

def orderSyncHealth (config : HealthConfig) (db : Db) : OrderSyncHealth where
  enabled := config.ordersSyncEnabled
  source := config.ordersSyncSourceName
  intervalSeconds := config.ordersSyncIntervalSeconds
  totalSyncOperations := db.orderSyncAudit.length
  successful := auditsAs "success" db
  failed := auditsAs "failed" db
  externalTotal := db.orders.countWhere external
  backlog := db.orders.countWhere inBacklog
  suspicious := db.orders.countWhere fun order =>
    config.summary.atLeast order.total config.summary.suspiciousOrderTotalThreshold
  suspiciousTotal := config.summary.suspiciousOrderTotalThreshold
  backlogAgeMinutes := config.summary.backlogOrderAgeMinutes

/-- A pass of the sync, with what it returned. -/
structure Pass where
  env : SyncEnv
  feed : List Arrival
  result : SyncResult

/-- The entries that have no source id. -/
def Pass.skipped (pass : Pass) : Nat :=
  pass.feed.countP fun a => decide (sourceOrderId pass.env.py a.raw = "")

/-- The passes that returned, oldest first, and the database after them. A pass that
raised has taken its rows back, and the other writers of orders come in between. -/
inductive Passes (start : Db) : List Pass → Db → Prop where
  | start : Passes start [] start
  | returned {passes : List Pass} {db db' : Db} (pass : Pass)
      (listing : Table.Listing db.products) : Passes start passes db →
      syncExternalOrders pass.env db listing pass.feed = .ok (pass.result, db') →
      Passes start (passes ++ [pass]) db'
  | raised {passes : List Pass} {db : Db} (reached : Db) : Passes start passes db →
      Passes start passes (db.rollback reached)
  | other {passes : List Pass} {db db' : Db} (call : OrderCall) : Passes start passes db →
      (∀ env feed, call ≠ .sync env feed) → call.Leads db db' → Passes start passes db'

/-- The four numbers that the passes are to account for. -/
structure Tally where
  total : Nat
  successful : Nat
  failed : Nat
  external : Nat

def tally (db : Db) : Tally where
  total := db.orderSyncAudit.length
  successful := auditsAs "success" db
  failed := auditsAs "failed" db
  external := db.orders.countWhere external

theorem tally_audit {a b : Db} {row : OrderSyncAudit}
    (h : b.orderSyncAudit = a.orderSyncAudit ++ [row]) :
    (tally b).total = (tally a).total + 1 ∧
    (tally b).successful = (tally a).successful + (if row.syncStatus = "success" then 1 else 0) ∧
    (tally b).failed = (tally a).failed + (if row.syncStatus = "failed" then 1 else 0) := by
  simp [tally, auditsAs, h, List.countP_singleton]

/-- The other writers of orders leave the trail alone, and no external order gets lost. -/
theorem tally_unlogged {a b : Db} (h : Unlogged a b) :
    (tally b).total = (tally a).total ∧ (tally b).successful = (tally a).successful ∧
      (tally b).failed = (tally a).failed ∧ (tally a).external ≤ (tally b).external := by
  refine ⟨?_, ?_, ?_, Table.countWhere_mono fun i old hold hp => ?_⟩
  · simp [tally, h.audits]
  · simp [tally, auditsAs, h.audits]
  · simp [tally, auditsAs, h.audits]
  · obtain ⟨o, ho, hsame⟩ := h.marks i old hold
    refine ⟨o, ho, ?_⟩
    rw [external, hsame.system]
    exact hp

/-- An order that is stored is external afterwards, and a new one adds to the count. -/
theorem external_stored {env : SyncEnv} {customerId id : Nat} {n : NormalizedOrder}
    {s t : OrderTable} {action : SyncAction} (hsource : env.sourceName ≠ "enterprise-crm")
    (h : upsertOrder env customerId n s = (.ok (action, id), t)) :
    s.countWhere external + (if action = .created then 1 else 0) ≤ t.countWhere external := by
  obtain ⟨notes, address, -, ⟨-, rfl, -, hinsert⟩ | ⟨-, rfl, rfl⟩⟩ := upsertOrder_ok_iff.mp h
  · have hnew : external (newOrder env customerId n notes address) = true :=
      decide_eq_true hsource
    rw [Table.countWhere_insert hinsert, if_pos hnew, if_pos rfl]
  · rw [if_neg (by rintro ⟨⟩), Nat.add_zero]
    refine Table.countWhere_mono fun i old hold hp => ?_
    rw [Table.modify_row]
    by_cases hi : i = id
    · exact ⟨updatedOrder env customerId n notes address old, by rw [if_pos hi, hold]; rfl, hp⟩
    · exact ⟨old, by rw [if_neg hi, hold], hp⟩

/-- What an entry adds to the numbers, and what it adds to the counters of its pass. -/
structure Counted (env : SyncEnv) (skipped entries : Nat) (a b : Db) (r r' : SyncResult) :
    Prop where
  total : (tally b).total = (tally a).total + entries
  successful : (tally b).successful + r.created + r.updated =
    (tally a).successful + r'.created + r'.updated
  failed : (tally b).failed + skipped + r.failed = (tally a).failed + r'.failed
  external : env.sourceName ≠ "enterprise-crm" →
    (tally a).external + r'.created ≤ (tally b).external + r.created

theorem syncEntry_counted (env : SyncEnv) (n : NormalizedOrder) (s : SyncSession) (r : SyncResult) :
    Counted env (if n.sourceOrderId = "" then 1 else 0) 1 s.db (syncEntry env n s).2.db r
      (r.count (syncEntry env n s).1) := by
  rcases syncEntry_cases env n s with ⟨hid, hrun⟩ | ⟨hid, action, id, t, hstore, hrun⟩ |
    ⟨hid, exc, m, -, hrun⟩
  · obtain ⟨htotal, hsuccess, hfailed⟩ := tally_audit (a := s.db)
      (b := (s.addAudit (skipRow env)).db) rfl
    have hstatus : (skipRow env).syncStatus = "invalid" := rfl
    rw [hrun, if_pos hid]
    simp only [hstatus, String.reduceEq, if_false] at hsuccess hfailed
    refine ⟨htotal, ?_, ?_, fun _ => Nat.le_refl _⟩
    · simp only [SyncResult.count]
      omega
    · simp only [SyncResult.count]
      omega
  · obtain ⟨customerId, customers, orders, ids, c, -, horder, -, -, -, rfl⟩ := storeEntry_ok hstore
    obtain ⟨htotal, hsuccess, hfailed⟩ := tally_audit (a := s.db)
      (b := (entryResult env n s action id customers orders c ids).db) rfl
    have hexternal : env.sourceName ≠ "enterprise-crm" → (tally s.db).external +
        (if action = .created then 1 else 0) ≤
          (tally (entryResult env n s action id customers orders c ids).db).external :=
      fun hsource => external_stored hsource horder
    rw [hrun, if_neg hid]
    simp only [auditRow, String.reduceEq, if_false, if_true] at hsuccess hfailed
    cases action with
    | created =>
      refine ⟨htotal, ?_, ?_, fun hsource => ?_⟩
      · simp only [SyncResult.count]
        omega
      · simp only [SyncResult.count]
        omega
      · have h := hexternal hsource
        simp only [SyncResult.count, if_true] at h ⊢
        omega
    | updated =>
      refine ⟨htotal, ?_, ?_, fun hsource => ?_⟩
      · simp only [SyncResult.count]
        omega
      · simp only [SyncResult.count]
        omega
      · have h := hexternal hsource
        simp only [SyncResult.count, reduceCtorEq, if_false] at h ⊢
        omega
  · let row := auditRow env n.sourceOrderId "upsert" "failed" (.strOf exc)
    obtain ⟨htotal, hsuccess, hfailed⟩ := tally_audit (a := s.db.rollback m.db)
      (b := ((SyncSession.rollback s m).addAudit row).db) rfl
    obtain ⟨hsame, hsame', hsame'', hkept⟩ := tally_unlogged (Unlogged.rollback s.db m.db)
    rw [hrun, if_neg hid]
    simp only [row, auditRow, String.reduceEq, if_false, if_true] at htotal hsuccess hfailed hkept ⊢
    refine ⟨?_, ?_, ?_, fun _ => ?_⟩
    · omega
    · simp only [SyncResult.count]
      omega
    · simp only [SyncResult.count]
      omega
    · simp only [SyncResult.count]
      exact Nat.add_le_add_right hkept r.created

theorem syncAll_counted (env : SyncEnv) (ns : List NormalizedOrder) (s : SyncSession)
    (r : SyncResult) :
    Counted env (ns.countP fun n => decide (n.sourceOrderId = "")) ns.length s.db
      (syncAll env ns s).2.db r ((syncAll env ns s).1.foldl SyncResult.count r) := by
  induction ns generalizing s r with
  | nil => exact ⟨rfl, rfl, rfl, fun _ => Nat.le_refl _⟩
  | cons n rest ih =>
    have hfirst := syncEntry_counted env n s r
    have hrest := ih (syncEntry env n s).2 (r.count (syncEntry env n s).1)
    simp only [syncAll, List.foldl_cons, List.countP_cons, List.length_cons, decide_eq_true_iff]
    refine ⟨?_, ?_, ?_, fun hsource => ?_⟩
    · have h := hfirst.total
      have h' := hrest.total
      omega
    · have h := hfirst.successful
      have h' := hrest.successful
      omega
    · have h := hfirst.failed
      have h' := hrest.failed
      omega
    · have h := hfirst.external hsource
      have h' := hrest.external hsource
      omega

/-- A pass that returns accounts for its feed. -/
theorem pass_counted {pass : Pass} {db db' : Db} {listing : Table.Listing db.products}
    (h : syncExternalOrders pass.env db listing pass.feed = .ok (pass.result, db')) :
    Counted pass.env pass.skipped pass.feed.length db db' SyncResult.zero pass.result := by
  obtain ⟨ns, hns, hresult, hdb, -⟩ := syncExternalOrders_ok_iff.mp h
  have hcounted := syncAll_counted pass.env ns (startSession pass.env db listing) SyncResult.zero
  have hids := normalizeFeed_sourceOrderId hns
  have hskipped : (ns.countP fun n => decide (n.sourceOrderId = "")) = pass.skipped := by
    have hcount := congrArg (List.countP fun id => decide (id = "")) hids
    rwa [List.countP_map, List.countP_map] at hcount
  have hlength : ns.length = pass.feed.length := by
    have hlengths := congrArg List.length hids
    rwa [List.length_map, List.length_map] at hlengths
  rw [hskipped, hlength, ← hresult, ← hdb] at hcounted
  exact hcounted

theorem other_unlogged {a b : Db} {call : OrderCall} (hother : ∀ env feed, call ≠ .sync env feed)
    (h : call.Leads a b) : Unlogged a b := by
  cases call with
  | createOrder env request =>
    obtain rfl := h
    exact createOrder_unlogged env request ⟨a, []⟩
  | updateOrderStatus env id body =>
    obtain rfl := h
    exact updateOrderStatus_unlogged env id body ⟨a, []⟩
  | sync env feed => exact absurd rfl (hother env feed)
  | generateOrders env body draws =>
    obtain rfl := h
    exact (simulation_unlogged env).generateOrders body draws a
  | generateBacklog env body draws =>
    obtain rfl := h
    exact (simulation_unlogged env).generateBacklog body draws a
  | highValueOrder env body draw =>
    obtain rfl := h
    exact (simulation_unlogged env).highValueOrder body draw a

def stored (pass : Pass) : Nat := pass.result.created + pass.result.updated

/-- What the passes of a run have added to the numbers. -/
structure Reconciled (start db : Db) (passes : List Pass) : Prop where
  total : (tally db).total = (tally start).total + (passes.map fun p => p.feed.length).sum
  successful : (tally db).successful = (tally start).successful + (passes.map stored).sum
  failed : (tally db).failed + (passes.map Pass.skipped).sum =
    (tally start).failed + (passes.map fun p => p.result.failed).sum
  external : (∀ p ∈ passes, p.env.sourceName ≠ "enterprise-crm") →
    (tally start).external + (passes.map fun p => p.result.created).sum ≤ (tally db).external

theorem Reconciled.unlogged {start a b : Db} {passes : List Pass} (h : Reconciled start a passes)
    (k : Unlogged a b) : Reconciled start b passes := by
  obtain ⟨htotal, hsuccess, hfailed, hexternal⟩ := tally_unlogged k
  refine ⟨htotal.trans h.total, hsuccess.trans h.successful, ?_, fun hsources => ?_⟩
  · rw [hfailed]
    exact h.failed
  · exact (h.external hsources).trans hexternal

theorem Reconciled.pass {start a b : Db} {passes : List Pass} {pass : Pass}
    (h : Reconciled start a passes)
    (k : Counted pass.env pass.skipped pass.feed.length a b SyncResult.zero pass.result) :
    Reconciled start b (passes ++ [pass]) := by
  have htotal := k.total
  have hsuccess := k.successful
  have hfailed := k.failed
  have htotal' := h.total
  have hsuccess' := h.successful
  have hfailed' := h.failed
  simp only [SyncResult.zero] at hsuccess hfailed
  refine ⟨?_, ?_, ?_, fun hsources => ?_⟩
  · simp only [List.map_append, List.map_singleton, List.sum_append, List.sum_singleton]
    omega
  · simp only [List.map_append, List.map_singleton, List.sum_append, List.sum_singleton, stored]
    omega
  · simp only [List.map_append, List.map_singleton, List.sum_append, List.sum_singleton]
    omega
  · have hexternal := k.external (hsources pass (by simp))
    have hexternal' := h.external fun p hp => hsources p (List.mem_append_left _ hp)
    simp only [List.map_append, List.map_singleton, List.sum_append, List.sum_singleton,
      SyncResult.zero] at hexternal ⊢
    omega

theorem passes_reconciled {start db : Db} {passes : List Pass} (h : Passes start passes db) :
    Reconciled start db passes := by
  induction h with
  | start => exact ⟨rfl, rfl, rfl, fun _ => Nat.le_refl _⟩
  | returned pass listing _ hrun ih => exact ih.pass (pass_counted hrun)
  | raised reached _ ih => exact ih.unlogged (Unlogged.rollback _ reached)
  | other call _ hother hleads ih => exact ih.unlogged (other_unlogged hother hleads)

/-- However passes that return, passes that raise and the other writers of orders follow
each other: the dashboard has gained an operation for every entry of a pass that returned,
a success for every order that one created or updated, and a failure for every entry that
one counted as failed, except for those without a source id; and the orders that they
created are among the external ones, unless some pass has the portal's own name as its
source name. -/
theorem health_reconciles (config : HealthConfig) {start db : Db} {passes : List Pass}
    (h : Passes start passes db) :
    let before := orderSyncHealth config start
    let after := orderSyncHealth config db
    after.totalSyncOperations =
        before.totalSyncOperations + (passes.map fun p => p.feed.length).sum ∧
      after.successful = before.successful + (passes.map stored).sum ∧
      after.failed + (passes.map Pass.skipped).sum =
        before.failed + (passes.map fun p => p.result.failed).sum ∧
      ((∀ p ∈ passes, p.env.sourceName ≠ "enterprise-crm") →
        before.externalTotal + (passes.map fun p => p.result.created).sum ≤
          after.externalTotal) := by
  have hreconciled := passes_reconciled h
  exact ⟨hreconciled.total, hreconciled.successful, hreconciled.failed, hreconciled.external⟩

/-- The order without items, and an entry that has no source id. -/
def sampleFeed : List Arrival := [bareOrder, ⟨[], 0⟩]

def samplePass : SyncResult × Db :=
  match syncExternalOrders sampleEnv Db.empty Db.empty.products.listing sampleFeed with
  | .ok reached => reached
  | .error _ => (SyncResult.zero, Db.empty)

theorem samplePass_returned :
    syncExternalOrders sampleEnv Db.empty Db.empty.products.listing sampleFeed =
      .ok samplePass := by
  have hok : (syncExternalOrders sampleEnv Db.empty Db.empty.products.listing
      sampleFeed).toOption.isSome = true := by decide +kernel
  rw [samplePass]
  cases hrun : syncExternalOrders sampleEnv Db.empty Db.empty.products.listing sampleFeed with
  | error exc =>
    rw [hrun] at hok
    cases hok
  | ok reached => rfl

theorem health_reconciles_sample :
    samplePass.1.failed = 1 ∧ auditsAs "failed" samplePass.2 = 0 ∧
      samplePass.2.orderSyncAudit.length = 2 ∧ auditsAs "success" samplePass.2 = 1 := by
  have hfailed : samplePass.1.failed = 1 := by decide +kernel
  have hstored : samplePass.1.created + samplePass.1.updated = 1 := by decide +kernel
  have hskipped : (⟨sampleEnv, sampleFeed, samplePass.1⟩ : Pass).skipped = 1 := by decide +kernel
  let config : HealthConfig :=
    ⟨true, "octo-drone-shop", 300, ⟨30, .fin 50000, fun a b => PyFloat.le b a⟩⟩
  obtain ⟨htotal, hsuccess, hfailures, -⟩ := health_reconciles config
    (.returned ⟨sampleEnv, sampleFeed, samplePass.1⟩ Db.empty.products.listing .start
      samplePass_returned)
  simp only [List.nil_append, List.map_singleton, List.sum_singleton, hfailed, hskipped, stored,
    hstored] at htotal hsuccess hfailures
  have hempty : auditsAs "failed" Db.empty = 0 := rfl
  refine ⟨hfailed, ?_, htotal, hsuccess⟩
  have h : auditsAs "failed" samplePass.2 + 1 = auditsAs "failed" Db.empty + 1 := hfailures
  omega

end SyncHealth
