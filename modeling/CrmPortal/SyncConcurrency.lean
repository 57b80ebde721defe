import CrmPortal.Library.ReadCommitted
import CrmPortal.OrderSyncSpec

/-!
# Syncs that run at the same time

Several replicas and the sync endpoint may be at work on the same orders. Nothing
in the code locks an order before it is read or compares a version when it is
written: the UPDATE carries the columns that differ from what the session has
loaded, and the item list is replaced as a whole. Every entry stamps
`last_synced_at`, so an UPDATE is sent for each. An entry whose customer, products or
columns are refused is rolled back to its savepoint, and its run goes on and commits
the others.
-/

namespace SyncConcurrency

open PyValue IdentityTable CrmDatabase OrderNormalization OrderSync OrderSyncSpec ReadCommitted

/-- An entry of a feed once its customer and its products are resolved. -/
structure FeedVersion where
  env : SyncEnv
  order : NormalizedOrder
  customerId : Nat
  notes : String
  address : String
  productIds : List Nat

namespace FeedVersion

def row (v : FeedVersion) (order : Order) : Order :=
  updatedOrder v.env v.customerId v.order v.notes v.address order

def items (v : FeedVersion) (orderId : Nat) : List OrderItem :=
  List.zipWith (itemRow orderId) v.order.items v.productIds

def write (orderId : Nat) (v : FeedVersion) : Version Order OrderItem :=
  ⟨v.row, v.items orderId⟩

end FeedVersion

/-- A run's feed as far as it is about orders that exist. -/
abbrev VersionFeed := List (Nat × FeedVersion)

def entries (feed : VersionFeed) : Feed Nat Order OrderItem :=
  feed.map fun entry => (entry.1, FeedVersion.write entry.1 entry.2)

/-- The ORM's UPDATE, column by column. -/
def overwriteOrder (loaded found new : Order) : Order where
  customerId := pick loaded.customerId found.customerId new.customerId
  total := pick loaded.total found.total new.total
  status := pick loaded.status found.status new.status
  notes := pick loaded.notes found.notes new.notes
  shippingAddress := pick loaded.shippingAddress found.shippingAddress new.shippingAddress
  sourceSystem := pick loaded.sourceSystem found.sourceSystem new.sourceSystem
  sourceOrderId := pick loaded.sourceOrderId found.sourceOrderId new.sourceOrderId
  sourceCustomerEmail :=
    pick loaded.sourceCustomerEmail found.sourceCustomerEmail new.sourceCustomerEmail
  syncStatus := pick loaded.syncStatus found.syncStatus new.syncStatus
  backlogStatus := pick loaded.backlogStatus found.backlogStatus new.backlogStatus
  syncError := pick loaded.syncError found.syncError new.syncError
  sourcePayload := pick loaded.sourcePayload found.sourcePayload new.sourcePayload
  correlationId := pick loaded.correlationId found.correlationId new.correlationId
  lastSyncedAt := pick loaded.lastSyncedAt found.lastSyncedAt new.lastSyncedAt
  createdAt := pick loaded.createdAt found.createdAt new.createdAt

/-- With nobody in between, the row is what the session has. -/
theorem overwriteOrder_current (loaded new : Order) : overwriteOrder loaded loaded new = new := by
  simp only [overwriteOrder, pick_current]

/-- A run by itself writes to an order that exists what the entry's version says. -/
theorem storeEntry_write {env : SyncEnv} {n : NormalizedOrder} {s t : SyncSession}
    {orderId : Nat} (h : storeEntry env n s = (.ok (.updated, orderId), t)) :
    ∃ v : FeedVersion, v.env = env ∧ v.order = n ∧ ∃ old, s.db.orders.row orderId = some old ∧
      t.db.orders.row orderId =
        some (overwriteOrder old old ((FeedVersion.write orderId v).assign old)) ∧
      t.db.itemsOf orderId = (FeedVersion.write orderId v).children := by
  obtain ⟨customerId, customers, orders, ids, c, _, horder, _, _, _, rfl⟩ := storeEntry_ok h
  obtain ⟨notes, address, _, ⟨_, haction, _⟩ | ⟨hfound, _, rfl⟩⟩ := upsertOrder_ok_iff.mp horder
  · cases haction
  · obtain ⟨old, hold, _⟩ := (s.db.orders.find_eq_some_iff _ _).mp hfound
    refine ⟨⟨env, n, customerId, notes, address, ids⟩, rfl, rfl, old, hold, ?_, ?_⟩
    · rw [overwriteOrder_current]
      have hrow := Table.modify_row s.db.orders orderId
        (updatedOrder env customerId n notes address)
        (updatedOrder_sourceKey env customerId n notes address) orderId
      rw [if_pos rfl, hold] at hrow
      exact hrow
    · exact (itemsOf_replaced s orderId orderId n.items ids).trans (if_pos rfl)

/-- Status, total, customer and items are those of one version. -/
structure FromVersion (v : FeedVersion) (orderId : Nat) (order : Order)
    (items : List OrderItem) : Prop where
  status : order.status = some v.order.status
  total : order.total = v.order.total
  customer : order.customerId = some v.customerId
  items : items = v.items orderId

/-- What the UPDATE and the replaced items of a run leave, when the run has
`loaded` one row and its UPDATE has `found` another. -/
structure WrittenOver (v : FeedVersion) (loaded found : Order) (orderId : Nat) (order : Order)
    (items : List OrderItem) : Prop where
  status : order.status = pick loaded.status found.status (some v.order.status)
  total : order.total = pick loaded.total found.total v.order.total
  customer : order.customerId = pick loaded.customerId found.customerId (some v.customerId)
  items : items = v.items orderId

theorem WrittenOver.fromVersion {v : FeedVersion} {loaded : Order} {orderId : Nat} {order : Order}
    {items : List OrderItem} (h : WrittenOver v loaded loaded orderId order items) :
    FromVersion v orderId order items where
  status := by rw [h.status, pick_current]
  total := by rw [h.total, pick_current]
  customer := by rw [h.customer, pick_current]
  items := h.items

variable {Run : Type} [DecidableEq Run]

abbrev SyncState (Run : Type) := State Run Nat Order OrderItem

/-- Every run starts from the committed orders and items and has its own feed. -/
def startSyncs (rows : Nat → Order) (items : List (Nat × OrderItem)) (feed : Run → VersionFeed) :
    SyncState Run :=
  start rows items fun r => entries (feed r)

/-- `r` has committed the versions `stored`, and no run that committed after it has
stored one of the order. -/
def LastSync (commits : List (Run × Feed Nat Order OrderItem)) (orderId : Nat) (r : Run)
    (stored : VersionFeed) : Prop :=
  ∃ before after, commits = before ++ (r, entries stored) :: after ∧
    ∀ later ∈ after, ∀ v, (orderId, v) ∉ later.2

/-- The versions that `r` has committed: those of its feed that it did not roll back. -/
structure StoredBy (feed : VersionFeed) (schedule : List (Action Run Nat)) (r : Run)
    (stored : VersionFeed) : Prop where
  sublist : stored.Sublist feed
  whole : Action.fail r ∉ schedule → stored = feed

theorem lastFor_entries (orderId : Nat) (feed : VersionFeed) :
    lastFor orderId (entries feed) = (lastFor orderId feed).map (FeedVersion.write orderId) :=
  lastFor_map FeedVersion.write orderId feed

theorem exec_storedBy {rows : Nat → Order} {items : List (Nat × OrderItem)}
    {feed : Run → VersionFeed} {schedule : List (Action Run Nat)} {s : SyncState Run}
    (h : Schedule.exec (step overwriteOrder) (startSyncs rows items feed) schedule = some s)
    {r : Run} {log : Feed Nat Order OrderItem} (hr : (r, log) ∈ s.commits) :
    ∃ stored, log = entries stored ∧ StoredBy (feed r) schedule r stored := by
  obtain ⟨hsublist, hwhole⟩ := exec_stored h hr
  by_cases hkept : Action.fail r ∈ schedule
  · obtain ⟨stored, hstored, hlog⟩ := List.sublist_map_iff.mp hsublist
    exact ⟨stored, hlog, hstored, fun hnone => absurd hkept hnone⟩
  · exact ⟨feed r, hwhole hkept, List.Sublist.refl _, fun _ => rfl⟩

/-- Items, and every column that its version changes, come from the run that
committed last; a column that the run had loaded with the version's own value
stays as the UPDATE found it. -/
theorem last_sync_decides (rows : Nat → Order) (items : List (Nat × OrderItem))
    (feed : Run → VersionFeed) {schedule : List (Action Run Nat)} {s : SyncState Run}
    (h : Schedule.exec (step overwriteOrder) (startSyncs rows items feed) schedule = some s) :
    (∀ r log, (r, log) ∈ s.commits →
      ∃ stored, log = entries stored ∧ StoredBy (feed r) schedule r stored) ∧
    ∀ r log orderId version, (r, log) ∈ s.commits → (orderId, version) ∈ log →
      ∃ last stored w loaded found, LastSync s.commits orderId last stored ∧
        StoredBy (feed last) schedule last stored ∧ lastFor orderId stored = some w ∧
        (s.committed orderId).origin = some ⟨last, FeedVersion.write orderId w, loaded, found⟩ ∧
        WrittenOver w loaded found orderId (s.committed orderId).row
          (childrenOf orderId s.children) ∧
        (loaded = found → FromVersion w orderId (s.committed orderId).row
          (childrenOf orderId s.children)) := by
  refine ⟨fun r log hr => exec_storedBy h hr, ?_⟩
  intro r log orderId version hr hv
  have hentry : lastFor orderId log ≠ none := by
    rw [ne_eq, lastFor_eq_none_iff]
    intro hnone
    exact hnone version hv
  obtain ⟨⟨last, write, loaded, found⟩, horigin, hwritten⟩ := exec_written h hr hentry
  obtain ⟨before, lastLog, after, hcommits, hlast, hafter⟩ := hwritten.writer
  have hmem : (last, lastLog) ∈ s.commits := by
    rw [hcommits]
    exact List.mem_append_right _ List.mem_cons_self
  obtain ⟨stored, rfl, hstored⟩ := exec_storedBy h hmem
  rw [lastFor_entries, Option.map_eq_some_iff] at hlast
  obtain ⟨w, hw, rfl⟩ := hlast
  have hover : WrittenOver w loaded found orderId (s.committed orderId).row
      (childrenOf orderId s.children) := by
    refine ⟨?_, ?_, ?_, hwritten.children⟩
    · rw [hwritten.row]
      rfl
    · rw [hwritten.row]
      rfl
    · rw [hwritten.row]
      rfl
  refine ⟨last, stored, w, loaded, found, ?_, hstored, hw, horigin, hover, ?_⟩
  · refine ⟨before, after, hcommits, ?_⟩
    intro later hlater
    exact (lastFor_eq_none_iff orderId later.2).mp (hafter later hlater)
  · rintro rfl
    exact hover.fromVersion

/-- A version of a sample order with one item, read at `now`. -/
def sampleVersion (status : String) (total quantity : Int) (now : DateTime) : FeedVersion where
  env := sampleEnv
  order := {
    sourceOrderId := "A-1"
    customerEmail := "ada@example.com"
    customerName := .str "Ada"
    status := status
    shippingAddress := .str ""
    createdAt := 0
    lastSyncedAt := now
    total := .fin total
    notes := .str ""
    backlogStatus := backlogStatus status
    items := [⟨.str "camera", .str "Camera", quantity, .fin 10⟩]
    payload := []
    totalMismatch := false }
  customerId := 1
  notes := ""
  address := ""
  productIds := [1]

/-- The order as an earlier sync has left it. -/
def sampleRow : Order :=
  { newOrder sampleEnv 1 (sampleVersion "pending" 10 1 0).order "" "" with createdAt := some 0 }

/-- One replica has fetched the order when it was shipped, the other after a
second camera had been added to it. -/
def sampleFeed : Bool → VersionFeed
  | false => [(1, sampleVersion "shipped" 10 1 1)]
  | true => [(1, sampleVersion "pending" 20 2 2)]

/-- Both replicas read the order before the first of them commits. -/
def sampleSchedule : List (ReadCommitted.Action Bool Nat) :=
  [false, true, false, false, false, false, true, true, true, true].map Action.next

def startSample (feed : Bool → VersionFeed) : SyncState Bool :=
  startSyncs (fun _ => sampleRow) [(1, ⟨1, some 1, 1, .fin 10⟩)] feed

/-- The order is shipped with the total and the items of the version in which it
was pending. -/
theorem interleaved_syncs_mix_versions :
    ∃ s, Schedule.exec (step overwriteOrder) (startSample sampleFeed) sampleSchedule = some s ∧
      (∀ r, (s.session r).ended = true) ∧ s.commits.map Prod.fst = [false, true] ∧
      ∀ r v, (1, v) ∈ sampleFeed r →
        ¬ FromVersion v 1 (s.committed 1).row (childrenOf 1 s.children) := by
  have hrun : (Schedule.exec (step overwriteOrder) (startSample sampleFeed) sampleSchedule).any
      (fun s => decide (s.commits.map Prod.fst = [false, true] ∧ (s.session false).ended = true ∧
        (s.session true).ended = true ∧ (s.committed 1).row.status = some "shipped" ∧
        (s.committed 1).row.total = .fin 20)) = true := by decide +kernel
  obtain ⟨s, hs, hfacts⟩ := (Option.any_eq_true _ _).mp hrun
  obtain ⟨hcommits, hfirst, hsecond, hstatus, htotal⟩ := of_decide_eq_true hfacts
  refine ⟨s, hs, ?_, hcommits, ?_⟩
  · intro r
    cases r with
    | false => exact hfirst
    | true => exact hsecond
  · intro r v hv hversion
    cases r with
    | false =>
      obtain ⟨_, rfl⟩ := Prod.ext_iff.mp (List.mem_singleton.mp hv)
      exact absurd (hversion.total.symm.trans htotal) (by decide +kernel)
    | true =>
      obtain ⟨_, rfl⟩ := Prod.ext_iff.mp (List.mem_singleton.mp hv)
      exact absurd (hversion.status.symm.trans hstatus) (by decide +kernel)

/-- The second replica has the order twice, and the later version is refused after its
items were deleted. -/
def refusedFeed : Bool → VersionFeed
  | false => [(1, sampleVersion "shipped" 10 1 1)]
  | true => [(1, sampleVersion "pending" 20 2 2), (1, sampleVersion "cancelled" 30 3 3)]

def refusedSchedule : List (ReadCommitted.Action Bool Nat) :=
  [false, false, false, false, false, true, true, true, true, true, true, true].map Action.next ++
    [.fail true, .next true]

/-- What is left is the version before the refused one, as a whole. -/
theorem last_sync_decides_sample :
    ∃ s, Schedule.exec (step overwriteOrder) (startSample refusedFeed) refusedSchedule = some s ∧
      ∃ last stored w loaded found, LastSync s.commits 1 last stored ∧
        StoredBy (refusedFeed last) refusedSchedule last stored ∧ lastFor 1 stored = some w ∧
        (s.committed 1).origin = some ⟨last, FeedVersion.write 1 w, loaded, found⟩ ∧
        WrittenOver w loaded found 1 (s.committed 1).row (childrenOf 1 s.children) ∧
        (s.committed 1).row.status = some "pending" ∧ (s.committed 1).row.total = .fin 20 ∧
        childrenOf 1 s.children = [⟨1, some 1, 2, .fin 10⟩] := by
  have hrun : (Schedule.exec (step overwriteOrder) (startSample refusedFeed)
      refusedSchedule).any (fun s => decide (s.commits.map (fun entry => (entry.1,
        entry.2.map Prod.fst)) = [(false, [1]), (true, [1])] ∧
        (s.committed 1).row.status = some "pending" ∧ (s.committed 1).row.total = .fin 20 ∧
        childrenOf 1 s.children = [⟨1, some 1, 2, .fin 10⟩])) = true := by decide +kernel
  obtain ⟨s, hs, hfacts⟩ := (Option.any_eq_true _ _).mp hrun
  obtain ⟨hcommits, hstatus, htotal, hitems⟩ := of_decide_eq_true hfacts
  refine ⟨s, hs, ?_⟩
  obtain ⟨r, log, version, hr, hv⟩ : ∃ r log version, (r, log) ∈ s.commits ∧
      (1, version) ∈ log := by
    have hmem : (true, [1]) ∈ s.commits.map fun entry => (entry.1, entry.2.map Prod.fst) := by
      rw [hcommits]
      decide
    obtain ⟨⟨r, log⟩, hr, hsame⟩ := List.mem_map.mp hmem
    have hlog : log.map Prod.fst = [1] := (Prod.ext_iff.mp hsame).2
    have hone : 1 ∈ log.map Prod.fst := by
      rw [hlog]
      decide
    obtain ⟨⟨_, version⟩, hv, rfl⟩ := List.mem_map.mp hone
    exact ⟨r, log, version, hr, hv⟩
  obtain ⟨last, stored, w, loaded, found, hlast, hstored, hw, horigin, hover, _⟩ :=
    (last_sync_decides _ _ refusedFeed hs).2 r log 1 version hr hv
  exact ⟨last, stored, w, loaded, found, hlast, hstored, hw, horigin, hover, hstatus, htotal,
    hitems⟩

end SyncConcurrency
