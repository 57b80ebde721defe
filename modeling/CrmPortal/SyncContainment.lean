import CrmPortal.OrderSyncSpec

/-!
# Accounting for every entry of a feed

Each entry that the loop reaches is counted once and leaves one audit row. What
the savepoint does not cover is the normaliser, which runs before the `try`, and
the audit rows written outside it: an exception there loses the whole run. The
conditions under which neither can happen are exact.
-/

namespace SyncContainment

open PyValue IdentityTable Transaction CrmDatabase OrderNormalization OrderSync OrderSyncSpec

/-- One more audit row, for the source id `id`. -/
def OneAudit (id : String) (s t : SyncSession) : Prop :=
  ∃ row, t.db.orderSyncAudit = s.db.orderSyncAudit ++ [row] ∧ row.sourceOrderId = id

theorem syncEntry_oneAudit (env : SyncEnv) (n : NormalizedOrder) (s : SyncSession) :
    OneAudit n.sourceOrderId s (syncEntry env n s).2 := by
  rcases syncEntry_cases env n s with ⟨hid, h⟩ | ⟨_, action, id, t, hstore, h⟩ |
    ⟨_, exc, m, _, h⟩
  · rw [h]
    exact ⟨skipRow env, rfl, hid.symm⟩
  · obtain ⟨customerId, customers, orders, ids, c, _, _, _, _, _, ht⟩ := storeEntry_ok hstore
    rw [h, ht]
    exact ⟨_, rfl, rfl⟩
  · rw [h]
    exact ⟨_, rfl, rfl⟩

theorem syncAll_audits (env : SyncEnv) (ns : List NormalizedOrder) (s : SyncSession) :
    ∃ rows, (syncAll env ns s).2.db.orderSyncAudit = s.db.orderSyncAudit ++ rows ∧
      rows.map OrderSyncAudit.sourceOrderId = ns.map NormalizedOrder.sourceOrderId := by
  induction ns generalizing s with
  | nil => exact ⟨[], (List.append_nil _).symm, rfl⟩
  | cons n rest ih =>
    obtain ⟨row, hrow, hid⟩ := syncEntry_oneAudit env n s
    obtain ⟨rows, hrows, hids⟩ := ih (syncEntry env n s).2
    refine ⟨row :: rows, ?_, ?_⟩
    · rw [syncAll, hrows, hrow, List.append_assoc, List.singleton_append]
    · rw [List.map_cons, List.map_cons, hid, hids]

/-- The run commits, counts every entry once and leaves one audit row for each. -/
def Contained (env : SyncEnv) (db : Db) (listing : Table.Listing db.products)
    (feed : List Arrival) : Prop :=
  ∃ r db', syncExternalOrders env db listing feed = .ok (r, db') ∧
    r.created + r.updated + r.failed = feed.length ∧
    ∃ rows, db'.orderSyncAudit = db.orderSyncAudit ++ rows ∧
      rows.map OrderSyncAudit.sourceOrderId = feed.map fun a => sourceOrderId env.py a.raw

/-- The entry raises neither in the normaliser nor through its audit row. -/
structure Containable (env : SyncEnv) (raw : Obj) : Prop where
  normalizes : Normalizable env.py raw
  audited : env.backend.takesStr (.varchar 120) (sourceOrderId env.py raw) = true

theorem normalizeFeed_ok_iff (py : Builtins) (feed : List Arrival) :
    (∃ ns, normalizeFeed py feed = .ok ns) ↔ ∀ a ∈ feed, Normalizable py a.raw := by
  induction feed with
  | nil => exact ⟨fun _ a ha => absurd ha List.not_mem_nil, fun _ => ⟨[], rfl⟩⟩
  | cons a rest ih =>
    rw [List.forall_mem_cons, ← ih, ← normalizeExternalOrder_ok_iff py a.now a.raw]
    simp only [normalizeFeed_cons_ok_iff]
    constructor
    · rintro ⟨_, n, tail, hn, htail, rfl⟩
      exact ⟨⟨n, hn⟩, tail, htail⟩
    · rintro ⟨⟨n, hn⟩, tail, htail⟩
      exact ⟨n :: tail, n, tail, hn, htail, rfl⟩

theorem normalizeFeed_length {py : Builtins} {feed : List Arrival} {ns : List NormalizedOrder}
    (h : normalizeFeed py feed = .ok ns) : ns.length = feed.length := by
  have hids := congrArg List.length (normalizeFeed_sourceOrderId h)
  simpa using hids

/-- Whether every audit row is taken depends on the source ids alone. -/
theorem audits_taken_iff {env : SyncEnv} {rows : List OrderSyncAudit} {feed : List Arrival}
    (h : rows.map OrderSyncAudit.sourceOrderId = feed.map fun a => sourceOrderId env.py a.raw) :
    rows.all (auditTaken env) = true ↔
      ∀ a ∈ feed, env.backend.takesStr (.varchar 120) (sourceOrderId env.py a.raw) = true := by
  have hrows : rows.all (auditTaken env) =
      (rows.map OrderSyncAudit.sourceOrderId).all (env.backend.takesStr (.varchar 120)) := by
    rw [List.all_map]
    rfl
  rw [hrows, h, List.all_map, List.all_eq_true]
  rfl

/-- A feed that normalises is run to its end, and the commit depends on the source
ids alone. -/
theorem syncExternalOrders_of_normalized {env : SyncEnv} {db : Db}
    {listing : Table.Listing db.products} {feed : List Arrival} {ns : List NormalizedOrder}
    (hns : normalizeFeed env.py feed = .ok ns) :
    syncExternalOrders env db listing feed =
      if ns.all (fun n => env.backend.takesStr (.varchar 120) n.sourceOrderId) then
        .ok ((syncAll env ns (startSession env db listing)).1.foldl SyncResult.count
          SyncResult.zero, (syncAll env ns (startSession env db listing)).2.db)
      else .error .dataError := by
  have hloop : syncLoop env feed SyncResult.zero (startSession env db listing) = .ok _ :=
    syncLoop_ok_iff.mpr ⟨ns, hns, rfl, rfl⟩
  obtain ⟨rows, hrows, hids⟩ := syncAll_audits env ns (startSession env db listing)
  have haudit : rows.all (auditTaken env) =
      ns.all (fun n => env.backend.takesStr (.varchar 120) n.sourceOrderId) := by
    have hmap : ∀ ids : List String, rows.map OrderSyncAudit.sourceOrderId = ids →
        rows.all (auditTaken env) = ids.all (env.backend.takesStr (.varchar 120)) := by
      rintro _ rfl
      rw [List.all_map]
      rfl
    rw [hmap _ hids, List.all_map]
    rfl
  unfold syncExternalOrders
  rw [startSession] at hloop
  rw [hloop, ← haudit]
  dsimp only
  rw [← startSession, hrows]
  change (if ((db.orderSyncAudit ++ rows).drop db.orderSyncAudit.length).all _ = true then _
    else _) = _
  rw [List.drop_left]

/-- A run accounts for its whole feed exactly when every entry of it normalises
without an exception and has a source id that the audit table takes. -/
theorem contained_iff (env : SyncEnv) (db : Db) (listing : Table.Listing db.products)
    (feed : List Arrival) :
    Contained env db listing feed ↔ ∀ a ∈ feed, Containable env a.raw := by
  constructor
  · rintro ⟨r, db', hrun, _, rows, hrows, hids⟩ a ha
    obtain ⟨ns, hns, _, _, haudit⟩ := syncExternalOrders_ok_iff.mp hrun
    rw [hrows, List.drop_left] at haudit
    exact ⟨(normalizeFeed_ok_iff env.py feed).mp ⟨ns, hns⟩ a ha,
      (audits_taken_iff hids).mp haudit a ha⟩
  · intro h
    obtain ⟨ns, hns⟩ := (normalizeFeed_ok_iff env.py feed).mpr fun a ha => (h a ha).normalizes
    obtain ⟨rows, hrows, hids⟩ := syncAll_audits env ns (startSession env db listing)
    rw [normalizeFeed_sourceOrderId hns] at hids
    have haudit : rows.all (auditTaken env) = true :=
      (audits_taken_iff hids).mpr fun a ha => (h a ha).audited
    refine ⟨_, _, syncExternalOrders_ok_iff.mpr ⟨ns, hns, rfl, rfl, ?_⟩, ?_, rows, hrows, hids⟩
    · rw [hrows]
      change ((db.orderSyncAudit ++ rows).drop db.orderSyncAudit.length).all _ = true
      rw [List.drop_left]
      exact haudit
    · have hcount := foldl_count_total (syncAll env ns (startSession env db listing)).1
        SyncResult.zero
      rw [hcount, syncAll_length, normalizeFeed_length hns]
      simp [SyncResult.zero]

/-- The second entry has a quantity that is no number. The first one is good, and
is lost with it. -/
def malformedFeed : List Arrival :=
  [⟨sampleOrder "A-1" "ann@example.com" "camera" 1 300, 10⟩,
    ⟨[("id", .str "A-2"), ("items", .arr [.obj [("sku", .str "camera"),
      ("quantity", .str "two")]])], 10⟩]

theorem malformed_entry_loses_run :
    (∃ r db', syncExternalOrders sampleEnv Db.empty (Table.listing _) (malformedFeed.take 1) =
      .ok (r, db') ∧ r.created = 1) ∧
    ¬ Contained sampleEnv Db.empty (Table.listing _) malformedFeed := by
  constructor
  · obtain ⟨⟨r, db'⟩, hrun, hcreated⟩ := exists_ok_of_any
      (p := fun x => decide (x.1.created = 1)) (x := syncExternalOrders sampleEnv Db.empty
        (Table.listing _) (malformedFeed.take 1)) (by decide +kernel)
    exact ⟨r, db', hrun, of_decide_eq_true hcreated⟩
  · rintro ⟨r, db', hrun, _⟩
    have hfails : (syncExternalOrders sampleEnv Db.empty (Table.listing _)
      malformedFeed).toOption.isNone = true := by decide +kernel
    rw [hrun] at hfails
    cases hfails

end SyncContainment
