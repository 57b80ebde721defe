import CrmPortal.CatalogAtomicity
import Mathlib.Data.Set.Function

/-!
# The shop as a mirror of the catalogue

The remote shop is a map from SKUs to records, and it applies the pushes in the
order of the trace. While every product keeps its place under one SKU of the
shop, each request carries the mirror on to the next state. An update that moves
an active product to another SKU leaves its old record active.
-/

namespace ShopMirror

open PyValue IdentityTable Transaction UnitOfWork CrmDatabase RequestContext ShopCatalogSync
  Products CatalogAtomicity

abbrev RemoteShop := String → Option ShopRecord

def putRecord (shop : RemoteShop) (record : ShopRecord) : RemoteShop :=
  fun sku => if sku = record.sku then some record else shop sku

def markInactive (shop : RemoteShop) (record : ShopRecord) : RemoteShop :=
  fun sku => if sku = record.sku then (shop sku).map fun r => { r with isActive := 0 }
    else shop sku

def applyPush (shop : RemoteShop) (push : Push) : RemoteShop :=
  match push.action with
  | .upsert => push.products.foldl putRecord shop
  | .deactivate => push.products.foldl markInactive shop

def arrive (shop : RemoteShop) : Event Push → RemoteShop
  | .committed => shop
  | .sent push => applyPush shop push

/-- The shop after everything that was sent, starting empty. -/
def remoteShop (trace : List (Event Push)) : RemoteShop := trace.foldl arrive fun _ => none

theorem remoteShop_committed (trace : List (Event Push)) :
    remoteShop (trace ++ [.committed]) = remoteShop trace := by
  rw [remoteShop, List.foldl_append]
  rfl

theorem remoteShop_sent (trace : List (Event Push)) (push : Push) :
    remoteShop (trace ++ [.sent push]) = applyPush (remoteShop trace) push := by
  rw [remoteShop, List.foldl_append]
  rfl

/-- Writing a record that is there already changes nothing. -/
theorem foldl_putRecord_present {shop : RemoteShop} {records : List ShopRecord}
    (h : ∀ record ∈ records, shop record.sku = some record) :
    records.foldl putRecord shop = shop := by
  induction records with
  | nil => rfl
  | cons record rest ih =>
    have hsame : putRecord shop record = shop := by
      funext sku
      unfold putRecord
      by_cases hsku : sku = record.sku
      · rw [if_pos hsku, hsku, h record List.mem_cons_self]
      · rw [if_neg hsku]
    rw [List.foldl_cons, hsame]
    exact ih fun r hr => h r (List.mem_cons_of_mem _ hr)

/-- The SKU under which the shop keeps a product. -/
def shopSku (py : Builtins) (p : Product) : String := py.upper (py.strip p.sku)

/-- The payload of a product; neither its id nor its shop's name enters it. -/
def payloadOf (py : Builtins) (p : Product) : ShopRecord :=
  buildShopSyncPayload py (serializeProduct 0 none p)

theorem payloadOf_eq (py : Builtins) (id : Nat) (shopName : Option String) (p : Product) :
    buildShopSyncPayload py (serializeProduct id shopName p) = payloadOf py p := rfl

theorem payloadOf_deactivated (py : Builtins) (p : Product) :
    payloadOf py (deactivated p) = { payloadOf py p with isActive := 0 } := rfl

def activeProducts (db : Db) : Set Nat :=
  {id | ∃ p, db.products.row id = some p ∧ p.isActive = some 1}

def activeSkus (shop : RemoteShop) : Set String :=
  {sku | ∃ record, shop sku = some record ∧ record.isActive = 1}

/-- The shop SKU of a stored product. -/
def skuOf (py : Builtins) (db : Db) (id : Nat) : String :=
  match db.products.row id with
  | some p => shopSku py p
  | none => ""

/-- Every product's record is its payload, and the active SKUs are those of the
active products, one for each. -/
structure Mirrored (py : Builtins) (w : World Push) : Prop where
  records : ∀ id p, w.db.products.row id = some p →
    remoteShop w.trace (shopSku py p) = some (payloadOf py p)
  oneToOne : Set.BijOn (skuOf py w.db) (activeProducts w.db) (activeSkus (remoteShop w.trace))

/-- The invariant: no two products share a shop SKU, active or not. -/
structure Mirror (py : Builtins) (products : ProductTable) (shop : RemoteShop) : Prop where
  records : ∀ id p, products.row id = some p → shop (shopSku py p) = some (payloadOf py p)
  active : ∀ sku record, shop sku = some record → record.isActive = 1 →
    ∃ id p, products.row id = some p ∧ p.isActive = some 1 ∧ shopSku py p = sku
  distinct : ∀ i j p q, products.row i = some p → products.row j = some q →
    shopSku py p = shopSku py q → i = j
  flags : ∀ id p, products.row id = some p → p.isActive = some 0 ∨ p.isActive = some 1

theorem Mirror.mirrored {py : Builtins} {w : World Push}
    (h : Mirror py w.db.products (remoteShop w.trace)) : Mirrored py w := by
  have hsku : ∀ id p, w.db.products.row id = some p → skuOf py w.db id = shopSku py p := by
    intro id p hrow
    rw [skuOf, hrow]
  refine ⟨h.records, ?_, ?_, ?_⟩
  · rintro id ⟨p, hrow, hactive⟩
    refine ⟨payloadOf py p, ?_, ?_⟩
    · rw [hsku id p hrow]
      exact h.records id p hrow
    · simp [payloadOf, buildShopSyncPayload, serializeProduct, hactive]
  · rintro i ⟨p, hp, _⟩ j ⟨q, hq, _⟩ hij
    rw [hsku i p hp, hsku j q hq] at hij
    exact h.distinct i j p q hp hq hij
  · rintro sku ⟨record, hrecord, hactive⟩
    obtain ⟨id, p, hrow, hflag, hkey⟩ := h.active sku record hrecord hactive
    exact ⟨id, ⟨p, hrow, hflag⟩, (hsku id p hrow).trans hkey⟩

theorem Mirror.congr {py : Builtins} {products other : ProductTable} {shop : RemoteShop}
    (h : Mirror py products shop) (rows : ∀ i, other.row i = products.row i) :
    Mirror py other shop where
  records := fun id p hp => h.records id p ((rows id).symm.trans hp)
  active := by
    intro sku record hrecord hactive
    obtain ⟨id, p, hp, hflag, hkey⟩ := h.active sku record hrecord hactive
    exact ⟨id, p, (rows id).trans hp, hflag, hkey⟩
  distinct := fun i j p q hp hq =>
    h.distinct i j p q ((rows i).symm.trans hp) ((rows j).symm.trans hq)
  flags := fun id p hp => h.flags id p ((rows id).symm.trans hp)

section Steps
variable {py : Builtins} {products products' : ProductTable} {shop : RemoteShop}

theorem row_other {products products' : ProductTable} {id : Nat} {left : Option Product}
    (rows : ∀ j, products'.row j = if j = id then left else products.row j) {i : Nat} {p : Product}
    (hp : products'.row i = some p) (hne : i ≠ id) : products.row i = some p := by
  rw [rows i, if_neg hne] at hp
  exact hp

/-- A product is written and upserted: new, or in the place of an old version
that either had the same shop SKU or was inactive. -/
theorem Mirror.upsert (h : Mirror py products shop) {id : Nat} {row : Product}
    (rows : ∀ j, products'.row j = if j = id then some row else products.row j)
    (hflag : row.isActive = some 0 ∨ row.isActive = some 1)
    (others : ∀ i p, i ≠ id → products.row i = some p → shopSku py p ≠ shopSku py row)
    (old : ∀ p, products.row id = some p → p.isActive = some 1 → shopSku py row = shopSku py p) :
    Mirror py products' (putRecord shop (payloadOf py row)) := by
  have hself : products'.row id = some row := by rw [rows id, if_pos rfl]
  have hother : ∀ i p, products'.row i = some p → i ≠ id → products.row i = some p :=
    fun _ _ => row_other rows
  have hput : ∀ sku, sku ≠ shopSku py row → putRecord shop (payloadOf py row) sku = shop sku :=
    fun sku hsku => if_neg hsku
  have hhere : putRecord shop (payloadOf py row) (shopSku py row) = some (payloadOf py row) :=
    if_pos rfl
  refine ⟨?_, ?_, ?_, ?_⟩
  · intro i p hp
    by_cases hi : i = id
    · subst hi
      obtain rfl : row = p := Option.some.inj (hself.symm.trans hp)
      exact hhere
    · have hold := hother i p hp hi
      rw [hput _ (others i p hi hold)]
      exact h.records i p hold
  · intro sku record hrecord hactive
    by_cases hsku : sku = shopSku py row
    · subst hsku
      obtain rfl := Option.some.inj (hhere.symm.trans hrecord)
      refine ⟨id, row, hself, ?_, rfl⟩
      rcases hflag with hzero | hone
      · simp [payloadOf, buildShopSyncPayload, serializeProduct, hzero] at hactive
      · exact hone
    · rw [hput sku hsku] at hrecord
      obtain ⟨i, p, hp, hone, hkey⟩ := h.active sku record hrecord hactive
      have hne : i ≠ id := by
        rintro rfl
        exact hsku (hkey.symm.trans (old p hp hone).symm)
      exact ⟨i, p, by rw [rows i, if_neg hne]; exact hp, hone, hkey⟩
  · intro i j p q hp hq hkey
    by_cases hi : i = id <;> by_cases hj : j = id
    · exact hi.trans hj.symm
    · subst hi
      obtain rfl : row = p := Option.some.inj (hself.symm.trans hp)
      exact absurd hkey.symm (others j q hj (hother j q hq hj))
    · subst hj
      obtain rfl : row = q := Option.some.inj (hself.symm.trans hq)
      exact absurd hkey (others i p hi (hother i p hp hi))
    · exact h.distinct i j p q (hother i p hp hi) (hother j q hq hj) hkey
  · intro i p hp
    by_cases hi : i = id
    · subst hi
      obtain rfl : row = p := Option.some.inj (hself.symm.trans hp)
      exact hflag
    · exact h.flags i p (hother i p hp hi)

/-- A product is taken away or made inactive, and its SKU is deactivated. -/
theorem Mirror.deactivate (h : Mirror py products shop) {id : Nat} {old : Product}
    {left : Option Product} (hold : products.row id = some old)
    (hleft : left = none ∨ left = some (deactivated old))
    (rows : ∀ j, products'.row j = if j = id then left else products.row j)
    {record : ShopRecord} (hsku : record.sku = shopSku py old) :
    Mirror py products' (markInactive shop record) := by
  have hother : ∀ i p, products'.row i = some p → i ≠ id → products.row i = some p :=
    fun _ _ => row_other rows
  have hhere : ∀ p, products'.row id = some p → p = deactivated old := by
    intro p hp
    rw [rows id, if_pos rfl] at hp
    rcases hleft with rfl | rfl
    · cases hp
    · exact (Option.some.inj hp).symm
  have hmark : ∀ sku, sku ≠ shopSku py old → markInactive shop record sku = shop sku := by
    intro sku hne
    rw [markInactive, if_neg (hsku ▸ hne)]
  have hmarked : markInactive shop record (shopSku py old) =
      some { payloadOf py old with isActive := 0 } := by
    rw [markInactive, if_pos hsku.symm, h.records id old hold]
    rfl
  refine ⟨?_, ?_, ?_, ?_⟩
  · intro i p hp
    by_cases hi : i = id
    · subst hi
      obtain rfl := hhere p hp
      exact hmarked
    · have hrow := hother i p hp hi
      rw [hmark _ fun hkey => hi (h.distinct i id p old hrow hold hkey)]
      exact h.records i p hrow
  · intro sku r hr hactive
    by_cases hkey : sku = shopSku py old
    · subst hkey
      rw [hmarked] at hr
      obtain rfl := Option.some.inj hr
      simp at hactive
    · rw [hmark sku hkey] at hr
      obtain ⟨i, p, hp, hone, hpsku⟩ := h.active sku r hr hactive
      have hne : i ≠ id := by
        rintro rfl
        obtain rfl : old = p := Option.some.inj (hold.symm.trans hp)
        exact hkey hpsku.symm
      exact ⟨i, p, by rw [rows i, if_neg hne]; exact hp, hone, hpsku⟩
  · intro i j p q hp hq hkey
    -- the row that stays under `id` has the SKU of the old one
    have back : ∀ k r, products'.row k = some r →
        ∃ r', products.row k = some r' ∧ shopSku py r' = shopSku py r := by
      intro k r hr
      by_cases hk : k = id
      · subst hk
        obtain rfl := hhere r hr
        exact ⟨old, hold, rfl⟩
      · exact ⟨r, hother k r hr hk, rfl⟩
    obtain ⟨p', hp', hpkey⟩ := back i p hp
    obtain ⟨q', hq', hqkey⟩ := back j q hq
    exact h.distinct i j p' q' hp' hq' (hpkey.trans (hkey.trans hqkey.symm))
  · intro i p hp
    by_cases hi : i = id
    · subst hi
      obtain rfl := hhere p hp
      exact Or.inl rfl
    · exact h.flags i p (hother i p hp hi)

end Steps

inductive MirrorCall where
  | create (payload : ProductMutation)
  | update (id : Nat) (payload : ProductMutation)
  | delete (id : Nat)
  | syncCatalog

/-- The state that a request leaves, whatever it answers. -/
def MirrorCall.after (env : HandlerEnv) (request : Request) (call : MirrorCall)
    (w : World Push) : World Push :=
  match call with
  | .create payload => (createProduct env request payload w).2
  | .update id payload => (updateProduct env request id payload w).2
  | .delete id => (deleteProduct env request id w).2
  | .syncCatalog => (syncCatalogToShop env request w).2

/-- The request gives no product a SKU that another one has in different letters,
and moves no active product to another SKU of the shop. -/
def KeepsSkus (py : Builtins) (w : World Push) : MirrorCall → Prop
  | .create payload => ∀ i p, w.db.products.row i = some p →
      shopSku py p = shopSku py payload.row → p.sku = payload.sku
  | .update id payload =>
      (∀ i p, i ≠ id → w.db.products.row i = some p →
        shopSku py p = shopSku py payload.row → p.sku = payload.sku) ∧
      ∀ p, w.db.products.row id = some p → p.isActive = some 1 →
        shopSku py payload.row = shopSku py p
  | .delete _ => True
  | .syncCatalog => True

/-- The states of the runs whose requests all satisfy `allowed`, one after
another and with the shop reachable. -/
inductive Reaches (py : Builtins) (allowed : World Push → MirrorCall → Prop)
    (start : World Push) : World Push → Prop where
  | start : Reaches py allowed start start
  | call {w : World Push} (env : HandlerEnv) (request : Request) (call : MirrorCall) :
      Reaches py allowed start w → env.py = py → env.shop.Configured → allowed w call →
      Reaches py allowed start (call.after env request w)

theorem Mirror.untouched {py : Builtins} {w w' : World Push}
    (h : Mirror py w.db.products (remoteShop w.trace)) (hsame : Untouched w w') :
    Mirror py w'.db.products (remoteShop w'.trace) := by
  have hshop : remoteShop w'.trace = remoteShop w.trace := by
    rcases hsame.silent with htrace | htrace
    · rw [htrace]
    · rw [htrace, remoteShop_committed]
  rw [hshop]
  exact h.congr hsame.rows.products

section Calls
variable {env : HandlerEnv} {request : Request} {w : World Push}

theorem isActive_row (payload : ProductMutation) :
    payload.row.isActive = some 0 ∨ payload.row.isActive = some 1 := by
  have hrange := payload.isActiveRange
  have hcases : payload.isActive = 0 ∨ payload.isActive = 1 := by omega
  rcases hcases with hzero | hone
  · exact Or.inl (congrArg some hzero)
  · exact Or.inr (congrArg some hone)

theorem syncCatalogBlock_ok {actor : User} {v t : Work Db} {products : List SerializedProduct}
    (h : syncCatalogBlock env request actor v = (.ok products, t)) :
    t.state.products = v.state.products ∧
      products = v.state.products.listing.rows.map fun row =>
        serializeProduct row.1 (shopName v.state row.2) row.2 := by
  simp only [syncCatalogBlock, Tx.bind_ok_iff, query_ok_iff, Tx.pure_ok_iff] at h
  obtain ⟨_, _, ⟨_, rfl, rfl⟩, _, m, haudit, rfl, rfl⟩ := h
  exact ⟨by rw [recordAudit_ok haudit]; rfl, rfl⟩

theorem syncCatalogBlock_leaves (actor : User) :
    Leaves Response.IsError (syncCatalogBlock env request actor) := by
  refine leaves_bind (reads_query _) (leaves_query _) fun products => Proceeds.leaves ?_
  exact proceeds_bind (recordAudit_proceeds _ _) fun _ => proceeds_pure _

/-- A handler that pushes after its block: either nothing moved, or the block's
effect was committed and its products were pushed. -/
theorem managed_pushes {Value : Type}
    {block : User → Block Db PyExc (Response ProductAnswer) Value}
    (hcfg : env.shop.Configured) {action : PushAction}
    (products : Value → List SerializedProduct) (answer : Value → ShopSync → ProductAnswer)
    (hleaves : ∀ actor, Leaves Response.IsError (block actor)) {w' : World Push}
    (hw : w' = (managed env request block (pushThenAnswer env action products answer) w).2) :
    (∃ actor a t, block actor ⟨w.db, 0⟩ = (.ok a, t) ∧ w'.db = t.state ∧
      remoteShop w'.trace =
        applyPush (remoteShop w.trace) ⟨action, (products a).map (buildShopSyncPayload env.py)⟩) ∨
    Untouched w w' := by
  rcases managed_cases env request (pushThenAnswer env action products answer) hleaves w with
    ⟨actor, a, t, _, hblock, hrun⟩ | ⟨_, hsame⟩
  · refine Or.inl ⟨actor, a, t, hblock, ?_⟩
    rw [hw, hrun, (pushThenAnswer_world env action products answer a _).2]
    by_cases hsome : products a = []
    · obtain ⟨hurl, hkey⟩ := hcfg
      simp only [syncProductsToShop, hsome, hurl, hkey, List.map_nil, List.isEmpty_nil,
        Bool.false_eq_true, if_false, if_true, Tx.pure_apply]
      refine ⟨trivial, ?_⟩
      rw [remoteShop_committed]
      rcases action with _ | _ <;> rfl
    · rw [syncProductsToShop_sends hcfg hsome]
      exact ⟨rfl, by rw [remoteShop_sent, remoteShop_committed]⟩
  · exact Or.inr (hw ▸ hsame)

section Configured
variable (hcfg : env.shop.Configured) (h : Mirror env.py w.db.products (remoteShop w.trace))
include hcfg h

theorem mirror_create {payload : ProductMutation} (hkeeps : KeepsSkus env.py w (.create payload)) :
    Mirror env.py ((MirrorCall.create payload).after env request w).db.products
      (remoteShop ((MirrorCall.create payload).after env request w).trace) := by
  rcases managed_pushes hcfg _ _ (fun _ => createProductBlock_leaves payload) rfl with
    ⟨actor, a, t, hblock, hdb, hshop⟩ | hsame
  · obtain ⟨products, shopName, hinsert, rfl, hstate⟩ := createProductBlock_ok hblock
    obtain ⟨_, hfree, _, hrow⟩ := Table.insert_eq_some hinsert
    have hnew : ∀ i p, w.db.products.row i = some p → p.sku ≠ payload.sku := by
      have hsome : (w.db.products.insert payload.row).isSome := by rw [hinsert]; rfl
      have hnone := (Table.insert_isSome_iff _ _).mp hsome payload.sku rfl
      intro i p hp hsku
      exact (Table.find_eq_none_iff _ _).mp hnone i p hp (congrArg some hsku)
    unfold MirrorCall.after
    dsimp only
    unfold createProduct
    rw [hdb, hshop, hstate]
    refine h.upsert hrow (isActive_row payload) ?_ ?_
    · intro i p _ hp hkey
      exact hnew i p hp (hkeeps i p hp hkey)
    · intro p hp
      rw [hfree] at hp
      cases hp
  · exact h.untouched hsame

theorem mirror_update {id : Nat} {payload : ProductMutation}
    (hkeeps : KeepsSkus env.py w (.update id payload)) :
    Mirror env.py ((MirrorCall.update id payload).after env request w).db.products
      (remoteShop ((MirrorCall.update id payload).after env request w).trace) := by
  rcases managed_pushes hcfg _ _ (fun _ => updateProductBlock_leaves id payload) rfl with
    ⟨actor, a, t, hblock, hdb, hshop⟩ | hsame
  · obtain ⟨old, products, shopName, hold, hreplace, rfl, hstate⟩ := updateProductBlock_ok hblock
    obtain ⟨_, hrow⟩ := Table.replace_eq_some hreplace
    unfold MirrorCall.after
    dsimp only
    unfold updateProduct
    rw [hdb, hshop, hstate]
    refine h.upsert hrow (isActive_row payload) ?_ hkeeps.2
    intro i p hne hp hkey
    -- the unique constraint lets no other row have the payload's own SKU
    have hsku : p.sku = payload.sku := hkeeps.1 i p hne hp hkey
    have hi : products.row i = some p := by rw [hrow i, if_neg hne]; exact hp
    have hid : products.row id = some payload.row := by rw [hrow id, if_pos rfl]
    exact hne (products.unique i id p payload.row payload.sku hi hid (congrArg some hsku) rfl)
  · exact h.untouched hsame

theorem mirror_delete (id : Nat) :
    Mirror env.py ((MirrorCall.delete id).after env request w).db.products
      (remoteShop ((MirrorCall.delete id).after env request w).trace) := by
  rcases managed_pushes hcfg _ _ (fun _ => deleteProductBlock_leaves id) rfl with
    ⟨actor, a, t, hblock, hdb, hshop⟩ | hsame
  · obtain ⟨old, products, row, hold, hrow, _, hsku, _, hstate, _, _⟩ :=
      deleteProductBlock_ok hblock
    unfold MirrorCall.after
    dsimp only
    unfold deleteProduct
    rw [hdb, hshop, hstate]
    refine h.deactivate hold ?_ hrow ?_
    · unfold leftOf
      split
      · exact Or.inl rfl
      · exact Or.inr rfl
    · rw [buildShopSyncPayload, hsku]
      rfl
  · exact h.untouched hsame

/-- A push of the whole catalogue tells the shop what it has. -/
theorem mirror_syncCatalog :
    Mirror env.py (MirrorCall.syncCatalog.after env request w).db.products
      (remoteShop (MirrorCall.syncCatalog.after env request w).trace) := by
  rcases managed_pushes hcfg _ _ (fun _ => syncCatalogBlock_leaves _) rfl with
    ⟨actor, a, t, hblock, hdb, hshop⟩ | hsame
  · obtain ⟨hproducts, rfl⟩ := syncCatalogBlock_ok hblock
    have hpresent : applyPush (remoteShop w.trace) ⟨.upsert,
        (w.db.products.listing.rows.map fun row =>
          serializeProduct row.1 (shopName w.db row.2) row.2).map
            (buildShopSyncPayload env.py)⟩ = remoteShop w.trace := by
      apply foldl_putRecord_present
      intro record hrecord
      rw [List.map_map, List.mem_map] at hrecord
      obtain ⟨⟨id, p⟩, hmem, rfl⟩ := hrecord
      exact h.records id p ((w.db.products.listing.complete id p).mp hmem)
    unfold MirrorCall.after
    dsimp only
    unfold syncCatalogToShop
    rw [hdb, hshop.trans hpresent, hproducts]
    exact h
  · exact h.untouched hsame

end Configured

/-- One request carries the mirror on. -/
theorem mirror_step {py : Builtins} (hpy : env.py = py) (hcfg : env.shop.Configured)
    {call : MirrorCall} (h : Mirror py w.db.products (remoteShop w.trace))
    (hkeeps : KeepsSkus py w call) :
    Mirror py (call.after env request w).db.products
      (remoteShop (call.after env request w).trace) := by
  subst hpy
  cases call with
  | create payload => exact mirror_create hcfg h hkeeps
  | update id payload => exact mirror_update hcfg h hkeeps
  | delete id => exact mirror_delete hcfg h id
  | syncCatalog => exact mirror_syncCatalog hcfg h

end Calls

/-- Nothing in the catalogue and nothing sent yet. -/
structure Blank (w : World Push) : Prop where
  products : ∀ id, w.db.products.row id = none
  trace : w.trace = []

theorem Blank.mirror {w : World Push} (h : Blank w) (py : Builtins) :
    Mirror py w.db.products (remoteShop w.trace) := by
  rw [h.trace]
  refine ⟨?_, ?_, ?_, ?_⟩
  · intro id p hp
    rw [h.products id] at hp
    cases hp
  · intro sku record hrecord
    cases hrecord
  · intro i j p q hp
    rw [h.products i] at hp
    cases hp
  · intro id p hp
    rw [h.products id] at hp
    cases hp

/-- In a run whose requests all keep their SKUs, the shop mirrors the catalogue
after every request. -/
theorem shop_mirrors {py : Builtins} {start w : World Push} (hblank : Blank start)
    (h : Reaches py (KeepsSkus py) start w) : Mirrored py w := by
  suffices hmirror : Mirror py w.db.products (remoteShop w.trace) from hmirror.mirrored
  induction h with
  | start => exact hblank.mirror py
  | call env request call _ hpy hcfg hkeeps ih => exact mirror_step hpy hcfg ih hkeeps

/-- The process before its first request. -/
def blankWorld : World Push := ⟨Db.empty, []⟩

theorem blankWorld_blank : Blank blankWorld := ⟨fun _ => rfl, rfl⟩

theorem sampleShop_configured : sampleHandlerEnv.shop.Configured := ⟨by decide, by decide⟩

def camera (digit : Char) (h : ['C', 'A', 'M', digit].all isSkuChar = true) : ProductMutation :=
  sampleMutation 'C' 'A' 'M' digit h

def oneCamera : World Push :=
  (MirrorCall.create (camera '1' rfl)).after sampleHandlerEnv sampleManager blankWorld

def twoCameras : World Push :=
  (MirrorCall.create (camera '2' rfl)).after sampleHandlerEnv sampleManager oneCamera

theorem oneCamera_rows (i : Nat) :
    oneCamera.db.products.row i = if i = 1 then some (camera '1' rfl).row else none := rfl

theorem twoCameras_rows (i : Nat) :
    twoCameras.db.products.row i = if i = 2 then some (camera '2' rfl).row
      else if i = 1 then some (camera '1' rfl).row else none := rfl

theorem camera_skus_differ : shopSku sampleHandlerEnv.py (camera '1' rfl).row ≠
    shopSku sampleHandlerEnv.py (camera '2' rfl).row := by
  decide +kernel

theorem twoCameras_reached :
    Reaches sampleHandlerEnv.py (KeepsSkus sampleHandlerEnv.py) blankWorld twoCameras := by
  refine Reaches.call _ _ _ (Reaches.call _ _ _ Reaches.start rfl sampleShop_configured ?_) rfl
    sampleShop_configured ?_
  · intro i p hp
    cases hp
  · intro i p hp hsku
    have hrow := (oneCamera_rows i).symm.trans hp
    split at hrow
    · obtain rfl := Option.some.inj hrow
      exact absurd hsku camera_skus_differ
    · cases hrow

/-- Two products are created, one is updated under its SKU and the other deleted. -/
theorem shop_mirrors_sample :
    Mirrored sampleHandlerEnv.py ((MirrorCall.delete 2).after sampleHandlerEnv sampleManager
      ((MirrorCall.update 1 (camera '1' rfl)).after sampleHandlerEnv sampleManager
        twoCameras)) := by
  refine shop_mirrors blankWorld_blank ?_
  refine Reaches.call _ _ _ (Reaches.call _ _ _ twoCameras_reached rfl sampleShop_configured ?_) rfl
    sampleShop_configured trivial
  constructor
  · intro i p hi hp hsku
    have hrow := (twoCameras_rows i).symm.trans hp
    rw [if_neg hi] at hrow
    split at hrow
    · obtain rfl := Option.some.inj hrow
      exact absurd hsku.symm camera_skus_differ
    · cases hrow
  · intro p hp _
    have hrow := (twoCameras_rows 1).symm.trans hp
    obtain rfl : (camera '1' rfl).row = p := Option.some.inj hrow
    rfl

/-- The catalogue after one product was created as CAM1 and renamed to CAM2. -/
def renamedWorld : World Push :=
  (MirrorCall.update 1 (sampleMutation 'C' 'A' 'M' '2' rfl)).after sampleHandlerEnv sampleManager
    ((MirrorCall.create (sampleMutation 'C' 'A' 'M' '1' rfl)).after sampleHandlerEnv sampleManager
      blankWorld)

/-- CAM1 stays active in the shop, and no product has it. -/
theorem rename_leaves_old_sku :
    Reaches sampleHandlerEnv.py (fun _ _ => True) blankWorld renamedWorld ∧
      ¬ Mirrored sampleHandlerEnv.py renamedWorld := by
  refine ⟨?_, ?_⟩
  · exact Reaches.call _ _ _ (Reaches.call _ _ _ Reaches.start rfl sampleShop_configured trivial)
      rfl sampleShop_configured trivial
  · intro hmirror
    have hactive : "CAM1" ∈ activeSkus (remoteShop renamedWorld.trace) := by
      have hrecord : ((remoteShop renamedWorld.trace "CAM1").any
        fun record => decide (record.isActive = 1)) = true := by decide +kernel
      rcases hshop : remoteShop renamedWorld.trace "CAM1" with _ | record
      · rw [hshop] at hrecord
        cases hrecord
      · rw [hshop] at hrecord
        exact ⟨record, hshop, of_decide_eq_true hrecord⟩
    obtain ⟨id, ⟨p, hrow, _⟩, hsku⟩ := hmirror.oneToOne.surjOn hactive
    have hnext : renamedWorld.db.products.next = 2 := by decide +kernel
    have hid : id < 2 := hnext ▸ Table.lt_next hrow
    have hnone : (List.range 2).all (fun i =>
      decide (skuOf sampleHandlerEnv.py renamedWorld.db i ≠ "CAM1")) = true := by decide +kernel
    have hne := List.all_eq_true.mp hnone id (List.mem_range.mpr hid)
    exact of_decide_eq_true hne hsku

end ShopMirror
