import CrmPortal.Shops

/-!
# A catalogue change and its audit row are one

For each handler of the product and shop catalogue: what its block has done when
it comes to its end, and that it is left early only before the first write. A
request then either commits its one row change together with one audit row, or
leaves the database as it found it; pushes come after the commit.
-/

namespace CatalogAtomicity

open PyValue IdentityTable Transaction UnitOfWork CrmDatabase RequestContext ShopCatalogSync
  Products Shops

section Blocks
variable {env : HandlerEnv} {request : Request} {actor : User} {w t : Work Db}

theorem findShop_ok {faults : Faults PyExc} {id : Option Nat} {shop : Option Shop}
    (h : findShop faults id w = (.ok shop, t)) :
    t.state = w.state ∧ shop = id.bind w.state.shops.row := by
  rcases id with _ | id
  · obtain ⟨rfl, rfl⟩ := Tx.pure_ok_iff.mp h
    exact ⟨rfl, rfl⟩
  · simp only [findShop, Tx.bind_ok_iff, query_ok_iff, orReturn_ok_iff, Tx.pure_ok_iff] at h
    obtain ⟨_, _, ⟨_, rfl, rfl⟩, found, _, ⟨hfound, rfl⟩, rfl, rfl⟩ := h
    exact ⟨rfl, hfound.symm⟩

theorem recordAudit_ok {Answer : Type} {faults : Faults PyExc} {row : AuditLog} {u : PUnit}
    (h : (recordAudit faults row : Block Db PyExc (Response Answer) PUnit) w = (.ok u, t)) :
    t.state = { w.state with auditLogs := w.state.auditLogs ++ [row] } := by
  obtain ⟨_, s, hs, rfl⟩ := execute_ok_iff.mp h
  exact (Except.ok.inj hs).symm

theorem insertProduct_ok {row : Product} {db db' : Db} (h : insertProduct row db = .ok db') :
    ∃ products, db.products.insert row = some (db.products.next, products) ∧
      db' = { db with products := products } := by
  unfold insertProduct at h
  rcases hinsert : db.products.insert row with _ | ⟨id, products⟩
  · rw [hinsert] at h
    cases h
  · rw [hinsert] at h
    obtain ⟨rfl, _⟩ := Table.insert_eq_some hinsert
    exact ⟨products, rfl, (Except.ok.inj h).symm⟩

theorem replaceProduct_ok {id : Nat} {row : Product} {db db' : Db}
    (h : replaceProduct id row db = .ok db') :
    ∃ products, db.products.replace id row = some products ∧
      db' = { db with products := products } := by
  unfold replaceProduct at h
  rcases hreplace : db.products.replace id row with _ | products
  · rw [hreplace] at h
    cases h
  · rw [hreplace] at h
    exact ⟨products, rfl, (Except.ok.inj h).symm⟩

theorem createProductBlock_ok {payload : ProductMutation} {serialized : SerializedProduct}
    (h : createProductBlock env request actor payload w = (.ok serialized, t)) :
    ∃ products shopName,
      w.state.products.insert payload.row = some (w.state.products.next, products) ∧
      serialized = serializeProduct w.state.products.next shopName payload.row ∧
      t.state = { w.state with
        products := products
        auditLogs := w.state.auditLogs ++ [auditRow request actor "products.create"
          s!"products/{w.state.products.next}" s!"Created product {payload.sku}"] } := by
  simp only [createProductBlock, Tx.bind_ok_iff, query_ok_iff, ensure_ok_iff, Tx.read_ok_iff,
    execute_ok_iff, Tx.pure_ok_iff] at h
  obtain ⟨_, _, ⟨_, rfl, rfl⟩, _, _, ⟨_, rfl⟩, shop, _, hshop, _, m, ⟨rfl, rfl⟩, _, _,
    ⟨_, s, hs, rfl⟩, _, m', haudit, rfl, rfl⟩ := h
  have hm : m.state = w.state := (findShop_ok hshop).1
  rw [hm] at hs haudit ⊢
  obtain ⟨products, hinsert, rfl⟩ := insertProduct_ok hs
  exact ⟨products, shop.map Shop.name, hinsert, rfl, recordAudit_ok haudit⟩

theorem updateProductBlock_ok {id : Nat} {payload : ProductMutation}
    {serialized : SerializedProduct}
    (h : updateProductBlock env request actor id payload w = (.ok serialized, t)) :
    ∃ old products shopName, w.state.products.row id = some old ∧
      w.state.products.replace id payload.row = some products ∧
      serialized = serializeProduct id shopName payload.row ∧
      t.state = { w.state with
        products := products
        auditLogs := w.state.auditLogs ++ [auditRow request actor "products.update"
          s!"products/{id}" s!"Updated product {payload.sku}"] } := by
  simp only [updateProductBlock, Tx.bind_ok_iff, query_ok_iff, ensure_ok_iff, orReturn_ok_iff,
    execute_ok_iff, Tx.pure_ok_iff] at h
  obtain ⟨_, _, ⟨_, rfl, rfl⟩, old, _, ⟨hold, rfl⟩, _, _, ⟨_, rfl, rfl⟩, _, _, ⟨_, rfl⟩, shop, m,
    hshop, _, _, ⟨_, s, hs, rfl⟩, _, m', haudit, rfl, rfl⟩ := h
  have hm : m.state = w.state := (findShop_ok hshop).1
  rw [hm] at hs
  obtain ⟨products, hreplace, rfl⟩ := replaceProduct_ok hs
  exact ⟨old, products, shop.map Shop.name, hold, hreplace, rfl, recordAudit_ok haudit⟩

/-- What a deletion leaves of the product: nothing, or its row made inactive. -/
def leftOf (db : Db) (id : Nat) (old : Product) : Option Product :=
  if linkedOrders db id = 0 then none else some (deactivated old)

theorem deleteProductBlock_ok {id : Nat} {result : Bool × SerializedProduct}
    (h : deleteProductBlock env request actor id w = (.ok result, t)) :
    ∃ old products row, w.state.products.row id = some old ∧
      (∀ j, products.row j = if j = id then leftOf w.state id old else w.state.products.row j) ∧
      products.next = w.state.products.next ∧
      result.2.sku = old.sku ∧
      (∀ py, buildShopSyncPayload py result.2 =
        { buildShopSyncPayload py (serializeProduct id none old) with isActive := 0 }) ∧
      t.state = { w.state with
        products := products
        auditLogs := w.state.auditLogs ++ [row] } ∧
      row.userId = actor.userId ∧ row.resource = s!"products/{id}" := by
  simp only [deleteProductBlock, Tx.bind_ok_iff, query_ok_iff, orReturn_ok_iff] at h
  obtain ⟨_, _, ⟨_, rfl, rfl⟩, old, _, ⟨hold, rfl⟩, linked, _, ⟨_, rfl, rfl⟩, h⟩ := h
  by_cases hlinked : linkedOrders w.state id = 0
  · have hzero : linkedOrders w.next.state id = 0 := hlinked
    simp only [hzero, ne_eq, not_true_eq_false, if_false, Tx.bind_ok_iff, execute_ok_iff,
      Tx.pure_ok_iff] at h
    obtain ⟨_, _, ⟨_, s, hs, rfl⟩, _, m, haudit, rfl, rfl⟩ := h
    obtain rfl := Except.ok.inj hs
    refine ⟨old, w.state.products.delete id, auditRow request actor "products.delete"
      s!"products/{id}" s!"Deleted product {old.sku}", hold, ?_, ?_, rfl, fun _ => rfl,
      recordAudit_ok haudit, rfl, rfl⟩
    · intro j
      rw [leftOf, if_pos hlinked]
      rfl
    · rfl
  · have hsome : linkedOrders w.next.state id ≠ 0 := hlinked
    simp only [hsome, ne_eq, not_false_eq_true, if_true, Tx.bind_ok_iff, execute_ok_iff,
      Tx.pure_ok_iff] at h
    obtain ⟨_, _, ⟨_, s, hs, rfl⟩, _, m, haudit, rfl, rfl⟩ := h
    obtain rfl := Except.ok.inj hs
    refine ⟨old, w.state.products.modify id deactivated deactivated_skuKey,
      auditRow request actor "products.archive" s!"products/{id}"
        s!"Archived product {old.sku} because it has order history", hold, ?_, ?_, rfl,
      fun _ => rfl, recordAudit_ok haudit, rfl, rfl⟩
    · intro j
      rw [leftOf, if_neg hlinked]
      by_cases hj : j = id
      · subst hj
        simp [hold]
      · simp [hj]
    · rfl

theorem insertShop_ok {row : Shop} {db db' : Db} (h : insertShop row db = .ok db') :
    ∃ shops, db.shops.insert row = some (db.shops.next, shops) ∧
      db' = { db with shops := shops } := by
  unfold insertShop at h
  rcases hinsert : db.shops.insert row with _ | ⟨id, shops⟩
  · rw [hinsert] at h
    cases h
  · rw [hinsert] at h
    obtain ⟨rfl, _⟩ := Table.insert_eq_some hinsert
    exact ⟨shops, rfl, (Except.ok.inj h).symm⟩

theorem replaceShop_ok {id : Nat} {row : Shop} {db db' : Db}
    (h : replaceShop id row db = .ok db') :
    ∃ shops, db.shops.replace id row = some shops ∧ db' = { db with shops := shops } := by
  unfold replaceShop at h
  rcases hreplace : db.shops.replace id row with _ | shops
  · rw [hreplace] at h
    cases h
  · rw [hreplace] at h
    exact ⟨shops, rfl, (Except.ok.inj h).symm⟩

theorem createShopBlock_ok {payload : ShopMutation} {serialized : SerializedShop}
    (h : createShopBlock env request actor payload w = (.ok serialized, t)) :
    ∃ shops, w.state.shops.insert payload.row = some (w.state.shops.next, shops) ∧
      t.state = { w.state with
        shops := shops
        auditLogs := w.state.auditLogs ++ [auditRow request actor "shops.create"
          s!"shops/{w.state.shops.next}" s!"Created shop {payload.slug}"] } := by
  simp only [createShopBlock, Tx.bind_ok_iff, query_ok_iff, ensure_ok_iff, Tx.read_ok_iff,
    execute_ok_iff, Tx.pure_ok_iff] at h
  obtain ⟨_, _, ⟨_, rfl, rfl⟩, _, _, ⟨_, rfl⟩, _, _, ⟨rfl, rfl⟩, _, _, ⟨_, s, hs, rfl⟩, _, m,
    haudit, _, rfl⟩ := h
  obtain ⟨shops, hinsert, rfl⟩ := insertShop_ok hs
  exact ⟨shops, hinsert, recordAudit_ok haudit⟩

theorem updateShopBlock_ok {id : Nat} {payload : ShopMutation} {serialized : SerializedShop}
    (h : updateShopBlock env request actor id payload w = (.ok serialized, t)) :
    ∃ old shops, w.state.shops.row id = some old ∧
      w.state.shops.replace id payload.row = some shops ∧
      t.state = { w.state with
        shops := shops
        auditLogs := w.state.auditLogs ++ [auditRow request actor "shops.update"
          s!"shops/{id}" s!"Updated shop {payload.slug}"] } := by
  simp only [updateShopBlock, Tx.bind_ok_iff, query_ok_iff, ensure_ok_iff, orReturn_ok_iff,
    execute_ok_iff, Tx.pure_ok_iff] at h
  obtain ⟨_, _, ⟨_, rfl, rfl⟩, old, _, ⟨hold, rfl⟩, _, _, ⟨_, rfl, rfl⟩, _, _, ⟨_, rfl⟩, _, _,
    ⟨_, s, hs, rfl⟩, _, _, ⟨_, rfl, rfl⟩, _, m, haudit, _, rfl⟩ := h
  obtain ⟨shops, hreplace, rfl⟩ := replaceShop_ok hs
  exact ⟨old, shops, hold, hreplace, recordAudit_ok haudit⟩

theorem deleteShopBlock_ok {id : Nat} {u : PUnit}
    (h : deleteShopBlock env request actor id w = (.ok u, t)) :
    ∃ old, w.state.shops.row id = some old ∧ productCount w.state id = 0 ∧
      t.state = { w.state with
        shops := w.state.shops.delete id
        auditLogs := w.state.auditLogs ++ [auditRow request actor "shops.delete"
          s!"shops/{id}" s!"Deleted shop {old.slug}"] } := by
  simp only [deleteShopBlock, Tx.bind_ok_iff, query_ok_iff, orReturn_ok_iff, demand_ok_iff,
    execute_ok_iff] at h
  obtain ⟨_, _, ⟨_, rfl, rfl⟩, old, _, ⟨hold, rfl⟩, _, _, ⟨_, rfl, rfl⟩, _, _, ⟨hcount, rfl⟩, _, _,
    ⟨_, s, hs, rfl⟩, haudit⟩ := h
  obtain rfl := Except.ok.inj hs
  exact ⟨old, hold, of_decide_eq_true hcount, recordAudit_ok haudit⟩

theorem findShop_reads (faults : Faults PyExc) (id : Option Nat) : Reads (findShop faults id) := by
  rcases id with _ | id
  · exact reads_pure none
  · exact reads_bind (reads_query _) fun shop => reads_bind (reads_orReturn _ _) fun _ =>
      reads_pure _

theorem findShop_leaves (faults : Faults PyExc) (id : Option Nat) :
    Leaves Response.IsError (findShop faults id) := by
  rcases id with _ | id
  · exact leaves_pure none
  · exact leaves_bind (reads_query _) (leaves_query _) fun shop =>
      leaves_bind (reads_orReturn _ _) (leaves_orReturn (isError_error _) _) fun _ => leaves_pure _

theorem recordAudit_proceeds {Answer : Type} (faults : Faults PyExc) (row : AuditLog) :
    Proceeds (recordAudit faults row : Block Db PyExc (Response Answer) PUnit) :=
  proceeds_execute _

theorem createProductBlock_leaves (payload : ProductMutation) :
    Leaves Response.IsError (createProductBlock env request actor payload) := by
  refine leaves_bind (reads_query _) (leaves_query _) fun existing => ?_
  refine leaves_bind (reads_ensure _ _) (leaves_ensure (isError_error _) _) fun _ => ?_
  refine leaves_bind (findShop_reads _ _) (findShop_leaves _ _) fun shop => ?_
  refine leaves_bind reads_state leaves_state fun before => Proceeds.leaves ?_
  refine proceeds_bind (proceeds_execute _) fun _ => ?_
  exact proceeds_bind (recordAudit_proceeds _ _) fun _ => proceeds_pure _

theorem updateProductBlock_leaves (id : Nat) (payload : ProductMutation) :
    Leaves Response.IsError (updateProductBlock env request actor id payload) := by
  refine leaves_bind (reads_query _) (leaves_query _) fun product => ?_
  refine leaves_bind (reads_orReturn _ _) (leaves_orReturn (isError_error _) _) fun _ => ?_
  refine leaves_bind (reads_query _) (leaves_query _) fun duplicate => ?_
  refine leaves_bind (reads_ensure _ _) (leaves_ensure (isError_error _) _) fun _ => ?_
  refine leaves_bind (findShop_reads _ _) (findShop_leaves _ _) fun shop => Proceeds.leaves ?_
  refine proceeds_bind (proceeds_execute _) fun _ => ?_
  exact proceeds_bind (recordAudit_proceeds _ _) fun _ => proceeds_pure _

theorem deleteProductBlock_leaves (id : Nat) :
    Leaves Response.IsError (deleteProductBlock env request actor id) := by
  refine leaves_bind (reads_query _) (leaves_query _) fun product => ?_
  refine leaves_bind (reads_orReturn _ _) (leaves_orReturn (isError_error _) _) fun old => ?_
  refine leaves_bind (reads_query _) (leaves_query _) fun linked => Proceeds.leaves ?_
  by_cases hlinked : linked ≠ 0
  · simp only [if_pos hlinked]
    refine proceeds_bind (proceeds_execute _) fun _ => ?_
    exact proceeds_bind (recordAudit_proceeds _ _) fun _ => proceeds_pure _
  · simp only [if_neg hlinked]
    refine proceeds_bind (proceeds_execute _) fun _ => ?_
    exact proceeds_bind (recordAudit_proceeds _ _) fun _ => proceeds_pure _

theorem createShopBlock_leaves (payload : ShopMutation) :
    Leaves Response.IsError (createShopBlock env request actor payload) := by
  refine leaves_bind (reads_query _) (leaves_query _) fun duplicate => ?_
  refine leaves_bind (reads_ensure _ _) (leaves_ensure (isError_error _) _) fun _ => ?_
  refine leaves_bind reads_state leaves_state fun before => Proceeds.leaves ?_
  refine proceeds_bind (proceeds_execute _) fun _ => ?_
  exact proceeds_bind (recordAudit_proceeds _ _) fun _ => proceeds_pure _

theorem updateShopBlock_leaves (id : Nat) (payload : ShopMutation) :
    Leaves Response.IsError (updateShopBlock env request actor id payload) := by
  refine leaves_bind (reads_query _) (leaves_query _) fun shop => ?_
  refine leaves_bind (reads_orReturn _ _) (leaves_orReturn (isError_error _) _) fun _ => ?_
  refine leaves_bind (reads_query _) (leaves_query _) fun duplicate => ?_
  refine leaves_bind (reads_ensure _ _) (leaves_ensure (isError_error _) _) fun _ =>
    Proceeds.leaves ?_
  refine proceeds_bind (proceeds_execute _) fun _ => ?_
  refine proceeds_bind (proceeds_query _) fun _ => ?_
  exact proceeds_bind (recordAudit_proceeds _ _) fun _ => proceeds_pure _

theorem deleteShopBlock_leaves (id : Nat) :
    Leaves Response.IsError (deleteShopBlock env request actor id) := by
  refine leaves_bind (reads_query _) (leaves_query _) fun shop => ?_
  refine leaves_bind (reads_orReturn _ _) (leaves_orReturn (isError_error _) _) fun old => ?_
  refine leaves_bind (reads_query _) (leaves_query _) fun count => ?_
  refine leaves_bind (reads_demand _ _) (leaves_demand _ _) fun _ => Proceeds.leaves ?_
  exact proceeds_bind (proceeds_execute _) fun _ => recordAudit_proceeds _ _

end Blocks

inductive CatalogCall where
  | createProduct (payload : ProductMutation)
  | updateProduct (id : Nat) (payload : ProductMutation)
  | deleteProduct (id : Nat)
  | createShop (payload : ShopMutation)
  | updateShop (id : Nat) (payload : ShopMutation)
  | deleteShop (id : Nat)

abbrev CatalogResult := Except PyExc (Response (ProductAnswer ⊕ ShopAnswer))

def mapAnswer {A B : Type} (f : A → B) :
    Except PyExc (Response A) × World Push → Except PyExc (Response B) × World Push
  | (.ok (.answer a), w) => (.ok (.answer (f a)), w)
  | (.ok (.error message), w) => (.ok (.error message), w)
  | (.error exc, w) => (.error exc, w)

def CatalogCall.perform (env : HandlerEnv) (request : Request) (call : CatalogCall)
    (w : World Push) : CatalogResult × World Push :=
  match call with
  | .createProduct payload => mapAnswer .inl (Products.createProduct env request payload w)
  | .updateProduct id payload => mapAnswer .inl (Products.updateProduct env request id payload w)
  | .deleteProduct id => mapAnswer .inl (Products.deleteProduct env request id w)
  | .createShop payload => mapAnswer .inr (Shops.createShop env request payload w)
  | .updateShop id payload => mapAnswer .inr (Shops.updateShop env request id payload w)
  | .deleteShop id => mapAnswer .inr (Shops.deleteShop env request id w)

/-- The one row that changed in the two catalogue tables. -/
structure ProductChange (db db' : Db) (id : Nat) (row : Option Product) : Prop where
  products : ∀ j, db'.products.row j = if j = id then row else db.products.row j
  shops : db'.shops = db.shops

structure ShopChange (db db' : Db) (id : Nat) (row : Option Shop) : Prop where
  shops : ∀ j, db'.shops.row j = if j = id then row else db.shops.row j
  products : db'.products = db.products

/-- What the operation does to the catalogue, and the resource it names. -/
def CatalogCall.Described (call : CatalogCall) (db db' : Db) (resource : String) : Prop :=
  match call with
  | .createProduct payload => ∃ id, db.products.row id = none ∧
      ProductChange db db' id (some payload.row) ∧ resource = s!"products/{id}"
  | .updateProduct id payload => (∃ old, db.products.row id = some old) ∧
      ProductChange db db' id (some payload.row) ∧ resource = s!"products/{id}"
  | .deleteProduct id => ∃ old, db.products.row id = some old ∧
      ProductChange db db' id (leftOf db id old) ∧ resource = s!"products/{id}"
  | .createShop payload => ∃ id, db.shops.row id = none ∧
      ShopChange db db' id (some payload.row) ∧ resource = s!"shops/{id}"
  | .updateShop id payload => (∃ old, db.shops.row id = some old) ∧
      ShopChange db db' id (some payload.row) ∧ resource = s!"shops/{id}"
  | .deleteShop id => (∃ old, db.shops.row id = some old) ∧ productCount db id = 0 ∧
      ShopChange db db' id none ∧ resource = s!"shops/{id}"

/-- The operation and its audit row are committed together, and nothing else is;
whatever is pushed is pushed after that. -/
def CatalogCall.Committed (env : HandlerEnv) (request : Request) (call : CatalogCall)
    (w w' : World Push) : Prop :=
  ∃ actor resource row, ∃ pushes : List Push,
    requireManagementUser env.py request = .ok actor ∧
    call.Described w.db w'.db resource ∧
    w'.db.auditLogs = w.db.auditLogs ++ [row] ∧
    row.userId = actor.userId ∧ row.resource = resource ∧
    w'.db.customers = w.db.customers ∧ w'.db.orders = w.db.orders ∧
    w'.db.orderItems = w.db.orderItems ∧ w'.db.orderSyncAudit = w.db.orderSyncAudit ∧
    w'.trace = w.trace ++ .committed :: pushes.map .sent

/-- An error answer or an exception. -/
def CallRefused {Answer : Type} (result : Except PyExc (Response Answer)) : Prop :=
  (∃ message, result = .ok (.error message)) ∨ ∃ exc, result = .error exc

/-- The result is not an error answer. -/
def NoErrorAnswer {Answer : Type} (result : Except PyExc (Response Answer)) : Prop :=
  ∀ message, result ≠ .ok (.error message)

/-- What follows the block only pushes, and answers no error. -/
def OnlyPushes {Answer Value : Type} (finish : Value → Tx (World Push) PyExc (Response Answer)) :
    Prop :=
  ∀ a w, NoErrorAnswer (finish a w).1 ∧
    ∃ pushes : List Push, (finish a w).2 = { w with trace := w.trace ++ pushes.map .sent }

section Managed
variable {env : HandlerEnv} {request : Request}

/-- A handler either comes to the end of its block, commits it and goes on, or is
refused and leaves everything as it was. -/
theorem managed_cases {Answer Value : Type} (env : HandlerEnv) (request : Request)
    {block : User → Block Db PyExc (Response Answer) Value}
    (finish : Value → Tx (World Push) PyExc (Response Answer))
    (hleaves : ∀ actor, Leaves Response.IsError (block actor)) (w : World Push) :
    (∃ actor a t, requireManagementUser env.py request = .ok actor ∧
      block actor ⟨w.db, 0⟩ = (.ok a, t) ∧
      managed env request block finish w = finish a ⟨t.state, w.trace ++ [.committed]⟩) ∨
    (CallRefused (managed env request block finish w).1 ∧
      Untouched w (managed env request block finish w).2) := by
  unfold managed
  rcases hactor : requireManagementUser env.py request with exc | actor
  · exact Or.inr ⟨Or.inr ⟨exc, rfl⟩, Untouched.refl w⟩
  have hguard : (Tx.ofExcept (.ok actor) : Tx (World Push) PyExc User) w = (.ok actor, w) := rfl
  rw [Tx.bind_of_ok _ hguard]
  rcases getDb_atomic env.db env.faults (hleaves actor) w with
    ⟨a, t, hblock, hdb⟩ | ⟨hrefused, huntouched⟩
  · rw [Tx.bind_of_ok _ hdb]
    exact Or.inl ⟨actor, a, t, rfl, hblock, rfl⟩
  · rcases hend : getDb env.db env.faults (block actor) w with ⟨exc | ended, w'⟩
    · rw [hend] at huntouched
      rw [Tx.bind_of_error _ hend]
      exact Or.inr ⟨Or.inr ⟨exc, rfl⟩, huntouched⟩
    · rw [hend] at hrefused huntouched
      rw [Tx.bind_of_ok _ hend]
      rcases hrefused with ⟨message, hmessage⟩ | ⟨exc, hexc⟩
      · obtain rfl := Except.ok.inj hmessage
        exact Or.inr ⟨Or.inl ⟨message, rfl⟩, huntouched⟩
      · cases hexc

theorem managed_atomic {Answer Value : Type}
    {block : User → Block Db PyExc (Response Answer) Value}
    {finish : Value → Tx (World Push) PyExc (Response Answer)}
    (hleaves : ∀ actor, Leaves Response.IsError (block actor)) (hfinish : OnlyPushes finish)
    (w : World Push) :
    (∃ actor a t, ∃ pushes : List Push, requireManagementUser env.py request = .ok actor ∧
      block actor ⟨w.db, 0⟩ = (.ok a, t) ∧
      NoErrorAnswer (managed env request block finish w).1 ∧
      (managed env request block finish w).2 =
        { db := t.state, trace := w.trace ++ .committed :: pushes.map .sent }) ∨
    (CallRefused (managed env request block finish w).1 ∧
      Untouched w (managed env request block finish w).2) := by
  rcases managed_cases env request finish hleaves w with ⟨actor, a, t, hactor, hblock, hrun⟩ |
    hrefused
  · obtain ⟨hanswer, pushes, hpushes⟩ := hfinish a ⟨t.state, w.trace ++ [.committed]⟩
    rw [hrun]
    refine Or.inl ⟨actor, a, t, pushes, hactor, hblock, hanswer, ?_⟩
    rw [hpushes, List.append_assoc, List.singleton_append]
  · exact Or.inr hrefused

theorem onlyPushes_pure {Answer Value : Type} (f : Value → Answer) :
    OnlyPushes fun a => (return .answer (f a) : Tx (World Push) PyExc (Response Answer)) := by
  intro a w
  refine ⟨?_, [], by simp⟩
  intro message h
  cases h

theorem pushThenAnswer_world {Value : Type} (env : HandlerEnv) (action : PushAction)
    (products : Value → List SerializedProduct) (answer : Value → ShopSync → ProductAnswer)
    (a : Value) (w : World Push) :
    NoErrorAnswer (pushThenAnswer env action products answer a w).1 ∧
      (pushThenAnswer env action products answer a w).2 =
        (syncProductsToShop env.py env.shop action (products a) w).2 := by
  unfold pushThenAnswer
  rcases hsync : syncProductsToShop env.py env.shop action (products a) w with ⟨exc | sync, w'⟩
  · rw [Tx.bind_of_error _ hsync]
    refine ⟨?_, rfl⟩
    intro message h
    cases h
  · rw [Tx.bind_of_ok _ hsync, Tx.pure_apply]
    refine ⟨?_, rfl⟩
    intro message h
    cases h

theorem onlyPushes_pushThenAnswer {Value : Type} {action : PushAction}
    (products : Value → List SerializedProduct) (answer : Value → ShopSync → ProductAnswer) :
    OnlyPushes (pushThenAnswer env action products answer) := by
  intro a w
  obtain ⟨hanswer, hworld⟩ := pushThenAnswer_world env action products answer a w
  obtain ⟨pushes, hpushes, _⟩ := syncProductsToShop_world env.py env.shop action (products a) w
  exact ⟨hanswer, pushes, hworld.trans hpushes⟩

/-- The outcome of a handler in terms of its block's effect, with the answer's
type forgotten. -/
theorem call_atomic {Answer Value : Type} (call : CatalogCall)
    {block : User → Block Db PyExc (Response Answer) Value}
    {finish : Value → Tx (World Push) PyExc (Response Answer)}
    (inject : Answer → ProductAnswer ⊕ ShopAnswer) {w : World Push}
    (hperform : call.perform env request w = mapAnswer inject (managed env request block finish w))
    (hleaves : ∀ actor, Leaves Response.IsError (block actor)) (hfinish : OnlyPushes finish)
    (heffect : ∀ actor a t, block actor ⟨w.db, 0⟩ = (.ok a, t) →
      ∃ resource row, call.Described w.db t.state resource ∧
        t.state.auditLogs = w.db.auditLogs ++ [row] ∧
        row.userId = actor.userId ∧ row.resource = resource ∧
        t.state.customers = w.db.customers ∧ t.state.orders = w.db.orders ∧
        t.state.orderItems = w.db.orderItems ∧ t.state.orderSyncAudit = w.db.orderSyncAudit) :
    (call.Committed env request w (call.perform env request w).2 ∧
        NoErrorAnswer (call.perform env request w).1) ∨
      (CallRefused (call.perform env request w).1 ∧
        Untouched w (call.perform env request w).2) := by
  have hstate : (mapAnswer inject (managed env request block finish w)).2 =
      (managed env request block finish w).2 := by
    rcases managed env request block finish w with ⟨exc | ⟨message⟩ | answer, w'⟩ <;> rfl
  rw [hperform, hstate]
  rcases managed_atomic hleaves hfinish w with
    ⟨actor, a, t, pushes, hactor, hblock, hanswer, hend⟩ | ⟨hrefused, huntouched⟩
  · obtain ⟨resource, row, hdescribed, haudit, huser, hresource, hcustomers, horders, hitems,
      hsync⟩ := heffect actor a t hblock
    refine Or.inl ⟨?_, ?_⟩
    · rw [hend]
      exact ⟨actor, resource, row, pushes, hactor, hdescribed, haudit, huser, hresource,
        hcustomers, horders, hitems, hsync, rfl⟩
    · rcases hrun : managed env request block finish w with ⟨exc | ⟨message⟩ | answer, w'⟩
      · intro message h
        cases h
      · rw [hrun] at hanswer
        exact absurd rfl (hanswer message)
      · intro message h
        cases h
  · refine Or.inr ⟨?_, huntouched⟩
    rcases hrun : managed env request block finish w with ⟨result, w'⟩
    rw [hrun] at hrefused
    rcases hrefused with ⟨message, rfl⟩ | ⟨exc, rfl⟩
    · exact Or.inl ⟨message, rfl⟩
    · exact Or.inr ⟨exc, rfl⟩

end Managed

/-- Every request of the catalogue either commits its change with one audit row
of the actor and the resource, and pushes after that, or is refused, changes
nothing and pushes nothing. -/
theorem catalogue_change_atomic (env : HandlerEnv) (request : Request) (call : CatalogCall)
    (w : World Push) :
    (call.Committed env request w (call.perform env request w).2 ∧
        NoErrorAnswer (call.perform env request w).1) ∨
      (CallRefused (call.perform env request w).1 ∧
        Untouched w (call.perform env request w).2) := by
  cases call with
  | createProduct payload =>
    refine call_atomic _ .inl rfl (fun _ => createProductBlock_leaves payload)
      (onlyPushes_pushThenAnswer _ _) ?_
    intro actor a t h
    obtain ⟨products, shopName, hinsert, _, hstate⟩ := createProductBlock_ok h
    obtain ⟨_, hfree, _, hrow⟩ := Table.insert_eq_some hinsert
    rw [hstate]
    exact ⟨_, _, ⟨w.db.products.next, hfree, ⟨hrow, rfl⟩, rfl⟩, rfl, rfl, rfl, rfl, rfl, rfl, rfl⟩
  | updateProduct id payload =>
    refine call_atomic _ .inl rfl (fun _ => updateProductBlock_leaves id payload)
      (onlyPushes_pushThenAnswer _ _) ?_
    intro actor a t h
    obtain ⟨old, products, shopName, hold, hreplace, _, hstate⟩ := updateProductBlock_ok h
    rw [hstate]
    exact ⟨_, _, ⟨⟨old, hold⟩, ⟨(Table.replace_eq_some hreplace).2, rfl⟩, rfl⟩,
      rfl, rfl, rfl, rfl, rfl, rfl, rfl⟩
  | deleteProduct id =>
    refine call_atomic _ .inl rfl (fun _ => deleteProductBlock_leaves id)
      (onlyPushes_pushThenAnswer _ _) ?_
    intro actor a t h
    obtain ⟨old, products, row, hold, hproducts, _, _, _, hstate, huser, hresource⟩ :=
      deleteProductBlock_ok h
    rw [hstate]
    exact ⟨_, row, ⟨old, hold, ⟨hproducts, rfl⟩, rfl⟩, rfl, huser, hresource, rfl, rfl, rfl, rfl⟩
  | createShop payload =>
    refine call_atomic _ .inr rfl (fun _ => createShopBlock_leaves payload)
      (onlyPushes_pure _) ?_
    intro actor a t h
    obtain ⟨shops, hinsert, hstate⟩ := createShopBlock_ok h
    obtain ⟨_, hfree, _, hrow⟩ := Table.insert_eq_some hinsert
    rw [hstate]
    exact ⟨_, _, ⟨w.db.shops.next, hfree, ⟨hrow, rfl⟩, rfl⟩, rfl, rfl, rfl, rfl, rfl, rfl, rfl⟩
  | updateShop id payload =>
    refine call_atomic _ .inr rfl (fun _ => updateShopBlock_leaves id payload)
      (onlyPushes_pure _) ?_
    intro actor a t h
    obtain ⟨old, shops, hold, hreplace, hstate⟩ := updateShopBlock_ok h
    rw [hstate]
    exact ⟨_, _, ⟨⟨old, hold⟩, ⟨(Table.replace_eq_some hreplace).2, rfl⟩, rfl⟩,
      rfl, rfl, rfl, rfl, rfl, rfl, rfl⟩
  | deleteShop id =>
    refine call_atomic _ .inr rfl (fun _ => deleteShopBlock_leaves id)
      (onlyPushes_pure _) ?_
    intro actor a t h
    obtain ⟨old, hold, hcount, hstate⟩ := deleteShopBlock_ok h
    rw [hstate]
    exact ⟨_, _, ⟨⟨old, hold⟩, hcount, ⟨fun _ => rfl, rfl⟩, rfl⟩,
      rfl, rfl, rfl, rfl, rfl, rfl, rfl⟩

end CatalogAtomicity
