import CrmPortal.ExplicitValues
import CrmPortal.OrdersSpec

/-!
# Two checks of a declared total

The feed and the order endpoint both compare the total that an order declares with the one
that its lines come to. They compute it apart from each other and compare it differently.
-/

namespace PriceTampering

open PyValue IdentityTable Transaction UnitOfWork CrmDatabase RequestContext ShopCatalogSync
open OrderNormalization Orders OrdersSpec ExplicitValues

/-- A line with its price in whole cents. -/
structure Line where
  quantity : Int
  unitPrice : ℚ
  positive : 0 < quantity
  cents : ∃ n : ℤ, unitPrice * 100 = n

def linesTotal : List Line → ℚ
  | [] => 0
  | line :: rest => line.quantity * line.unitPrice + linesTotal rest

theorem linesTotal_cents (lines : List Line) : ∃ n : ℤ, linesTotal lines * 100 = n := by
  induction lines with
  | nil => exact ⟨0, by simp [linesTotal]⟩
  | cons line rest ih =>
    obtain ⟨n, hn⟩ := ih
    obtain ⟨c, hc⟩ := line.cents
    refine ⟨line.quantity * c + n, ?_⟩
    push_cast
    rw [← hc, ← hn, linesTotal]
    ring

/-- The item states the line, at the price of the catalogue. -/
structure States (py : Builtins) (products : ProductTable) (fields : Obj) (line : Line) :
    Prop where
  productId : (fields.get "product_id").truthy = true
  product : ∃ id k p, (fields.get "product_id").toInt py = .ok id ∧
    rowAt products id = some (k, p) ∧ p.price = .fin line.unitPrice
  quantity : (fields.get "quantity").truthy = true
  quantityRead : (fields.get "quantity").toInt py = .ok line.quantity
  unitPrice : coerceFloat py (priceValue fields) = .ok (.fin line.unitPrice)

def StatesAll (py : Builtins) (products : ProductTable) (items : List Json) (lines : List Line) :
    Prop :=
  List.Forall₂ (fun item line => ∃ fields, item = .obj fields ∧ States py products fields line)
    items lines

section Sums
variable {py : Builtins} {products : ProductTable} {items : List Json} {lines : List Line}

theorem normalizeItems_total (h : StatesAll py products items lines) {start : ℚ}
    {computed : PyFloat} {rows : List NormalizedItem}
    (hrun : normalizeItems py items (.fin start) = .ok (computed, rows)) :
    computed = .fin (start + linesTotal lines) := by
  unfold StatesAll at h
  induction h generalizing start rows with
  | nil =>
    obtain ⟨rfl, -⟩ := Prod.mk.inj (Except.ok.inj hrun)
    simp [linesTotal]
  | cons hline _ ih =>
    obtain ⟨fields, rfl, hline⟩ := hline
    simp only [normalizeItems, normalizeItem, bind_ok_iff, Json.asDict_ok_iff] at hrun
    obtain ⟨_, ⟨_, hfields, quantity, hquantity, unitPrice, hprice, hrow⟩, amount, hamount,
      ⟨total, tail⟩, htail, hpair⟩ := hrun
    obtain rfl := Json.obj.inj hfields
    obtain rfl := Except.ok.inj hrow
    obtain ⟨rfl, -⟩ := Prod.mk.inj (Except.ok.inj hpair)
    rw [quantityValue, orChain_assoc, Json.or_of_truthy hline.quantity,
      hline.quantityRead] at hquantity
    obtain rfl := Except.ok.inj hquantity
    rw [hline.unitPrice] at hprice
    obtain rfl := Except.ok.inj hprice
    obtain rfl := intMul_ok hamount
    rw [ih htail, linesTotal, add_assoc]

theorem orderLines_total (h : StatesAll py products items lines)
    {found : Int → Option (Nat × Product)}
    (hfound : ∀ fields : Obj, Json.obj fields ∈ items → (fields.get "product_id").truthy = true →
      ∀ id, (fields.get "product_id").toInt py = .ok id → found id = rowAt products id)
    {start : ℚ} {w t : Work Db} {r : PyFloat × List OrderLine}
    (hrun : orderLines py found items (.fin start) w = (.ok r, t)) :
    r.1 = .fin (start + linesTotal lines) := by
  unfold StatesAll at h
  induction h generalizing start r w with
  | nil =>
    simp only [orderLines, Tx.pure_ok_iff] at hrun
    rw [← hrun.1]
    simp [linesTotal]
  | cons hline _ ih =>
    obtain ⟨fields, rfl, hline⟩ := hline
    simp only [orderLines, orderLine, Tx.bind_ok_iff, attempt_ok_iff, ensure_ok_iff,
      Tx.pure_ok_iff, Json.asDict_ok_iff] at hrun
    obtain ⟨_, _, ⟨_, _, ⟨hfields, rfl⟩, quantity, _, ⟨hquantity, rfl⟩, _, _, ⟨-, rfl⟩, id, _,
      ⟨hid, rfl⟩, price, _, ⟨hprice, rfl⟩, rfl, rfl⟩, amount, _, ⟨hamount, rfl⟩, tail, _, htail,
      rfl, rfl⟩ := hrun
    obtain rfl := Json.obj.inj hfields
    rw [Json.or_of_truthy hline.quantity, hline.quantityRead] at hquantity
    obtain rfl := Except.ok.inj hquantity
    rw [Json.or_of_truthy hline.productId] at hid
    obtain ⟨i, k, p, hi, hrow, hcatalogue⟩ := hline.product
    obtain rfl := Except.ok.inj (hid.symm.trans hi)
    rw [hfound fields List.mem_cons_self hline.productId id hid, hrow] at hprice
    obtain rfl := Except.ok.inj hprice
    dsimp only at hamount
    rw [hcatalogue] at hamount
    obtain rfl := intMul_ok hamount
    have hrest := ih (fun fields hmem => hfound fields (List.mem_cons_of_mem _ hmem)) htail
    rw [hrest, linesTotal, add_assoc]

end Sums

theorem roundHalfEven_int (n : ℤ) : PyFloat.roundHalfEven n = n := by
  simp [PyFloat.roundHalfEven]

/-- Whole cents are not rounded. -/
theorem expectedTotal_of_cents {q : ℚ} (h : ∃ n : ℤ, q * 100 = n) :
    expectedTotal (.fin q) .zero .zero = .fin (max q 0) := by
  have hmax : PyFloat.pyMax ((PyFloat.fin q).sub .zero) .zero = .fin (max q 0) := by
    by_cases hneg : q < 0
    · simp [PyFloat.pyMax, PyFloat.sub, PyFloat.neg, PyFloat.add, PyFloat.zero, PyFloat.lt, hneg,
        max_eq_right hneg.le]
    · simp [PyFloat.pyMax, PyFloat.sub, PyFloat.neg, PyFloat.add, PyFloat.zero, PyFloat.lt, hneg,
        max_eq_left (not_lt.mp hneg)]
  obtain ⟨n, hn⟩ := h
  have hcents : max q 0 * 100 = ((max n 0 : ℤ) : ℚ) := by
    rw [max_mul_of_nonneg _ _ (by norm_num), hn, zero_mul]
    push_cast
    rfl
  unfold expectedTotal
  rw [hmax]
  simp only [PyFloat.add, PyFloat.zero, add_zero, PyFloat.round2, hcents, roundHalfEven_int]
  rw [← hcents, mul_div_assoc]
  norm_num

/-- What `create_order` compares: the total of the lines and the client's. -/
structure Totals where
  computed : PyFloat
  client : PyFloat

/-- The block of `create_order` as far as its check. -/
def totalsBlock (env : OrdersEnv) (body : Obj) (customerId : Int) (items : Json) :
    OrderBlock Totals := do
  let customer ← getCustomer env customerId
  let _ ← orReturn (.error "Customer not found") customer
  let items ← attempt items.iterate
  let ids ← attempt (productIds env.py items)
  let products ← getProducts env ids
  let (total, _) ← orderLines env.py products items .zero
  let clientTotal ← attempt (((body.get "total").or (.float .zero)).toFloat env.py)
  return ⟨total, clientTotal⟩

/-- The request comes to the check with these totals. -/
structure Reaches (env : OrdersEnv) (request : OrderRequest) (w : World Push) (body : Obj)
    (totals : Totals) : Prop where
  admitted : requireInternalKeyIfConfigured env request = .ok ⟨⟩
  parsed : request.body = .obj body
  connected : env.db.simulateDbDisconnect = false ∧ env.db.hasSessionFactory = true
  compared : ∃ customerId items t,
    ((body.get "customer_id").or (.int 0)).toInt env.py = .ok customerId ∧
    orderItems env.py body = .ok items ∧
    totalsBlock env body customerId items ⟨w.db, 0⟩ = (.ok totals, t)

theorem createOrderBlock_totals {env : OrdersEnv} {request : OrderRequest} {body : Obj}
    {customerId : Int} {items : Json} {w t : Work Db} {created : CreatedOrder}
    (h : createOrderBlock env request body customerId items w = (.ok created, t)) :
    ∃ totals m, totalsBlock env body customerId items w = (.ok totals, m) ∧
      created.total = totals.computed ∧
      created.tampered = totalTampered totals.client totals.computed := by
  simp only [createOrderBlock, Tx.bind_ok_iff, Tx.pure_ok_iff] at h
  obtain ⟨customer, m₁, hcustomer, found, m₂, hfound, xs, m₃, hxs, ids, m₄, hids, products, m₅,
    hproducts, ⟨total, lines⟩, m₆, hlines, hrest⟩ := h
  obtain ⟨clientTotal, m₇, hclient, _, _, _, _, _, _, _, _, _, _, _, _, _, _, _, _, _, _, _, _, _,
    hcreated, -⟩ := hrest
  subst hcreated
  refine ⟨⟨total, clientTotal⟩, m₇, ?_, rfl, rfl⟩
  simp only [totalsBlock, Tx.bind_ok_iff, Tx.pure_ok_iff]
  exact ⟨customer, m₁, hcustomer, found, m₂, hfound, xs, m₃, hxs, ids, m₄, hids, products, m₅,
    hproducts, (total, lines), m₆, hlines, clientTotal, m₇, hclient, rfl, rfl⟩

/-- The totals that a request comes to the check with are those of the order that it
creates, if it creates one. -/
theorem Reaches.tampered {env : OrdersEnv} {request : OrderRequest} {w : World Push} {body : Obj}
    {totals : Totals} (reached : Reaches env request w body totals) {customerId : Int}
    {items : Json} (hid : ((body.get "customer_id").or (.int 0)).toInt env.py = .ok customerId)
    (hitems : orderItems env.py body = .ok items) {created : CreatedOrder} {t : Work Db}
    (h : createOrderBlock env request body customerId items ⟨w.db, 0⟩ = (.ok created, t)) :
    created.tampered = totalTampered totals.client totals.computed := by
  obtain ⟨customerId', items', t', hid', hitems', hreached⟩ := reached.compared
  obtain rfl := Except.ok.inj (hid.symm.trans hid')
  obtain rfl := Except.ok.inj (hitems.symm.trans hitems')
  obtain ⟨found, m, hfound, -, htampered⟩ := createOrderBlock_totals h
  obtain rfl : totals = found :=
    Except.ok.inj (congrArg Prod.fst (hreached.symm.trans hfound))
  exact htampered

/-- One purchase, as the feed and as a client state it. The total may be any number but zero. -/
structure SamePurchase (py : Builtins) (products : ProductTable) (raw body : Obj)
    (lines : List Line) (total : ℚ) : Prop where
  items : ∃ items, raw.get "items" = .arr items ∧ body.get "items" = .arr items ∧
    StatesAll py products items lines
  some : lines ≠ []
  noDiscount : orderDiscount py raw = .ok .zero
  noShipping : orderShipping py raw = .ok .zero
  declared : raw.get "total" = body.get "total"
  truthy : (body.get "total").truthy = true
  total : (body.get "total").toFloat py = .ok (.fin total)

section Checks
variable {py : Builtins} {products : ProductTable} {raw body : Obj} {lines : List Line} {total : ℚ}

theorem SamePurchase.listed (same : SamePurchase py products raw body lines total) :
    ∃ items, (itemsValue raw).iterate = .ok items ∧ orderItems py body = .ok (.arr items) ∧
      items ≠ [] ∧ StatesAll py products items lines := by
  obtain ⟨items, hraw, hbody, hstates⟩ := same.items
  have hsome : items ≠ [] := by
    rintro rfl
    exact same.some (List.forall₂_nil_left_iff.mp hstates)
  have htruthy : (Json.arr items).truthy = true := by simpa [Json.truthy] using hsome
  refine ⟨items, ?_, ?_, hsome, hstates⟩
  · unfold itemsValue
    rw [hraw, Json.or_of_truthy htruthy, Json.or_of_truthy htruthy]
    rfl
  · unfold orderItems
    rw [hbody, Json.or_of_truthy htruthy]
    simp only [htruthy, Bool.not_true, Bool.false_and, Bool.false_eq_true, if_false]
    rfl

theorem totalMismatch_iff (same : SamePurchase py products raw body lines total) {now : DateTime}
    {n : NormalizedOrder} (accepted : normalizeExternalOrder py now raw = .ok n) :
    n.totalMismatch = true ↔ max (linesTotal lines) 0 + 1 / 100 < total := by
  obtain ⟨items, computed, discount, shipping, hitems, hlines, hdiscount, hshipping, htotal,
    hmismatch⟩ := normalize_parts accepted
  obtain ⟨found, hfound, -, hsome, hstates⟩ := same.listed
  obtain rfl := Except.ok.inj (hitems.symm.trans hfound)
  obtain rfl := Except.ok.inj (hdiscount.symm.trans same.noDiscount)
  obtain rfl := Except.ok.inj (hshipping.symm.trans same.noShipping)
  have hsum := normalizeItems_total hstates hlines
  rw [zero_add] at hsum
  subst hsum
  have hrows : n.items ≠ [] := by
    intro hnil
    have hnone := normalizeItems_lines hlines
    rw [hnil] at hnone
    exact hsome (List.forall₂_nil_right_iff.mp hnone)
  have htruthy : (raw.get "total").truthy = true := by rw [same.declared, same.truthy]
  rw [totalValue_eq, Json.or_of_truthy htruthy, same.declared,
    coerceFloat_of_toFloat (not_blank_of_truthy same.truthy) same.total] at htotal
  rw [hmismatch, ← Except.ok.inj htotal, expectedTotal_of_cents (linesTotal_cents lines)]
  simp [PyFloat.add, PyFloat.lt, hrows]

theorem totalTampered_iff {env : OrdersEnv} {request : OrderRequest} {w : World Push}
    {totals : Totals} (same : SamePurchase env.py w.db.products raw body lines total)
    (nonzero : total ≠ 0) (reached : Reaches env request w body totals) :
    totalTampered totals.client totals.computed = true ↔ 1 / 100 < |total - linesTotal lines| := by
  obtain ⟨customerId, value, t, -, hvalue, hblock⟩ := reached.compared
  obtain ⟨items, -, hitems, hsome, hstates⟩ := same.listed
  obtain rfl := Except.ok.inj (hitems.symm.trans hvalue)
  simp only [totalsBlock, Tx.bind_ok_iff, attempt_ok_iff, orReturn_ok_iff, Tx.pure_ok_iff] at hblock
  obtain ⟨customer, _, hcustomer, _, _, ⟨-, rfl⟩, xs, _, ⟨hxs, rfl⟩, ids, m₁, ⟨hids, rfl⟩, found,
    m₂, hproducts, ⟨sum, rows⟩, m₃, hlines, clientTotal, _, ⟨hclient, rfl⟩, htotals, -⟩ := hblock
  obtain rfl := Except.ok.inj hxs
  subst htotals
  have hstate : m₁.state = w.db := (getCustomer_reads customerId).state hcustomer
  have hfound : ∀ fields : Obj, Json.obj fields ∈ items →
      (fields.get "product_id").truthy = true →
      ∀ id, (fields.get "product_id").toInt env.py = .ok id →
        found id = rowAt w.db.products id := by
    intro fields hmem hid id hread
    rw [getProducts_ok hproducts, productsAsked, if_pos (productIds_mem hids hmem hid hread),
      hstate]
  have hsum := orderLines_total hstates hfound hlines
  rw [zero_add] at hsum
  dsimp only at hsum
  rw [Json.or_of_truthy same.truthy, same.total] at hclient
  rw [hsum, ← Except.ok.inj hclient]
  simp [totalTampered, PyFloat.truthy, PyFloat.lt, PyFloat.sub, PyFloat.add, PyFloat.neg,
    PyFloat.abs, nonzero, sub_eq_add_neg]

end Checks

/-- The declared total is not below the computed one by more than a cent. The feed's check
takes a negative sum for zero. -/
def NotUnderstated (computed total : ℚ) : Prop :=
  computed - 1 / 100 ≤ total ∧ (computed < 0 → total ≤ computed + 1 / 100 ∨ 1 / 100 < total)

theorem comparisons_agree_iff (computed total : ℚ) :
    (max computed 0 + 1 / 100 < total ↔ 1 / 100 < |total - computed|) ↔
      NotUnderstated computed total := by
  unfold NotUnderstated
  rw [lt_abs]
  rcases lt_or_ge computed 0 with hneg | hpos
  · rw [max_eq_right hneg.le]
    constructor
    · intro h
      by_cases hbig : 1 / 100 < total
      · exact ⟨by linarith, fun _ => Or.inr hbig⟩
      · have hnear : ¬ (1 / 100 < total - computed ∨ 1 / 100 < -(total - computed)) :=
          fun hfar => hbig (by linarith [h.mpr hfar])
        have habove := not_lt.mp fun hfar => hnear (Or.inl hfar)
        have hbelow := not_lt.mp fun hfar => hnear (Or.inr hfar)
        exact ⟨by linarith, fun _ => Or.inl (by linarith)⟩
    · rintro ⟨hlow, hside⟩
      constructor
      · intro h
        exact Or.inl (by linarith)
      · rintro (h | h)
        · rcases hside hneg with hnear | hbig
          · linarith
          · linarith
        · linarith
  · rw [max_eq_left hpos]
    constructor
    · intro h
      refine ⟨?_, fun hneg => absurd hpos (not_le.mpr hneg)⟩
      by_contra hfar
      have := h.mpr (Or.inr (by linarith))
      linarith
    · rintro ⟨hlow, -⟩
      constructor
      · intro h
        exact Or.inl (by linarith)
      · rintro (h | h)
        · linarith
        · linarith

/-- The two checks of one purchase agree exactly if it is not understated; what the check of
the endpoint says is what the created order is marked with. -/
theorem checks_agree_iff {env : OrdersEnv} {request : OrderRequest} {w : World Push}
    {raw body : Obj} {lines : List Line} {total : ℚ} {totals : Totals} {now : DateTime}
    {n : NormalizedOrder} (same : SamePurchase env.py w.db.products raw body lines total)
    (nonzero : total ≠ 0) (accepted : normalizeExternalOrder env.py now raw = .ok n)
    (reached : Reaches env request w body totals) :
    ((n.totalMismatch = true ↔ totalTampered totals.client totals.computed = true) ↔
      NotUnderstated (linesTotal lines) total) ∧
    ∀ customerId items created t,
      ((body.get "customer_id").or (.int 0)).toInt env.py = .ok customerId →
      orderItems env.py body = .ok items →
      createOrderBlock env request body customerId items ⟨w.db, 0⟩ = (.ok created, t) →
        ((n.totalMismatch = true ↔ created.tampered = true) ↔
          NotUnderstated (linesTotal lines) total) := by
  have hagree : (n.totalMismatch = true ↔ totalTampered totals.client totals.computed = true) ↔
      NotUnderstated (linesTotal lines) total := by
    rw [totalMismatch_iff same accepted, totalTampered_iff same nonzero reached,
      comparisons_agree_iff]
  refine ⟨hagree, fun customerId items created t hid hitems hblock => ?_⟩
  rw [reached.tampered hid hitems hblock]
  exact hagree

def sampleItem : Json :=
  .obj [("product_id", .int 1), ("quantity", .int 2), ("unit_price", .int 10)]

def twoMugs : Line := ⟨2, 10, by decide, ⟨1000, by norm_num⟩⟩

def sampleRaw (total : ℚ) : Obj :=
  [("id", .str "9"), ("items", .arr [sampleItem]), ("total", .float (.fin total))]

def sampleBody (total : ℚ) : Obj :=
  [("customer_id", .int 1), ("items", .arr [sampleItem]), ("total", .float (.fin total))]

def mugRequest (total : ℚ) : OrderRequest :=
  { sampleOrderRequest with body := .obj (sampleBody total) }

/-- A database with a customer and a mug. -/
def mugStore : Db :=
  let mug : Product := ⟨none, "Mug", "mug", none, .fin 10, none, none, none, some 1⟩
  { sampleDb with products := ((Table.insert Table.empty mug).map Prod.snd).getD Table.empty }

theorem mugs_states : States sampleOrdersEnv.py mugStore.products
    [("product_id", .int 1), ("quantity", .int 2), ("unit_price", .int 10)] twoMugs where
  productId := by decide
  product := ⟨1, 1, ⟨none, "Mug", "mug", none, .fin 10, none, none, none, some 1⟩, rfl,
    by decide, rfl⟩
  quantity := by decide
  quantityRead := rfl
  unitPrice := by decide

theorem mugs_same (total : ℚ) (nonzero : total ≠ 0) : SamePurchase sampleOrdersEnv.py
    mugStore.products (sampleRaw total) (sampleBody total) [twoMugs] total where
  items := ⟨[sampleItem], rfl, rfl,
    List.Forall₂.cons ⟨_, rfl, mugs_states⟩ List.Forall₂.nil⟩
  some := by simp
  noDiscount := rfl
  noShipping := rfl
  declared := rfl
  truthy := by
    simpa [sampleBody, Obj.get, List.lookup_cons, Json.truthy, PyFloat.truthy] using nonzero
  total := rfl

theorem mugs_reach (total : ℚ) (h : (totalsBlock sampleOrdersEnv (sampleBody total) 1
    (.arr [sampleItem]) ⟨mugStore, 0⟩).1.toOption.any (fun _ => true) = true) :
    ∃ totals, Reaches sampleOrdersEnv (mugRequest total) ⟨mugStore, []⟩ (sampleBody total)
      totals := by
  rcases hblock : totalsBlock sampleOrdersEnv (sampleBody total) 1 (.arr [sampleItem])
    ⟨mugStore, 0⟩ with ⟨result, t⟩
  rw [hblock] at h
  obtain ⟨totals, rfl, -⟩ := exists_ok_of_any h
  exact ⟨totals, rfl, rfl, ⟨rfl, rfl⟩, 1, _, t, rfl, rfl, hblock⟩

/-- Two mugs at ten, declared as fifteen. -/
theorem understatement_passes_feed : ¬ ∀ (env : OrdersEnv) (request : OrderRequest)
    (w : World Push) (raw body : Obj) (lines : List Line) (total : ℚ) (totals : Totals)
    (now : DateTime) (n : NormalizedOrder),
    SamePurchase env.py w.db.products raw body lines total → total ≠ 0 →
    normalizeExternalOrder env.py now raw = .ok n → Reaches env request w body totals →
    (n.totalMismatch = true ↔ totalTampered totals.client totals.computed = true) := by
  intro hall
  have same := mugs_same 15 (by norm_num)
  obtain ⟨n, hn, -⟩ := exists_ok_of_any (p := fun _ : NormalizedOrder => true)
    (show (normalizeExternalOrder sampleOrdersEnv.py 0 (sampleRaw 15)).toOption.any _ = true by
      decide +kernel)
  obtain ⟨totals, hreach⟩ := mugs_reach 15 (by decide +kernel)
  have hagree := hall _ _ _ _ _ _ _ _ _ _ same (by norm_num) hn hreach
  rw [totalMismatch_iff same hn, totalTampered_iff same (by norm_num) hreach,
    comparisons_agree_iff] at hagree
  have hlow := hagree.1
  norm_num [linesTotal, twoMugs] at hlow

/-- Declared as twenty-five, they are noticed on both paths. -/
theorem overstatement_noticed : ∃ n totals,
    normalizeExternalOrder sampleOrdersEnv.py 0 (sampleRaw 25) = .ok n ∧
    Reaches sampleOrdersEnv (mugRequest 25) ⟨mugStore, []⟩ (sampleBody 25) totals ∧
    n.totalMismatch = true ∧ totalTampered totals.client totals.computed = true := by
  have same := mugs_same 25 (by norm_num)
  obtain ⟨n, hn, -⟩ := exists_ok_of_any (p := fun _ : NormalizedOrder => true)
    (show (normalizeExternalOrder sampleOrdersEnv.py 0 (sampleRaw 25)).toOption.any _ = true by
      decide +kernel)
  obtain ⟨totals, hreach⟩ := mugs_reach 25 (by decide +kernel)
  have hlow : NotUnderstated (linesTotal [twoMugs]) 25 := by
    norm_num [NotUnderstated, linesTotal, twoMugs]
  have hmismatch : n.totalMismatch = true := by
    rw [totalMismatch_iff same hn]
    norm_num [linesTotal, twoMugs]
  have hagree := (checks_agree_iff same (by norm_num) hn hreach).1.mpr hlow
  exact ⟨n, totals, hn, hreach, hmismatch, hagree.mp hmismatch⟩

end PriceTampering
