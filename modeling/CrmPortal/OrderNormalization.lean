import CrmPortal.PyValue

/-!
# Normalising a raw external order

`_normalize_external_order` reads a JSON object of any shape. It is cut here
where the source moves on to the next field, and `Normalizable` lists what a raw
order must satisfy for none of the conversions on the way to raise.
-/

namespace OrderNormalization

open PyValue

/-- `BACKLOG_STATUSES`. -/
def backlogStatuses : List String :=
  ["pending", "processing", "backlog", "queued", "awaiting_fulfillment"]

structure NormalizedItem where
  productRef : Json
  productName : Json
  quantity : Int
  unitPrice : PyFloat

/-- The dict that the normaliser returns. `totalMismatch` records whether the
"External order total mismatch detected" event was logged on the way. -/
structure NormalizedOrder where
  sourceOrderId : String
  customerEmail : String
  customerName : Json
  status : String
  shippingAddress : Json
  createdAt : DateTime
  lastSyncedAt : DateTime
  total : PyFloat
  notes : Json
  backlogStatus : String
  items : List NormalizedItem
  payload : Obj
  totalMismatch : Bool

/-- `_parse_dt`: a string that does not parse, or anything else, gives the
current time, and an offset is dropped without being applied. -/
def parseDt (py : Builtins) (now : DateTime) : Json → DateTime
  | .str s =>
    if s = "" then now
    else match py.fromisoformat (s.replace "Z" "+00:00") with
      | some stamp => stamp.wall
      | none => now
  | _ => now

/-- `email.split("@")[0].replace(".", " ").title()`. -/
def nameFromEmail (py : Builtins) (email : String) : String :=
  let first := email.toList.takeWhile (fun c => decide (c ≠ '@'))
  py.title (String.ofList (first.map fun c => if c = '.' then ' ' else c))

def customerValue (raw : Obj) : Json := (raw.get "customer").or (.obj [])

def emailValue (raw customer : Obj) : Json :=
  (((raw.get "customer_email").or (customer.get "email")).or (raw.get "email")).or (.str "")

def itemsValue (raw : Obj) : Json := ((raw.get "items").or (raw.get "lines")).or (.arr [])

def quantityValue (item : Obj) : Json :=
  ((item.get "quantity").or (item.get "qty")).or (.int 1)

def priceValue (item : Obj) : Json :=
  ((item.get "unit_price").or (item.get "price")).or (.float .zero)

def normalizeItem (py : Builtins) (item : Json) : Except PyExc NormalizedItem := do
  let item ← item.asDict
  let quantity ← (quantityValue item).toInt py
  let unitPrice ← coerceFloat py (priceValue item)
  return {
    productRef :=
      (((item.get "product_id").or (item.get "sku")).or (item.get "product_sku")).or
        (item.get "name")
    productName := ((item.get "product_name").or (item.get "name")).or (.str "Synced Item")
    quantity := quantity
    unitPrice := unitPrice }

/-- The item loop, with `computed_total` as its accumulator. -/
def normalizeItems (py : Builtins) :
    List Json → PyFloat → Except PyExc (PyFloat × List NormalizedItem)
  | [], computedTotal => return (computedTotal, [])
  | item :: rest, computedTotal => do
    let line ← normalizeItem py item
    let price ← PyFloat.intMul line.quantity line.unitPrice
    let (total, lines) ← normalizeItems py rest (computedTotal.add price)
    return (total, line :: lines)

/-- `(raw.get(outer) or {}).get(inner)`. -/
def nested (raw : Obj) (outer inner : String) : Except PyExc Json := do
  let d ← ((raw.get outer).or (.obj [])).asDict
  return d.get inner

def orderDiscount (py : Builtins) (raw : Obj) : Except PyExc PyFloat := do
  let v ← ((raw.get "discount").or (raw.get "discount_amount")).orElse
    fun _ => nested raw "coupon" "discount"
  coerceFloat py (v.or (.float .zero))

def orderShipping (py : Builtins) (raw : Obj) : Except PyExc PyFloat := do
  let cost ← ((raw.get "shipping_cost").or (.float .zero)).toFloat py
  if cost.le .zero then
    let v ← (raw.get "shipping_amount").orElse fun _ => nested raw "shipment" "shipping_cost"
    coerceFloat py (v.or (.float .zero))
  else
    return cost

def expectedTotal (computedTotal discount shipping : PyFloat) : PyFloat :=
  ((PyFloat.pyMax (computedTotal.sub discount) .zero).add shipping).round2

def totalValue (raw : Obj) (expected : PyFloat) : Json :=
  (((raw.get "total").or (raw.get "amount")).or (.float expected)).or (.float .zero)

def sourceOrderId (py : Builtins) (raw : Obj) : String :=
  Json.toStr py
    ((((raw.get "id").or (raw.get "order_id")).or (raw.get "number")).or (.str ""))

def orderStatus (py : Builtins) (raw : Obj) : String :=
  py.lower (Json.toStr py ((raw.get "status").or (.str "pending")))

def backlogStatus (status : String) : String :=
  if status ∈ backlogStatuses then "backlog" else "current"

/-- `_normalize_external_order` at the time `now`. -/
def normalizeExternalOrder (py : Builtins) (now : DateTime) (raw : Obj) :
    Except PyExc NormalizedOrder := do
  let customer ← (customerValue raw).asDict
  let email ← (emailValue raw customer).asStr
  let items ← (itemsValue raw).iterate
  let (computedTotal, lines) ← normalizeItems py items .zero
  let discount ← orderDiscount py raw
  let shipping ← orderShipping py raw
  let expected := expectedTotal computedTotal discount shipping
  let total ← coerceFloat py (totalValue raw expected)
  let customerEmail := py.lower (py.strip email)
  let status := orderStatus py raw
  return {
    sourceOrderId := sourceOrderId py raw
    customerEmail := customerEmail
    customerName := ((((customer.get "name").or (raw.get "customer_name")).or (raw.get "name")).or
      (.str (nameFromEmail py customerEmail))).or (.str "External Customer")
    status := status
    shippingAddress := ((raw.get "shipping_address").or (customer.get "address")).or (.str "")
    createdAt := parseDt py now
      (((raw.get "created_at").or (raw.get "created")).or (raw.get "submitted_at"))
    lastSyncedAt := now
    total := total
    notes := ((raw.get "notes").or (raw.get "comment")).or (.str "")
    backlogStatus := backlogStatus status
    items := lines
    payload := raw
    totalMismatch := !lines.isEmpty && PyFloat.lt (expected.add (.fin (1 / 100))) total }

structure ItemConvertible (py : Builtins) (item : Json) : Prop where
  dict : ∃ fields, item = .obj fields
  quantity : ∀ fields, item = .obj fields →
    ∃ n, (quantityValue fields).toInt py = .ok n ∧ n.natAbs < PyFloat.intLimit
  price : ∀ fields, item = .obj fields → ¬ HugeInt (priceValue fields)

/-- The value under `outer` is only looked into when the fields before it are empty. -/
def NestedOk (raw : Obj) (first : Json) (outer inner : String) : Prop :=
  ¬ HugeInt (first.or (.float .zero)) ∧ (first.truthy = false →
    ∃ d : Obj, (raw.get outer).or (.obj []) = .obj d ∧ ¬ HugeInt ((d.get inner).or (.float .zero)))

structure Normalizable (py : Builtins) (raw : Obj) : Prop where
  customer : ∃ fields, customerValue raw = .obj fields
  email : ∀ fields, customerValue raw = .obj fields → ∃ s, emailValue raw fields = .str s
  items : ∃ xs, (itemsValue raw).iterate = .ok xs ∧ ∀ x ∈ xs, ItemConvertible py x
  discount : NestedOk raw ((raw.get "discount").or (raw.get "discount_amount")) "coupon" "discount"
  shipping : ∃ cost, ((raw.get "shipping_cost").or (.float .zero)).toFloat py = .ok cost ∧
    (cost.le .zero = true → NestedOk raw (raw.get "shipping_amount") "shipment" "shipping_cost")
  total : ¬ HugeInt ((raw.get "total").or (raw.get "amount"))

theorem normalizeItem_ok_iff (py : Builtins) (item : Json) :
    (∃ line, normalizeItem py item = .ok line ∧ line.quantity.natAbs < PyFloat.intLimit) ↔
      ItemConvertible py item := by
  constructor
  · rintro ⟨line, h, hsmall⟩
    simp only [normalizeItem, bind_ok_iff, Json.asDict_ok_iff] at h
    obtain ⟨fields, rfl, n, hn, x, hx, hline⟩ := h
    cases hline
    refine ⟨⟨fields, rfl⟩, ?_, ?_⟩
    · rintro fields' ⟨⟩
      exact ⟨n, hn, hsmall⟩
    · rintro fields' ⟨⟩
      exact (coerceFloat_ok_iff py _).mp ⟨x, hx⟩
  · rintro ⟨⟨fields, rfl⟩, hq, hp⟩
    obtain ⟨n, hn, hsmall⟩ := hq fields rfl
    obtain ⟨x, hx⟩ := (coerceFloat_ok_iff py _).mpr (hp fields rfl)
    simp only [normalizeItem, bind_ok_iff, Json.asDict_ok_iff]
    exact ⟨_, ⟨fields, rfl, n, hn, x, hx, rfl⟩, hsmall⟩

theorem normalizeItems_ok_iff (py : Builtins) (items : List Json) (computedTotal : PyFloat) :
    (∃ r, normalizeItems py items computedTotal = .ok r) ↔
      ∀ x ∈ items, ItemConvertible py x := by
  induction items generalizing computedTotal with
  | nil => exact ⟨fun _ x hx => absurd hx List.not_mem_nil, fun _ => ⟨_, rfl⟩⟩
  | cons item rest ih =>
    simp only [List.forall_mem_cons, ← normalizeItem_ok_iff py item]
    constructor
    · rintro ⟨r, h⟩
      simp only [normalizeItems, bind_ok_iff] at h
      obtain ⟨line, hline, price, hprice, tail, htail, _⟩ := h
      have hsmall := (intMul_ok_iff line.quantity line.unitPrice).mp ⟨price, hprice⟩
      exact ⟨⟨line, hline, hsmall⟩, (ih _).mp ⟨tail, htail⟩⟩
    · rintro ⟨⟨line, hline, hsmall⟩, hrest⟩
      obtain ⟨price, hprice⟩ := (intMul_ok_iff line.quantity line.unitPrice).mpr hsmall
      obtain ⟨tail, htail⟩ := (ih (computedTotal.add price)).mpr hrest
      refine ⟨(tail.1, line :: tail.2), ?_⟩
      simp only [normalizeItems, bind_ok_iff]
      exact ⟨line, hline, price, hprice, tail, htail, rfl⟩

/-- One lemma for the discount and for the shipping fall-back. -/
theorem nested_ok_iff (py : Builtins) (raw : Obj) (first : Json) (outer inner : String) :
    (∃ x, (do
      let v ← first.orElse fun _ => nested raw outer inner
      coerceFloat py (v.or (.float .zero))) = .ok x) ↔ NestedOk raw first outer inner := by
  unfold NestedOk
  by_cases ht : first.truthy = true
  · have step : first.orElse (fun _ => nested raw outer inner) = .ok first := by
      simp [Json.orElse, ht]
    rw [step, ← coerceFloat_ok_iff py]
    simp only [bind_ok_iff, ht]
    constructor
    · rintro ⟨x, v, hv, hx⟩
      obtain rfl : first = v := Except.ok.inj hv
      exact ⟨⟨x, hx⟩, fun h => by cases h⟩
    · rintro ⟨⟨x, hx⟩, _⟩
      exact ⟨x, first, rfl, hx⟩
  · have hf : first.truthy = false := by simpa using ht
    have step : first.orElse (fun _ => nested raw outer inner) = nested raw outer inner := by
      simp [Json.orElse, hf]
    have small : ¬ HugeInt (first.or (.float .zero)) := by
      rw [Json.or_of_falsy hf]
      rintro ⟨n, hn, _⟩
      cases hn
    rw [step]
    simp only [bind_ok_iff, nested, Json.asDict_ok_iff, hf]
    constructor
    · rintro ⟨x, v, ⟨d, hd, hv⟩, hx⟩
      obtain rfl : d.get inner = v := Except.ok.inj hv
      exact ⟨small, fun _ => ⟨d, hd, (coerceFloat_ok_iff py _).mp ⟨x, hx⟩⟩⟩
    · rintro ⟨_, h⟩
      obtain ⟨d, hd, hv⟩ := h trivial
      obtain ⟨x, hx⟩ := (coerceFloat_ok_iff py _).mpr hv
      exact ⟨x, _, ⟨d, hd, rfl⟩, hx⟩

theorem orderDiscount_ok_iff (py : Builtins) (raw : Obj) :
    (∃ x, orderDiscount py raw = .ok x) ↔
      NestedOk raw ((raw.get "discount").or (raw.get "discount_amount")) "coupon" "discount" :=
  nested_ok_iff py raw _ "coupon" "discount"

theorem orderShipping_ok_iff (py : Builtins) (raw : Obj) :
    (∃ x, orderShipping py raw = .ok x) ↔
      ∃ cost, ((raw.get "shipping_cost").or (.float .zero)).toFloat py = .ok cost ∧
        (cost.le .zero = true →
          NestedOk raw (raw.get "shipping_amount") "shipment" "shipping_cost") := by
  simp only [orderShipping, bind_ok_iff]
  constructor
  · rintro ⟨x, cost, hcost, h⟩
    refine ⟨cost, hcost, fun hle => (nested_ok_iff py raw _ _ _).mp ⟨x, ?_⟩⟩
    simpa only [hle, if_true] using h
  · rintro ⟨cost, hcost, h⟩
    by_cases hle : cost.le .zero = true
    · obtain ⟨x, hx⟩ := (nested_ok_iff py raw _ _ _).mpr (h hle)
      exact ⟨x, cost, hcost, by simpa only [hle, if_true] using hx⟩
    · exact ⟨cost, cost, hcost, by simp only [hle]; rfl⟩

/-- The computed total never makes the declared one raise. -/
theorem hugeInt_totalValue (raw : Obj) (expected : PyFloat) :
    HugeInt (totalValue raw expected) ↔ HugeInt ((raw.get "total").or (raw.get "amount")) := by
  unfold totalValue
  generalize (raw.get "total").or (raw.get "amount") = v
  by_cases ht : v.truthy = true
  · rw [Json.or_of_truthy ht, Json.or_of_truthy ht]
  · have hf : v.truthy = false := by simpa using ht
    rw [Json.or_of_falsy hf]
    constructor
    · rintro ⟨n, hn, _⟩
      unfold Json.or at hn
      split at hn <;> cases hn
    · rintro ⟨n, rfl, hn⟩
      have hzero : n = 0 := by simpa [Json.truthy] using hf
      subst hzero
      exact absurd hn (by decide)

/-- The normaliser raises nothing on exactly the raw orders that satisfy every
condition of `Normalizable`. -/
theorem normalizeExternalOrder_ok_iff (py : Builtins) (now : DateTime) (raw : Obj) :
    (∃ n, normalizeExternalOrder py now raw = .ok n) ↔ Normalizable py raw := by
  constructor
  · rintro ⟨n, h⟩
    simp only [normalizeExternalOrder, bind_ok_iff, Json.asDict_ok_iff, Json.asStr_ok_iff] at h
    obtain ⟨customer, hc, email, he, xs, hxs, r, hr, d, hd, s, hs, t, ht, _⟩ := h
    refine ⟨⟨customer, hc⟩, ?_, ⟨xs, hxs, ?_⟩, ?_, ?_, ?_⟩
    · intro fields hf
      obtain rfl : customer = fields := Json.obj.inj (hc.symm.trans hf)
      exact ⟨email, he⟩
    · exact (normalizeItems_ok_iff py xs _).mp ⟨r, hr⟩
    · exact (orderDiscount_ok_iff py raw).mp ⟨d, hd⟩
    · exact (orderShipping_ok_iff py raw).mp ⟨s, hs⟩
    · exact fun hbig => (coerceFloat_ok_iff py _).mp ⟨t, ht⟩ ((hugeInt_totalValue raw _).mpr hbig)
  · rintro ⟨⟨customer, hc⟩, hemail, ⟨xs, hxs, hitems⟩, hdiscount, hshipping, htotal⟩
    obtain ⟨email, he⟩ := hemail customer hc
    obtain ⟨r, hr⟩ := (normalizeItems_ok_iff py xs .zero).mpr hitems
    obtain ⟨d, hd⟩ := (orderDiscount_ok_iff py raw).mpr hdiscount
    obtain ⟨s, hs⟩ := (orderShipping_ok_iff py raw).mpr hshipping
    obtain ⟨t, ht⟩ := (coerceFloat_ok_iff py (totalValue raw (expectedTotal r.1 d s))).mpr
      (fun hbig => htotal ((hugeInt_totalValue raw _).mp hbig))
    simp only [normalizeExternalOrder, bind_ok_iff, Json.asDict_ok_iff, Json.asStr_ok_iff]
    exact ⟨_, customer, hc, email, he, xs, hxs, r, hr, d, hd, s, hs, t, ht, rfl⟩

/-- Two results of normalising one raw order at different times. -/
structure SameButStamps (a b : NormalizedOrder) : Prop where
  same : { a with createdAt := b.createdAt, lastSyncedAt := b.lastSyncedAt } = b

theorem normalizeExternalOrder_restamp {py : Builtins} {now later : DateTime} {raw : Obj}
    {n : NormalizedOrder} (h : normalizeExternalOrder py now raw = .ok n) :
    ∃ m, normalizeExternalOrder py later raw = .ok m ∧ SameButStamps n m := by
  simp only [normalizeExternalOrder, bind_ok_iff, Json.asDict_ok_iff, Json.asStr_ok_iff] at h ⊢
  obtain ⟨customer, hc, email, he, xs, hxs, r, hr, d, hd, s, hs, t, ht, hn⟩ := h
  cases hn
  exact ⟨_, ⟨customer, hc, email, he, xs, hxs, r, hr, d, hd, s, hs, t, ht, rfl⟩, ⟨rfl⟩⟩

theorem normalize_sourceOrderId {py : Builtins} {now : DateTime} {raw : Obj}
    {n : NormalizedOrder} (h : normalizeExternalOrder py now raw = .ok n) :
    n.sourceOrderId = sourceOrderId py raw := by
  simp only [normalizeExternalOrder, bind_ok_iff] at h
  obtain ⟨_, _, _, _, _, _, _, _, _, _, _, _, _, _, hn⟩ := h
  cases hn
  rfl

/-- The normaliser derives the backlog flag from the status it returns. -/
theorem normalize_backlogStatus {py : Builtins} {now : DateTime} {raw : Obj}
    {n : NormalizedOrder} (h : normalizeExternalOrder py now raw = .ok n) :
    n.backlogStatus = backlogStatus n.status := by
  simp only [normalizeExternalOrder, bind_ok_iff] at h
  obtain ⟨_, _, _, _, _, _, _, _, _, _, _, _, _, _, hn⟩ := h
  cases hn
  rfl

end OrderNormalization
