import CrmPortal.JsonText
import CrmPortal.Library.ExpiringRegister
import CrmPortal.Database

/-!
# Customer lookups through a cache

`find_customer_by_email` asks the cache under the lower-cased e-mail and the database
for the e-mail as it was spelled. A customer that is not found is cached as an empty
dict, which a later lookup returns as it is.

Abstractly the cache holds spellings: under each key the e-mail of the lookup that
filled it. The texts of the real cache are what the database says of these.
-/

namespace CustomerCache

open PyValue JsonText ExpiringRegister IdentityTable CrmDatabase

def nullable : Option String → Json
  | some text => .str text
  | none => .null

/-- `float(customer.revenue or 0)`. -/
def revenueOrZero : Option PyFloat → PyFloat
  | some revenue => if revenue.truthy then revenue else .zero
  | none => .zero

def customerDict (id : Nat) (customer : Customer) : Obj :=
  [("id", .int id), ("name", .str customer.name), ("email", .str customer.email),
    ("phone", nullable customer.phone), ("company", nullable customer.company),
    ("industry", nullable customer.industry), ("revenue", .float (revenueOrZero customer.revenue))]

def findByEmailInDb (db : CustomerTable) (email : String) : Option Obj :=
  if email = "" then none
  else (db.find email).bind fun id => (db.row id).map (customerDict id)

/-- `None`, or the dict. -/
def resultJson : Option Obj → Json
  | none => .null
  | some fields => .obj fields

def ttlSeconds : ℚ := 300

/-- Namespace and key. -/
def cacheKey (py : Builtins) (email : String) : String × String :=
  ("crm:customer", "by-email:" ++ py.lower email)

/-- The last value set under each key, with its deadline. -/
abbrev Cache (Value : Type) := String × String → Register Value ℚ

def Cache.empty {Value : Type} : Cache Value := fun _ => none

def Cache.get {Value : Type} (cache : Cache Value) (key : String × String) (now : ℚ) :
    Option Value :=
  (cache key).read now

def Cache.set {Value : Type} (cache : Cache Value) (key : String × String) (value : Value)
    (now : ℚ) : Cache Value :=
  Function.update cache key (some (value, now + ttlSeconds))

/-- What the cache client does in one call: it may answer a get with nothing, and drop
what is set. -/
structure CacheClient where
  answers : Bool
  stores : Bool
  getAt : ℚ
  setAt : ℚ

/-- There is no client without an address of the cache, or without its package. -/
structure Call where
  email : String
  client : Option CacheClient

def Cache.lookup {Value : Type} (cache : Cache Value) (client : CacheClient)
    (key : String × String) : Option Value :=
  if client.answers then cache.get key client.getAt else none

def Cache.store {Value : Type} (cache : Cache Value) (client : CacheClient)
    (key : String × String) (value : Value) : Cache Value :=
  if client.stores then cache.set key value client.setAt else cache

/-- `json.dumps(customer or {}, separators=(",", ":"))`. -/
def body (floats : FloatText) (customer : Option Obj) : String :=
  compactDumps floats (customer.getD [])

section Lookup
variable (py : Builtins) (floats : FloatText) (db : CustomerTable)

def findCustomerByEmail (call : Call) (cache : Cache String) : Json × Cache String :=
  if call.email = "" then (.null, cache)
  else match call.client with
    | none => (resultJson (findByEmailInDb db call.email), cache)
    | some client =>
      let key := cacheKey py call.email
      match (cache.lookup client key).bind (loads floats) with
      | some cached => (cached, cache)
      | none =>
        let customer := findByEmailInDb db call.email
        (resultJson customer, cache.store client key (body floats customer))

/-- The results of a sequence of calls. -/
def results : List Call → Cache String → List Json
  | [], _ => []
  | call :: rest, cache =>
    let (result, cache) := findCustomerByEmail py floats db call cache
    result :: results rest cache

end Lookup

/-- The spelling whose lookup filled the entry that answers the call. -/
def filledBy (py : Builtins) (call : Call) (fills : Cache String) : Option String :=
  if call.email = "" then none
  else call.client.bind fun client => fills.lookup client (cacheKey py call.email)

/-- A call that is not answered fills the entry. -/
def fill (py : Builtins) (call : Call) (fills : Cache String) : Cache String :=
  if call.email = "" then fills
  else match call.client with
    | none => fills
    | some client =>
      let key := cacheKey py call.email
      match fills.lookup client key with
      | some _ => fills
      | none => fills.store client key call.email

/-- Every call that the cache answers finds an entry that was filled under its own
spelling, and a customer has this e-mail. -/
def HitsFaithful (py : Builtins) (db : CustomerTable) : List Call → Cache String → Prop
  | [], _ => True
  | call :: rest, fills =>
    (∀ spelling, filledBy py call fills = some spelling →
      spelling = call.email ∧ (db.find call.email).isSome) ∧
    HitsFaithful py db rest (fill py call fills)

/-- The real cache: under each key the text of what the database says of the spelling. -/
def texts (floats : FloatText) (db : CustomerTable) (fills : Cache String) : Cache String :=
  fun key => (fills key).map fun entry => (body floats (findByEmailInDb db entry.1), entry.2)

section Texts
variable {py : Builtins} {floats : FloatText} {db : CustomerTable} {fills : Cache String}

theorem texts_lookup (client : CacheClient) (key : String × String) :
    (texts floats db fills).lookup client key =
      (fills.lookup client key).map fun spelling => body floats (findByEmailInDb db spelling) := by
  unfold Cache.lookup Cache.get texts
  split
  · exact read_map (fun spelling => body floats (findByEmailInDb db spelling)) (fills key)
      client.getAt
  · rfl

theorem texts_store (client : CacheClient) (key : String × String) (spelling : String) :
    texts floats db (fills.store client key spelling) =
      (texts floats db fills).store client key (body floats (findByEmailInDb db spelling)) := by
  unfold Cache.store
  split
  · funext k
    unfold texts Cache.set
    by_cases hk : k = key
    · subst hk
      rw [Function.update_self, Function.update_self]
      rfl
    · rw [Function.update_of_ne hk, Function.update_of_ne hk]
  · rfl

theorem findByEmailInDb_some_iff {email : String} {fields : Obj} :
    findByEmailInDb db email = some fields ↔ email ≠ "" ∧ ∃ id customer,
      db.row id = some customer ∧ customer.email = email ∧ fields = customerDict id customer := by
  unfold findByEmailInDb
  split
  · next hempty => simp [hempty]
  · next hempty =>
    simp only [Option.bind_eq_some_iff, Option.map_eq_some_iff, Table.find_eq_some_iff, ne_eq,
      hempty, not_false_eq_true, true_and]
    constructor
    · rintro ⟨id, ⟨found, hfound, hkey⟩, customer, hrow, rfl⟩
      obtain rfl := Option.some.inj (hfound.symm.trans hrow)
      exact ⟨id, found, hrow, Option.some.inj hkey, rfl⟩
    · rintro ⟨id, customer, hrow, hemail, rfl⟩
      exact ⟨id, ⟨customer, hrow, congrArg some hemail⟩, customer, hrow, rfl⟩

theorem uniqueKeys_customerDict (id : Nat) (customer : Customer) :
    uniqueKeys (.obj (customerDict id customer)) = true := by
  have hkeys : (customerDict id customer).map Prod.fst =
      ["id", "name", "email", "phone", "company", "industry", "revenue"] := rfl
  have hnullable : ∀ value, uniqueKeys (nullable value) = true := by
    intro value
    cases value <;> rfl
  have hfields : uniqueKeysFields (customerDict id customer) = true := by
    simp only [customerDict, uniqueKeysFields, hnullable]
    rfl
  rw [uniqueKeys, hkeys, hfields]
  decide

theorem loads_body (email : String) :
    loads floats (body floats (findByEmailInDb db email)) =
      some (.obj ((findByEmailInDb db email).getD [])) := by
  apply loads_compactDumps
  cases hfound : findByEmailInDb db email with
  | none => rfl
  | some fields =>
    obtain ⟨-, id, customer, -, -, rfl⟩ := findByEmailInDb_some_iff.mp hfound
    exact uniqueKeys_customerDict id customer

/-- A call on the texts is a call on the spellings. -/
theorem findCustomerByEmail_texts (call : Call) :
    findCustomerByEmail py floats db call (texts floats db fills) =
      (match filledBy py call fills with
        | some spelling => .obj ((findByEmailInDb db spelling).getD [])
        | none => resultJson (findByEmailInDb db call.email),
      texts floats db (fill py call fills)) := by
  unfold findCustomerByEmail filledBy fill
  by_cases hempty : call.email = ""
  · simp [hempty, findByEmailInDb, resultJson]
  · rw [if_neg hempty, if_neg hempty, if_neg hempty]
    cases call.client with
    | none => rfl
    | some client =>
      simp only [Option.bind_some, texts_lookup]
      cases fills.lookup client (cacheKey py call.email) with
      | none => simp [texts_store]
      | some spelling => simp [loads_body]

/-- A cached answer is the one of the database if it was filled under this spelling, for
which there is a customer. -/
theorem hit_eq_iff {email spelling : String} (named : email ≠ "") :
    Json.obj ((findByEmailInDb db spelling).getD []) = resultJson (findByEmailInDb db email) ↔
      spelling = email ∧ (db.find email).isSome := by
  constructor
  · intro h
    cases hfound : findByEmailInDb db email with
    | none =>
      rw [hfound] at h
      cases h
    | some fields =>
      rw [hfound] at h
      obtain ⟨-, id, customer, hrow, hemail, rfl⟩ := findByEmailInDb_some_iff.mp hfound
      have hfind := (db.find_eq_some_iff email id).mpr ⟨customer, hrow, congrArg some hemail⟩
      refine ⟨?_, by rw [hfind]; rfl⟩
      cases hspelled : findByEmailInDb db spelling with
      | none =>
        rw [hspelled] at h
        cases h
      | some other =>
        rw [hspelled] at h
        obtain ⟨-, j, second, -, hsecond, rfl⟩ := findByEmailInDb_some_iff.mp hspelled
        have hdict : customerDict j second = customerDict id customer := Json.obj.inj h
        have hsame : second.email = customer.email := by
          have hemails := congrArg (List.lookup "email") hdict
          exact Json.str.inj (Option.some.inj hemails)
        rw [← hsecond, hsame, hemail]
  · rintro ⟨rfl, hsome⟩
    obtain ⟨id, hid⟩ := Option.isSome_iff_exists.mp hsome
    obtain ⟨customer, hrow, hkey⟩ := (db.find_eq_some_iff _ _).mp hid
    have hfound : findByEmailInDb db spelling = some (customerDict id customer) :=
      findByEmailInDb_some_iff.mpr ⟨named, id, customer, hrow, Option.some.inj hkey, rfl⟩
    rw [hfound]
    rfl

theorem filledBy_named {call : Call} {spelling : String}
    (h : filledBy py call fills = some spelling) : call.email ≠ "" := by
  intro hempty
  rw [filledBy, if_pos hempty] at h
  cases h

theorem results_eq_iff (calls : List Call) (fills : Cache String) :
    results py floats db calls (texts floats db fills) =
        calls.map (fun call => resultJson (findByEmailInDb db call.email)) ↔
      HitsFaithful py db calls fills := by
  induction calls generalizing fills with
  | nil => exact ⟨fun _ => trivial, fun _ => rfl⟩
  | cons call rest ih =>
    rw [results, findCustomerByEmail_texts, List.map_cons, List.cons_eq_cons, ih, HitsFaithful]
    apply and_congr_left
    intro _
    cases hfilled : filledBy py call fills with
    | none => simp
    | some spelling =>
      have hhit : Json.obj ((findByEmailInDb db spelling).getD []) =
          resultJson (findByEmailInDb db call.email) ↔
            spelling = call.email ∧ (db.find call.email).isSome :=
        hit_eq_iff (filledBy_named hfilled)
      simpa using hhit

end Texts

/-- From an empty cache, every call returns what the database returns for its spelling,
just in case the hits are faithful. -/
theorem lookups_transparent_iff (py : Builtins) (floats : FloatText) (db : CustomerTable)
    (calls : List Call) :
    results py floats db calls Cache.empty =
        calls.map (fun call => resultJson (findByEmailInDb db call.email)) ↔
      HitsFaithful py db calls Cache.empty :=
  results_eq_iff calls Cache.empty

def ghostLookups : List Call :=
  [⟨"ghost@x", some ⟨true, true, 0, 0⟩⟩, ⟨"ghost@x", some ⟨true, true, 1, 1⟩⟩]

/-- There is no customer at all, and the second lookup finds the marker of the first. -/
theorem ghost_found_at_second_lookup :
    results (asciiBuiltins id) plainFloats Table.empty ghostLookups Cache.empty ≠
      ghostLookups.map fun call => resultJson (findByEmailInDb Table.empty call.email) := by
  intro hsame
  have hfaithful := (results_eq_iff ghostLookups Cache.empty).mp hsame
  have hfilled : filledBy (asciiBuiltins id) ⟨"ghost@x", some ⟨true, true, 1, 1⟩⟩
      (fill (asciiBuiltins id) ⟨"ghost@x", some ⟨true, true, 0, 0⟩⟩ Cache.empty) =
        some "ghost@x" := by decide +kernel
  obtain ⟨-, hsome⟩ := hfaithful.2.1 "ghost@x" hfilled
  cases hsome

end CustomerCache
