import CrmPortal.Customers

/-!
# The values of a body in the columns

What is stored for the JSON values of a request by the handlers that take them as they are:
the driver binds them, or the statement fails.
-/

namespace ColumnValues

open PyValue IdentityTable CrmDatabase Customers

/-- The statuses that handlers compare with. -/
def milestones : List String := ["qualified", "converted", "delivered"]

/-- `takesParameter` is what the driver sends with a text statement, before a row is looked
for. A number that a driver stores in a text column does not read as a milestone. -/
structure BodyEnv extends CustomersEnv where
  bindDateTime : Json → Option DateTime
  takesParameter : Json → Bool
  now : DateTime
  bindText_milestone : ∀ column v, ∀ text ∈ milestones,
    backend.bindText column v = some text → v = .str text

/-- A nullable reference: what the driver binds must be the id of a row that is there. -/
def bindReference (backend : Backend) (there : Nat → Bool) : Json → Except PyExc (Option Nat)
  | .null => .ok none
  | v => match backend.bindInt v with
    | none => .error .dataError
    | some (.ofNat id) => if there id then .ok (some id) else .error .integrityError
    | some (.negSucc _) => .error .integrityError

def bindNullableInt (backend : Backend) : Json → Except PyExc (Option Int)
  | .null => .ok none
  | v => orDataError ((backend.bindInt v).map some)

def BodyEnv.bindNullableDateTime (env : BodyEnv) : Json → Except PyExc (Option DateTime)
  | .null => .ok none
  | v => orDataError ((env.bindDateTime v).map some)

def BodyEnv.bindNullableText (env : BodyEnv) (column : ColumnType) (v : Json) :
    Except PyExc (Option String) :=
  orDataError (env.backend.bindNullable column v)

/-- `key in body`. -/
def inBody (body : Obj) (key : String) : Bool := body.any fun field => decide (field.1 = key)

/-- A column that is only set where the body has it. -/
def replaced {Value : Type} (body : Obj) (key : String) (bound : Json → Except PyExc Value)
    (old : Value) : Except PyExc Value :=
  if inBody body key then bound (body.get key) else .ok old

/-- `v == text`. -/
def isText (text : String) : Json → Bool
  | .str s => decide (s = text)
  | _ => false

/-- `body.get("status", "")`. -/
def newStatus (body : Obj) : Json := body.getD "status" (.str "")

/-- The tables of these handlers have no unique key. -/
def noKey {Row : Type} (_ : Row) : Option Empty := none

theorem noKey_keeps {Row : Type} (f : Row → Row) (r : Row) : noKey (f r) = noKey r := rfl

theorem bindReference_int {backend : Backend} {there : Nat → Bool} {n : Int} {ref : Option Nat}
    (h : bindReference backend there (.int n) = .ok ref) :
    ∃ id : Nat, n = id ∧ ref = some id ∧ there id = true := by
  simp only [bindReference] at h
  split at h
  · cases h
  · next id hbind =>
    obtain rfl := backend.bindInt_int n _ hbind
    split at h
    · next hthere => exact ⟨id, rfl, (Except.ok.inj h).symm, hthere⟩
    · cases h
  · cases h

theorem isText_iff {text : String} {v : Json} : isText text v = true ↔ v = .str text := by
  cases v with
  | str s => simp [isText]
  | _ => simp [isText]

/-- A milestone is stored for the string that names it, and for nothing else. -/
theorem stored_iff {env : BodyEnv} {column : ColumnType} {v : Json} {status : Option String}
    {text : String} (h : env.bindNullableText column v = .ok status) (htext : text ∈ milestones) :
    status = some text ↔ v = .str text := by
  simp only [BodyEnv.bindNullableText, orDataError] at h
  split at h
  · next stored hbind =>
    obtain rfl := Except.ok.inj h
    constructor
    · rintro rfl
      cases v with
      | null => cases hbind
      | _ =>
        obtain ⟨bound, hbound, hsame⟩ := Option.map_eq_some_iff.mp hbind
        obtain rfl := Option.some.inj hsame
        exact env.bindText_milestone _ _ _ htext hbound
    · rintro rfl
      obtain ⟨bound, hbound, rfl⟩ := Option.map_eq_some_iff.mp hbind
      rw [env.backend.bindText_str _ _ _ hbound]
  · cases h

theorem rowAt_eq_some {Row Key : Type} {key : Row → Option Key} {t : Table Row key} {n : Int}
    {id : Nat} {r : Row} (h : Orders.rowAt t n = some (id, r)) : n = id ∧ t.row id = some r := by
  cases n with
  | ofNat m =>
    obtain ⟨s, hs, hpair⟩ := Option.map_eq_some_iff.mp h
    obtain ⟨rfl, rfl⟩ := Prod.mk.inj hpair
    exact ⟨rfl, hs⟩
  | negSucc m => cases h

/-- The drivers and the clock of the samples. -/
def sampleBodyEnv : BodyEnv where
  py := asciiBuiltins fun _ => ""
  backend := postgres
  bindFloat := fun v => match v with
    | .float x => some x
    | _ => none
  faults := fun _ => none
  bindDateTime := fun _ => none
  takesParameter := fun _ => true
  now := 0
  bindText_milestone := by
    intro column v text _ h
    cases v with
    | str s => rw [postgres.bindText_str _ _ _ h]
    | _ => cases h

end ColumnValues
