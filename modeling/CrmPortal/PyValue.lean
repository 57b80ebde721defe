import CrmPortal.Library.BinaryRounding
import Mathlib.Data.Rat.Floor
import Mathlib.Algebra.Order.Floor.Ring
import Mathlib.Algebra.Order.Round

/-!
# JSON values and the Python built-ins applied to them

Requests and feed entries arrive as JSON of any shape, and the code converts
them with `or`, `int()`, `float()`, `str()` and `dict.get`, each of which has its
own idea of what it accepts. Arithmetic on floats is exact: a finite value is a
rational and carries no rounding. Only `float()` of an integer rounds, to 53 bits.
Built-ins that rest on Unicode tables, a number grammar or
a hash are a parameter, `Builtins`, over which every result quantifies.
-/

namespace PyValue

/-- Naive timestamps, in microseconds. -/
abbrev DateTime := Int

inductive PyExc where
  | typeError
  | valueError
  | attributeError
  | overflowError
  | integrityError
  | dataError
  | staleDataError
  | statementError
  | connectionError
  | runtimeError
  | nameError (name : String)
  | httpException (status : Nat)
  deriving DecidableEq, Repr

inductive PyFloat where
  | fin (q : ℚ)
  | inf
  | ninf
  | nan
  deriving DecidableEq

namespace PyFloat

def zero : PyFloat := .fin 0

/-- 2^1024 - 2^970: from this size on `float(n)` rounds to infinity, and raises. -/
def intLimit : Nat := (2 ^ 54 - 1) * (2 ^ 194) ^ 5

/-- The integer that `float(n)` stands for. -/
def nearestInt (n : Int) : Int := n.sign * BinaryRounding.nearest 53 n.natAbs

/-- `float(n)`. -/
def ofInt (n : Int) : Except PyExc PyFloat :=
  if n.natAbs < intLimit then .ok (.fin (nearestInt n)) else .error .overflowError

def truthy : PyFloat → Bool
  | .fin q => decide (q ≠ 0)
  | _ => true

/-- `a < b`; every comparison with a NaN is false. -/
def lt : PyFloat → PyFloat → Bool
  | .fin a, .fin b => decide (a < b)
  | .fin _, .inf => true
  | .ninf, .fin _ => true
  | .ninf, .inf => true
  | _, _ => false

def le : PyFloat → PyFloat → Bool
  | .fin a, .fin b => decide (a ≤ b)
  | .nan, _ => false
  | _, .nan => false
  | _, .inf => true
  | .ninf, _ => true
  | _, _ => false

def neg : PyFloat → PyFloat
  | .fin q => .fin (-q)
  | .inf => .ninf
  | .ninf => .inf
  | .nan => .nan

def add : PyFloat → PyFloat → PyFloat
  | .fin a, .fin b => .fin (a + b)
  | .nan, _ => .nan
  | _, .nan => .nan
  | .inf, .ninf => .nan
  | .ninf, .inf => .nan
  | .inf, _ => .inf
  | _, .inf => .inf
  | .ninf, _ => .ninf
  | _, .ninf => .ninf

def sub (a b : PyFloat) : PyFloat := add a (neg b)

/-- An infinity times a finite value takes the sign of that value. -/
def infTimes (positive : Bool) (q : ℚ) : PyFloat :=
  if q = 0 then .nan else if decide (0 < q) = positive then .inf else .ninf

def mul : PyFloat → PyFloat → PyFloat
  | .fin a, .fin b => .fin (a * b)
  | .nan, _ => .nan
  | _, .nan => .nan
  | .inf, .fin q => infTimes true q
  | .fin q, .inf => infTimes true q
  | .ninf, .fin q => infTimes false q
  | .fin q, .ninf => infTimes false q
  | .inf, .inf => .inf
  | .ninf, .ninf => .inf
  | .inf, .ninf => .ninf
  | .ninf, .inf => .ninf

/-- `max(a, b)` keeps its first argument unless the second one is greater. -/
def pyMax (a b : PyFloat) : PyFloat := if lt a b then b else a

def abs : PyFloat → PyFloat
  | .fin q => .fin |q|
  | .nan => .nan
  | _ => .inf

/-- The nearest integer, ties to the even one. -/
def roundHalfEven (q : ℚ) : ℤ :=
  let below := ⌊q⌋
  let rest := q - below
  if rest < 1 / 2 then below
  else if 1 / 2 < rest then below + 1
  else if below % 2 = 0 then below else below + 1

/-- `round(x, 2)`. -/
def round2 : PyFloat → PyFloat
  | .fin q => .fin (roundHalfEven (q * 100) / 100)
  | x => x

/-- `int(x)` truncates towards zero. -/
def toInt : PyFloat → Except PyExc Int
  | .fin q => .ok (q.num.tdiv q.den)
  | .nan => .error .valueError
  | _ => .error .overflowError

/-- `n * x`: the integer is converted first, and raises where no float is near it. The
product is exact like all arithmetic here. -/
def intMul (n : Int) (x : PyFloat) : Except PyExc PyFloat :=
  if n.natAbs < intLimit then .ok (mul (.fin n) x) else .error .overflowError

end PyFloat

inductive Json where
  | null
  | bool (b : Bool)
  | int (n : Int)
  | float (x : PyFloat)
  | str (s : String)
  | arr (elements : List Json)
  | obj (fields : List (String × Json))

/-- A Python dict read from JSON. -/
abbrev Obj := List (String × Json)

/-- `d.get(key)`. -/
def Obj.get (d : Obj) (key : String) : Json :=
  match List.lookup key d with
  | some v => v
  | none => .null

/-- `d.get(key, default)`. -/
def Obj.getD (d : Obj) (key : String) (default : Json) : Json :=
  (List.lookup key d).getD default

structure IsoStamp where
  wall : DateTime
  offset : Option Int

/-- Library functions that are not spelled out here. `repr` is `str()` of a float,
a list or a dict, `md5` the first eight hex digits in upper case, `fromisoformat`
the parser of the standard library (`none` where it raises ValueError). -/
structure Builtins where
  lower : String → String
  upper : String → String
  strip : String → String
  title : String → String
  repr : Json → String
  parseInt : String → Option Int
  parseFloat : String → Option PyFloat
  fromisoformat : String → Option IsoStamp
  dumps : Json → String
  md5 : String → String

namespace Json

def truthy : Json → Bool
  | .null => false
  | .bool b => b
  | .int n => decide (n ≠ 0)
  | .float x => x.truthy
  | .str s => decide (s ≠ "")
  | .arr xs => !xs.isEmpty
  | .obj fs => !fs.isEmpty

/-- `a or b`, with the right side not evaluated after a truthy left side. -/
def orElse (a : Json) (b : Unit → Except PyExc Json) : Except PyExc Json :=
  if a.truthy then .ok a else b ()

def or (a b : Json) : Json := if a.truthy then a else b

/-- `v` where `get` is called next: only a dict has it. -/
def asDict : Json → Except PyExc Obj
  | .obj fs => .ok fs
  | _ => .error .attributeError

/-- `v` where a `str` method is called next. -/
def asStr : Json → Except PyExc String
  | .str s => .ok s
  | _ => .error .attributeError

/-- `for x in v`: a dict gives its keys, a string its characters. -/
def iterate : Json → Except PyExc (List Json)
  | .arr xs => .ok xs
  | .obj fs => .ok (fs.map fun f => .str f.1)
  | .str s => .ok (s.toList.map fun c => .str (String.singleton c))
  | _ => .error .typeError

/-- `str(v)`. -/
def toStr (py : Builtins) : Json → String
  | .null => "None"
  | .bool true => "True"
  | .bool false => "False"
  | .int n => toString n
  | .str s => s
  | v => py.repr v

/-- `int(v)`. -/
def toInt (py : Builtins) : Json → Except PyExc Int
  | .int n => .ok n
  | .bool b => .ok (if b then 1 else 0)
  | .float x => x.toInt
  | .str s => match py.parseInt s with
    | some n => .ok n
    | none => .error .valueError
  | _ => .error .typeError

/-- `float(v)`. -/
def toFloat (py : Builtins) : Json → Except PyExc PyFloat
  | .int n => PyFloat.ofInt n
  | .bool b => .ok (.fin (if b then 1 else 0))
  | .float x => .ok x
  | .str s => match py.parseFloat s with
    | some x => .ok x
    | none => .error .valueError
  | _ => .error .typeError

end Json

/-- `_coerce_float` catches TypeError and ValueError, and no OverflowError. -/
def coerceFloat (py : Builtins) (value : Json) : Except PyExc PyFloat :=
  match value with
  | .null => .ok .zero
  | .str "" => .ok .zero
  | v => match v.toFloat py with
    | .error .typeError => .ok .zero
    | .error .valueError => .ok .zero
    | r => r

namespace Json

@[simp] theorem or_of_truthy {a b : Json} (h : a.truthy = true) : a.or b = a := by
  simp [Json.or, h]

@[simp] theorem or_of_falsy {a b : Json} (h : a.truthy = false) : a.or b = b := by
  simp [Json.or, h]

theorem asDict_ok_iff {v : Json} {fs : Obj} : v.asDict = .ok fs ↔ v = .obj fs := by
  constructor
  · intro h
    cases v with
    | obj gs => exact congrArg Json.obj (Except.ok.inj h)
    | _ => cases h
  · rintro rfl
    rfl

theorem asStr_ok_iff {v : Json} {s : String} : v.asStr = .ok s ↔ v = .str s := by
  constructor
  · intro h
    cases v with
    | str t => exact congrArg Json.str (Except.ok.inj h)
    | _ => cases h
  · rintro rfl
    rfl

end Json

/-- `a == b` of two floats: a NaN equals nothing. -/
def PyFloat.pyEq : PyFloat → PyFloat → Bool
  | .fin a, .fin b => decide (a = b)
  | .inf, .inf => true
  | .ninf, .ninf => true
  | _, _ => false

namespace Json

/-- A truth value is compared as the number 0 or 1. -/
def number : Json → Option PyFloat
  | .bool b => some (.fin (if b then 1 else 0))
  | .int n => some (.fin n)
  | .float x => some x
  | _ => none

def sameNumber (x : PyFloat) (v : Json) : Bool := v.number.any x.pyEq

mutual

/-- `a == b`. -/
def pyEq : Json → Json → Bool
  | .null, v => match v with
    | .null => true
    | _ => false
  | .bool b, v => sameNumber (.fin (if b then 1 else 0)) v
  | .int n, v => sameNumber (.fin n) v
  | .float x, v => sameNumber x v
  | .str s, v => match v with
    | .str t => decide (s = t)
    | _ => false
  | .arr xs, v => match v with
    | .arr ys => pyEqList xs ys
    | _ => false
  | .obj fs, v => match v with
    | .obj gs => decide (fs.length = gs.length) && pyEqFields fs gs
    | _ => false

def pyEqList : List Json → List Json → Bool
  | [], ys => ys.isEmpty
  | x :: xs, ys => match ys with
    | [] => false
    | y :: ys => pyEq x y && pyEqList xs ys

/-- Every field of the first dict has an equal one in the second. -/
def pyEqFields : List (String × Json) → Obj → Bool
  | [], _ => true
  | (key, v) :: rest, gs => (List.lookup key gs).any (pyEq v) && pyEqFields rest gs

end

@[simp] theorem pyEq_str_iff {v : Json} {s : String} : v.pyEq (.str s) = true ↔ v = .str s := by
  cases v <;> simp [pyEq, sameNumber, number]

end Json

/-- An integer too large for any float. -/
def HugeInt (v : Json) : Prop := ∃ n : Int, v = .int n ∧ PyFloat.intLimit ≤ n.natAbs

theorem ofInt_ok_iff (n : Int) :
    (∃ x, PyFloat.ofInt n = .ok x) ↔ n.natAbs < PyFloat.intLimit := by
  unfold PyFloat.ofInt
  by_cases h : n.natAbs < PyFloat.intLimit
  · simp [h]
  · simp [h]

theorem intMul_ok_iff (n : Int) (x : PyFloat) :
    (∃ y, PyFloat.intMul n x = .ok y) ↔ n.natAbs < PyFloat.intLimit := by
  unfold PyFloat.intMul
  by_cases h : n.natAbs < PyFloat.intLimit
  · simp [h]
  · simp [h]

theorem intMul_ok {n : Int} {x y : PyFloat} (h : PyFloat.intMul n x = .ok y) :
    y = (PyFloat.fin n).mul x := by
  unfold PyFloat.intMul at h
  split at h
  · exact (Except.ok.inj h).symm
  · cases h

/-- `_coerce_float` returns a float for everything but a huge integer. -/
theorem coerceFloat_ok_iff (py : Builtins) (v : Json) :
    (∃ x, coerceFloat py v = .ok x) ↔ ¬ HugeInt v := by
  have other : (∀ n, v ≠ .int n) → (∃ x, coerceFloat py v = .ok x) ∧ ¬ HugeInt v := by
    intro hne
    refine ⟨?_, fun ⟨n, hn, _⟩ => hne n hn⟩
    rcases v with _ | b | n | x | s | xs | fs
    · exact ⟨_, rfl⟩
    · exact ⟨_, rfl⟩
    · exact False.elim (hne n rfl)
    · exact ⟨_, rfl⟩
    · unfold coerceFloat
      split
      · exact ⟨_, rfl⟩
      · exact ⟨_, rfl⟩
      · rcases hp : py.parseFloat s with _ | x <;> simp [Json.toFloat, hp]
    · exact ⟨_, rfl⟩
    · exact ⟨_, rfl⟩
  by_cases hint : ∃ n, v = .int n
  · obtain ⟨n, rfl⟩ := hint
    have hcoerce : coerceFloat py (.int n) = match PyFloat.ofInt n with
      | .error .typeError => .ok .zero
      | .error .valueError => .ok .zero
      | r => r := rfl
    unfold HugeInt
    by_cases hn : n.natAbs < PyFloat.intLimit
    · simp [hcoerce, PyFloat.ofInt, hn]
    · simp [hcoerce, PyFloat.ofInt, hn, Nat.le_of_not_lt hn]
  · have h := other (fun n hn => hint ⟨n, hn⟩)
    exact ⟨fun _ => h.2, fun _ => h.1⟩

/-- A sequence of conversions succeeds when each of them does. -/
theorem bind_ok_iff {ε α β : Type} {x : Except ε α} {f : α → Except ε β} {b : β} :
    (x >>= f) = .ok b ↔ ∃ a, x = .ok a ∧ f a = .ok b := by
  rcases x with e | a
  · constructor
    · intro h; cases h
    · rintro ⟨a, h, _⟩; cases h
  · constructor
    · intro h
      exact ⟨a, rfl, h⟩
    · rintro ⟨c, hc, h⟩
      obtain rfl : a = c := Except.ok.inj hc
      exact h

/-- For computed results: a check that passes tells that there is a value. -/
theorem exists_ok_of_any {ε : Type} {α : Type} {x : Except ε α} {p : α → Bool}
    (h : x.toOption.any p = true) : ∃ a, x = .ok a ∧ p a = true := by
  rcases x with e | a
  · cases h
  · exact ⟨a, rfl, h⟩

-- What the parameters are on texts and numbers that need no Unicode table, no escape and
-- no exponent. The hash stays a parameter.
namespace Ascii

def lower (s : String) : String := String.ofList (s.toList.map Char.toLower)

def upper (s : String) : String := String.ofList (s.toList.map Char.toUpper)

def strip (s : String) : String :=
  let left := s.toList.dropWhile Char.isWhitespace
  String.ofList (left.reverse.dropWhile Char.isWhitespace).reverse

/-- The first letter of each word in upper case, the others in lower case. -/
def titleFrom (inWord : Bool) : List Char → List Char
  | [] => []
  | c :: rest => (if inWord then c.toLower else c.toUpper) :: titleFrom c.isAlpha rest

def title (s : String) : String := String.ofList (titleFrom false s.toList)

def parseNat (digits : List Char) : Option Nat :=
  if digits.isEmpty then none
  else digits.foldl (fun n c => n.bind fun n =>
    if c.isDigit then some (n * 10 + (c.toNat - '0'.toNat)) else none) (some 0)

def parseInt (s : String) : Option Int :=
  match (strip s).toList with
  | '-' :: digits => (parseNat digits).map fun n => -(n : Int)
  | digits => (parseNat digits).map fun n => (n : Int)

def parseFloat (s : String) : Option PyFloat :=
  (parseInt s).map fun n => .fin n

mutual

/-- JSON text, or `str()` of a value, according to the quote and the constants. -/
def render (quote null yes no : String) : Json → String
  | .null => null
  | .bool b => if b then yes else no
  | .int n => toString n
  | .float (.fin q) => toString q.num ++ (if q.den = 1 then ".0" else "/" ++ toString q.den)
  | .float .inf => "inf"
  | .float .ninf => "-inf"
  | .float .nan => "nan"
  | .str s => quote ++ s ++ quote
  | .arr xs => "[" ++ ", ".intercalate (renderList quote null yes no xs) ++ "]"
  | .obj fields => "\x7b" ++ ", ".intercalate (renderFields quote null yes no fields) ++ "\x7d"

def renderList (quote null yes no : String) : List Json → List String
  | [] => []
  | x :: rest => render quote null yes no x :: renderList quote null yes no rest

def renderFields (quote null yes no : String) : List (String × Json) → List String
  | [] => []
  | (key, x) :: rest => (quote ++ key ++ quote ++ ": " ++ render quote null yes no x) ::
      renderFields quote null yes no rest

end

end Ascii

def asciiBuiltins (md5 : String → String) : Builtins where
  lower := Ascii.lower
  upper := Ascii.upper
  strip := Ascii.strip
  title := Ascii.title
  repr := Ascii.render "'" "None" "True" "False"
  parseInt := Ascii.parseInt
  parseFloat := Ascii.parseFloat
  fromisoformat := fun _ => none
  dumps := Ascii.render "\"" "null" "true" "false"
  md5 := md5

end PyValue
