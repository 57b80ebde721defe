import CrmPortal.PyValue
import Mathlib.Data.List.TakeWhile

/-!
# JSON as text

`json.dumps` with its default arguments and `json.loads`. All text outside
printable ASCII is escaped, a character above U+FFFF by a surrogate pair. How a
float is written and read is a parameter, of which the shape of the numerals and
the round trip are used.
-/

namespace JsonText

open PyValue

def numeralChar (c : Char) : Bool :=
  c.isDigit || c == '-' || c == '+' || c == '.' || c == 'e' || c == 'E'

/-- No leading zero. -/
def naturalNumeral : List Char → Bool
  | [] => false
  | c :: rest => c.isDigit && (rest.isEmpty || (c != '0' && rest.all Char.isDigit))

def integerNumeral : List Char → Bool
  | [] => false
  | c :: rest => if c = '-' then naturalNumeral rest else naturalNumeral (c :: rest)

def digitsText (text : List Char) : Bool := !text.isEmpty && text.all Char.isDigit

def fractionText : List Char → Bool
  | [] => true
  | c :: digits => c == '.' && digitsText digits

def exponentChar (c : Char) : Bool := c == 'e' || c == 'E'

def exponentText : List Char → Bool
  | [] => true
  | c :: rest => exponentChar c && digitsText (match rest with
    | '+' :: digits => digits
    | '-' :: digits => digits
    | digits => digits)

/-- A numeral with a fraction, an exponent, or both. -/
def floatNumeral (text : List Char) : Bool :=
  let mantissa := text.takeWhile fun c => !exponentChar c
  let exponent := text.dropWhile fun c => !exponentChar c
  let fraction := mantissa.dropWhile fun c => c != '.'
  integerNumeral (mantissa.takeWhile fun c => c != '.') && fractionText fraction &&
    exponentText exponent && !(fraction.isEmpty && exponent.isEmpty)

/-- `float.__repr__` of finite values, and `float` of a numeral. -/
structure FloatText where
  repr : ℚ → List Char
  parse : List Char → PyFloat
  repr_chars : ∀ q, (repr q).all numeralChar = true
  repr_numeral : ∀ q, floatNumeral (repr q) = true
  parse_repr : ∀ q, parse (repr q) = .fin q

def intText (n : Int) : List Char :=
  if n < 0 then '-' :: Nat.toDigits 10 n.natAbs else Nat.toDigits 10 n.natAbs

def readInt : List Char → Int
  | [] => 0
  | c :: rest => if c = '-' then -(Nat.ofDigitChars 10 rest 0 : Int)
    else (Nat.ofDigitChars 10 (c :: rest) 0 : Int)

/-- The characters with an escape of two characters. -/
def shortEscapes : List (Char × Char) :=
  [('"', '"'), ('\\', '\\'), ('\n', 'n'), ('\r', 'r'), ('\t', 't'), ('\x08', 'b'), ('\x0c', 'f')]

def hex4 (n : Nat) : List Char :=
  [Nat.digitChar (n / 4096 % 16), Nat.digitChar (n / 256 % 16), Nat.digitChar (n / 16 % 16),
    Nat.digitChar (n % 16)]

def unicodeEscape (n : Nat) : List Char := '\\' :: 'u' :: hex4 n

def highSurrogate (n : Nat) : Nat := 0xd800 + (n - 0x10000) / 1024

def lowSurrogate (n : Nat) : Nat := 0xdc00 + (n - 0x10000) % 1024

def escapeChar (c : Char) : List Char :=
  match shortEscapes.lookup c with
  | some short => ['\\', short]
  | none =>
    if 32 ≤ c.toNat ∧ c.toNat ≤ 126 then [c]
    else if c.toNat < 0x10000 then unicodeEscape c.toNat
    else unicodeEscape (highSurrogate c.toNat) ++ unicodeEscape (lowSurrogate c.toNat)

def quote (s : String) : List Char := '"' :: (s.toList.flatMap escapeChar ++ ['"'])

def hexValue (c : Char) : Option Nat := "0123456789abcdef".toList.idxOf? c.toLower

def hexValue4 (a b c d : Char) : Option Nat := do
  return (← hexValue a) * 4096 + (← hexValue b) * 256 + (← hexValue c) * 16 + (← hexValue d)

/-- The character of an escape of two characters; a slash may be escaped too. -/
def unescape (short : Char) : Option Char :=
  (('/', '/') :: shortEscapes).findSome? fun escape =>
    if escape.2 = short then some escape.1 else none

/-- The code units up to the closing quote: a code point for a plain character or an
escape, and one half of a pair for the escape of a surrogate. -/
def scanString : List Char → Option (List Nat × List Char)
  | [] => none
  | '"' :: rest => some ([], rest)
  | '\\' :: 'u' :: a :: b :: c :: d :: rest => do
    let unit ← hexValue4 a b c d
    let (units, rest) ← scanString rest
    return (unit :: units, rest)
  | '\\' :: short :: rest => do
    let c ← unescape short
    let (units, rest) ← scanString rest
    return (c.toNat :: units, rest)
  | c :: rest =>
    if c = '\\' ∨ c.toNat < 32 then none
    else do
      let (units, rest) ← scanString rest
      return (c.toNat :: units, rest)

def isHigh (unit : Nat) : Bool := decide (0xd800 ≤ unit ∧ unit < 0xdc00)

def isLow (unit : Nat) : Bool := decide (0xdc00 ≤ unit ∧ unit < 0xe000)

/-- A half without its other half, which Python keeps, is no text here. -/
def joinUnits : List Nat → Option (List Char)
  | [] => some []
  | unit :: rest =>
    if isHigh unit then
      match rest with
      | [] => none
      | low :: rest =>
        if isLow low then (joinUnits rest).map
          (Char.ofNat (0x10000 + (unit - 0xd800) * 1024 + (low - 0xdc00)) :: ·)
        else none
    else if isLow unit then none
    else (joinUnits rest).map (Char.ofNat unit :: ·)

def parseString (text : List Char) : Option (String × List Char) := do
  let (units, rest) ← scanString text
  return (String.ofList (← joinUnits units), rest)

mutual

def dump (floats : FloatText) : Json → List Char
  | .null => "null".toList
  | .bool b => if b then "true".toList else "false".toList
  | .int n => intText n
  | .float x => match x with
    | .fin q => floats.repr q
    | .inf => "Infinity".toList
    | .ninf => "-Infinity".toList
    | .nan => "NaN".toList
  | .str s => quote s
  | .arr xs => match xs with
    | [] => ['[', ']']
    | x :: rest => '[' :: (dump floats x ++ dumpItems floats rest)
  | .obj fields => match fields with
    | [] => ['\x7b', '\x7d']
    | (key, x) :: rest =>
      '\x7b' :: (quote key ++ ':' :: ' ' :: (dump floats x ++ dumpFields floats rest))

/-- What follows the first element. -/
def dumpItems (floats : FloatText) : List Json → List Char
  | [] => [']']
  | x :: rest => ',' :: ' ' :: (dump floats x ++ dumpItems floats rest)

def dumpFields (floats : FloatText) : List (String × Json) → List Char
  | [] => ['\x7d']
  | (key, x) :: rest =>
    ',' :: ' ' :: (quote key ++ ':' :: ' ' :: (dump floats x ++ dumpFields floats rest))

end

def dumps (floats : FloatText) (v : Json) : String := String.ofList (dump floats v)

def compactFields (floats : FloatText) : List (String × Json) → List Char
  | [] => ['\x7d']
  | (key, x) :: rest => ',' :: (quote key ++ ':' :: (dump floats x ++ compactFields floats rest))

def compactDump (floats : FloatText) : Obj → List Char
  | [] => ['\x7b', '\x7d']
  | (key, x) :: rest =>
    '\x7b' :: (quote key ++ ':' :: (dump floats x ++ compactFields floats rest))

/-- `json.dumps(fields, separators=(",", ":"))` of a dict whose values have no elements
of their own. -/
def compactDumps (floats : FloatText) (fields : Obj) : String :=
  String.ofList (compactDump floats fields)

def isSpace (c : Char) : Bool := c == ' ' || c == '\t' || c == '\n' || c == '\r'

def skipSpaces (text : List Char) : List Char := text.dropWhile isSpace

/-- `d[key] = v`. -/
def dictSet (d : Obj) (key : String) (v : Json) : Obj :=
  if key ∈ d.map Prod.fst then d.map fun field => if field.1 = key then (key, v) else field
  else d ++ [(key, v)]

/-- The dict of the pairs; a key that comes again takes the later value. -/
def dictOf (pairs : List (String × Json)) : Obj :=
  pairs.foldl (fun d field => dictSet d field.1 field.2) []

def literals : List (List Char × Json) :=
  [("null".toList, .null), ("true".toList, .bool true), ("false".toList, .bool false),
    ("NaN".toList, .float .nan), ("Infinity".toList, .float .inf),
    ("-Infinity".toList, .float .ninf)]

def stripPrefix : List Char → List Char → Option (List Char)
  | [], text => some text
  | _ :: _, [] => none
  | c :: start, d :: text => if c = d then stripPrefix start text else none

def parseLiteral (text : List Char) : Option (Json × List Char) :=
  literals.findSome? fun literal => (stripPrefix literal.1 text).map fun rest => (literal.2, rest)

/-- The longest run of numeral characters has to be a numeral: after a shorter one the
text would go on with a character that no JSON has there. -/
def parseNumber (floats : FloatText) (text : List Char) : Option (Json × List Char) :=
  let numeral := text.takeWhile numeralChar
  let rest := text.dropWhile numeralChar
  if integerNumeral numeral then some (.int (readInt numeral), rest)
  else if floatNumeral numeral then some (.float (floats.parse numeral), rest)
  else none

mutual

def parseValue (floats : FloatText) : Nat → List Char → Option (Json × List Char)
  | 0, _ => none
  | fuel + 1, text => match text with
    | '"' :: rest => do
      let (s, rest) ← parseString rest
      return (.str s, rest)
    | '[' :: rest => match skipSpaces rest with
      | ']' :: rest => return (.arr [], rest)
      | rest => do
        let (x, rest) ← parseValue floats fuel rest
        let (xs, rest) ← parseItems floats fuel rest
        return (.arr (x :: xs), rest)
    | '\x7b' :: rest => match skipSpaces rest with
      | '\x7d' :: rest => return (.obj [], rest)
      | rest => do
        let (field, rest) ← parseField floats fuel rest
        let (fields, rest) ← parseFields floats fuel rest
        return (.obj (dictOf (field :: fields)), rest)
    | text => (parseNumber floats text).or (parseLiteral text)

def parseItems (floats : FloatText) : Nat → List Char → Option (List Json × List Char)
  | 0, _ => none
  | fuel + 1, text => match skipSpaces text with
    | ']' :: rest => return ([], rest)
    | ',' :: rest => do
      let (x, rest) ← parseValue floats fuel (skipSpaces rest)
      let (xs, rest) ← parseItems floats fuel rest
      return (x :: xs, rest)
    | _ => none

/-- A key and its value. -/
def parseField (floats : FloatText) : Nat → List Char → Option ((String × Json) × List Char)
  | 0, _ => none
  | fuel + 1, text => match text with
    | '"' :: rest => do
      let (key, rest) ← parseString rest
      match skipSpaces rest with
      | ':' :: rest => do
        let (x, rest) ← parseValue floats fuel (skipSpaces rest)
        return ((key, x), rest)
      | _ => none
    | _ => none

def parseFields (floats : FloatText) :
    Nat → List Char → Option (List (String × Json) × List Char)
  | 0, _ => none
  | fuel + 1, text => match skipSpaces text with
    | '\x7d' :: rest => return ([], rest)
    | ',' :: rest => do
      let (field, rest) ← parseField floats fuel (skipSpaces rest)
      let (fields, rest) ← parseFields floats fuel rest
      return (field :: fields, rest)
    | _ => none

end

/-- `None` stands for a JSONDecodeError. Every nested call reads a character first, so
the length of the text bounds their number. -/
def loads (floats : FloatText) (text : String) : Option Json := do
  let (v, rest) ← parseValue floats (text.toList.length + 1) (skipSpaces text.toList)
  if (skipSpaces rest).isEmpty then some v else none

section Numerals

theorem toDigits_head {n : Nat} (h : 0 < n) :
    ∃ c rest, Nat.toDigits 10 n = c :: rest ∧ c ≠ '0' := by
  induction n using Nat.strongRecOn with
  | ind n ih =>
    by_cases hlt : n < 10
    · refine ⟨n.digitChar, [], Nat.toDigits_of_lt_base hlt, ?_⟩
      intro hzero
      have hvalue := congrArg Char.toNat hzero
      rw [Nat.toNat_digitChar_of_lt_ten hlt] at hvalue
      have h48 : '0'.toNat = 48 := rfl
      omega
    · obtain ⟨c, rest, hdigits, hc⟩ := ih (n / 10) (by omega) (by omega)
      rw [Nat.toDigits_of_base_le (by decide) (by omega), hdigits]
      exact ⟨c, _, rfl, hc⟩

theorem digits_isDigit {n : Nat} {c : Char} (h : c ∈ Nat.toDigits 10 n) : c.isDigit = true :=
  Nat.isDigit_of_mem_toDigits (by decide) (by decide) h

theorem naturalNumeral_toDigits (n : Nat) : naturalNumeral (Nat.toDigits 10 n) = true := by
  rcases Nat.eq_zero_or_pos n with rfl | hpos
  · rfl
  · obtain ⟨c, rest, hdigits, hc⟩ := toDigits_head hpos
    have hall : ∀ d ∈ c :: rest, d.isDigit = true := fun d hd => digits_isDigit (hdigits ▸ hd)
    obtain ⟨hhead, htail⟩ := List.forall_mem_cons.mp hall
    have hrest : rest.all Char.isDigit = true := List.all_eq_true.mpr htail
    simp [hdigits, naturalNumeral, hhead, hrest, hc]

theorem toDigits_ne_minus {n : Nat} {c : Char} {rest : List Char}
    (h : Nat.toDigits 10 n = c :: rest) : c ≠ '-' := by
  rintro rfl
  have hdigit : '-'.isDigit = true := digits_isDigit (h ▸ List.mem_cons_self)
  cases hdigit

theorem integerNumeral_intText (n : Int) : integerNumeral (intText n) = true := by
  unfold intText
  split
  · exact naturalNumeral_toDigits _
  · obtain ⟨c, rest, hdigits⟩ := List.exists_cons_of_ne_nil (Nat.toDigits_ne_nil (n := n.natAbs))
    have hnumeral := naturalNumeral_toDigits n.natAbs
    rw [hdigits] at hnumeral ⊢
    rw [integerNumeral, if_neg (toDigits_ne_minus hdigits)]
    exact hnumeral

theorem readInt_intText (n : Int) : readInt (intText n) = n := by
  unfold intText
  split
  · rename_i hneg
    rw [readInt, if_pos rfl, Nat.ofDigitChars_ten_toDigits]
    omega
  · rename_i hnonneg
    obtain ⟨c, rest, hdigits⟩ := List.exists_cons_of_ne_nil (Nat.toDigits_ne_nil (n := n.natAbs))
    have hvalue := Nat.ofDigitChars_ten_toDigits (n := n.natAbs)
    rw [hdigits] at hvalue ⊢
    rw [readInt, if_neg (toDigits_ne_minus hdigits), hvalue]
    omega

theorem intText_chars (n : Int) : (intText n).all numeralChar = true := by
  have hdigits : ∀ c ∈ Nat.toDigits 10 n.natAbs, numeralChar c = true := by
    intro c hc
    simp [numeralChar, digits_isDigit hc]
  unfold intText
  split
  · rw [List.all_cons, List.all_eq_true.mpr hdigits]
    rfl
  · exact List.all_eq_true.mpr hdigits

theorem integerNumeral_chars {text : List Char} (h : integerNumeral text = true) :
    ∀ c ∈ text, c.isDigit = true ∨ c = '-' := by
  have natural : ∀ {digits : List Char}, naturalNumeral digits = true →
      ∀ c ∈ digits, c.isDigit = true := by
    intro digits hdigits c hc
    cases digits with
    | nil => cases hc
    | cons d rest =>
      obtain ⟨hd, hrest⟩ := Bool.and_eq_true_iff.mp hdigits
      rcases List.mem_cons.mp hc with rfl | hmem
      · exact hd
      · rcases Bool.or_eq_true_iff.mp hrest with hempty | htail
        · rw [List.isEmpty_iff.mp hempty] at hmem
          cases hmem
        · exact List.all_eq_true.mp (Bool.and_eq_true_iff.mp htail).2 c hmem
  intro c hc
  cases text with
  | nil => cases hc
  | cons d rest =>
    by_cases hd : d = '-'
    · rw [integerNumeral, if_pos hd] at h
      rcases List.mem_cons.mp hc with rfl | hmem
      · exact .inr hd
      · exact .inl (natural h c hmem)
    · rw [integerNumeral, if_neg hd] at h
      exact .inl (natural h c hc)

theorem integerChar_plain {c : Char} (h : c.isDigit = true ∨ c = '-') :
    exponentChar c = false ∧ c ≠ '.' := by
  rcases h with hdigit | rfl
  · constructor
    · by_contra hexp
      rcases Bool.or_eq_true_iff.mp (Bool.eq_true_of_not_eq_false hexp) with hc | hc
      · rw [eq_of_beq hc] at hdigit
        cases hdigit
      · rw [eq_of_beq hc] at hdigit
        cases hdigit
    · rintro rfl
      cases hdigit
  · exact ⟨rfl, by decide⟩

/-- An integer numeral has neither a dot nor an exponent. -/
theorem not_integerNumeral_of_floatNumeral {text : List Char} (h : floatNumeral text = true) :
    integerNumeral text = false := by
  by_contra hint
  have hchars := integerNumeral_chars (Bool.eq_true_of_not_eq_false hint)
  have hmantissa : ∀ c ∈ text, (!exponentChar c) = true := by
    intro c hc
    rw [(integerChar_plain (hchars c hc)).1]
    rfl
  have hdot : ∀ c ∈ text, (c != '.') = true := fun c hc =>
    bne_iff_ne.mpr (integerChar_plain (hchars c hc)).2
  have htake : text.takeWhile (fun c => !exponentChar c) = text :=
    List.takeWhile_eq_self_iff.mpr hmantissa
  have hdrop : text.dropWhile (fun c => !exponentChar c) = [] :=
    List.dropWhile_eq_nil_iff.mpr hmantissa
  have hfraction : text.dropWhile (fun c => c != '.') = [] := List.dropWhile_eq_nil_iff.mpr hdot
  simp [floatNumeral, htake, hdrop, hfraction] at h

theorem repr_ne_nil (floats : FloatText) (q : ℚ) : floats.repr q ≠ [] := by
  intro h
  have hnumeral := floats.repr_numeral q
  rw [h] at hnumeral
  cases hnumeral

end Numerals

section Strings

variable {text rest : List Char}

/-- The code units of a character, as its escapes write them. -/
def units (c : Char) : List Nat :=
  if c.toNat < 0x10000 then [c.toNat] else [highSurrogate c.toNat, lowSurrogate c.toNat]

theorem toNat_valid (c : Char) : c.toNat < 0xd800 ∨ 0xdfff < c.toNat ∧ c.toNat < 0x110000 := c.valid

theorem hexValue_digitChar : ∀ d < 16, hexValue (Nat.digitChar d) = some d := by decide

theorem scanString_unicodeEscape {n : Nat} (h : n < 0x10000) :
    scanString (unicodeEscape n ++ rest) =
      (scanString rest).map fun scanned => (n :: scanned.1, scanned.2) := by
  have h₃ := hexValue_digitChar (n / 4096 % 16) (by omega)
  have h₂ := hexValue_digitChar (n / 256 % 16) (by omega)
  have h₁ := hexValue_digitChar (n / 16 % 16) (by omega)
  have h₀ := hexValue_digitChar (n % 16) (by omega)
  have hvalue : n / 4096 % 16 * 4096 + n / 256 % 16 * 256 + n / 16 % 16 * 16 + n % 16 = n := by
    omega
  simp only [unicodeEscape, hex4, List.cons_append, List.nil_append, scanString, hexValue4, h₃, h₂,
    h₁, h₀, Option.bind_eq_bind, Option.bind_some, Option.pure_def, hvalue]
  cases scanString rest <;> rfl

theorem scanString_plain {c : Char} (hquote : c ≠ '"') (hslash : c ≠ '\\') (h : 32 ≤ c.toNat) :
    scanString (c :: rest) =
      (scanString rest).map fun scanned => (c.toNat :: scanned.1, scanned.2) := by
  have hallowed : ¬ (c = '\\' ∨ c.toNat < 32) := not_or.mpr ⟨hslash, Nat.not_lt.mpr h⟩
  rw [scanString.eq_def]
  split
  · rename_i hnil
    cases hnil
  · rename_i heq
    cases heq
    exact absurd rfl hquote
  · rename_i heq
    cases heq
    exact absurd rfl hslash
  · rename_i heq
    cases heq
    exact absurd rfl hslash
  · rename_i heq
    obtain ⟨rfl, rfl⟩ := List.cons.inj heq
    rw [if_neg hallowed]
    cases scanString rest <;> rfl

theorem scanString_short {short c : Char} (hu : short ≠ 'u') (h : unescape short = some c) :
    scanString ('\\' :: short :: rest) =
      (scanString rest).map fun scanned => (c.toNat :: scanned.1, scanned.2) := by
  rw [scanString.eq_def]
  split
  · rename_i hnil
    cases hnil
  · rename_i heq
    cases heq
  · rename_i heq
    cases heq
    exact absurd rfl hu
  · rename_i heq
    cases heq
    rw [h, Option.bind_eq_bind, Option.bind_some]
    cases scanString rest <;> rfl
  · rename_i hother heq
    obtain ⟨rfl, rfl⟩ := List.cons.inj heq
    exact absurd rfl (hother short rest rfl)

theorem shortEscapes_spec : ∀ escape ∈ shortEscapes, escape.2 ≠ 'u' ∧
    unescape escape.2 = some escape.1 ∧ escape.1.toNat < 0x10000 := by decide

theorem scanString_escapeChar (c : Char) :
    scanString (escapeChar c ++ rest) =
      (scanString rest).map fun scanned => (units c ++ scanned.1, scanned.2) := by
  unfold escapeChar units
  cases hshort : shortEscapes.lookup c with
  | some short =>
    obtain ⟨before, after, htable, -⟩ := List.lookup_eq_some_iff.mp hshort
    have hmem : (c, short) ∈ shortEscapes := by
      rw [htable]
      exact List.mem_append_right _ List.mem_cons_self
    obtain ⟨hu, hunescape, hsmall⟩ := shortEscapes_spec (c, short) hmem
    have hunits : (if c.toNat < 0x10000 then [c.toNat]
        else [highSurrogate c.toNat, lowSurrogate c.toNat]) = [c.toNat] := if_pos hsmall
    rw [hunits]
    exact scanString_short hu hunescape
  | none =>
    have hplain := List.lookup_eq_none_iff.mp hshort
    have hquote : c ≠ '"' := by simpa using hplain ('"', '"') (by decide)
    have hslash : c ≠ '\\' := by simpa using hplain ('\\', '\\') (by decide)
    have hvalid := toNat_valid c
    by_cases hprint : 32 ≤ c.toNat ∧ c.toNat ≤ 126
    · simp only [if_pos hprint]
      rw [if_pos (by omega)]
      exact scanString_plain hquote hslash hprint.1
    · by_cases hsmall : c.toNat < 0x10000
      · simp only [if_neg hprint, if_pos hsmall]
        exact scanString_unicodeEscape hsmall
      · have hhigh : highSurrogate c.toNat < 0x10000 := by
          unfold highSurrogate
          omega
        have hlow : lowSurrogate c.toNat < 0x10000 := by
          unfold lowSurrogate
          omega
        simp only [if_neg hprint, if_neg hsmall, List.append_assoc]
        rw [scanString_unicodeEscape hhigh, scanString_unicodeEscape hlow]
        cases scanString rest <;> rfl

theorem scanString_escaped (cs : List Char) :
    scanString (cs.flatMap escapeChar ++ '"' :: rest) = some (cs.flatMap units, rest) := by
  induction cs with
  | nil => rw [List.flatMap_nil, List.nil_append, scanString, List.flatMap_nil]
  | cons c cs ih =>
    rw [List.flatMap_cons, List.append_assoc, scanString_escapeChar, ih, List.flatMap_cons]
    rfl

theorem joinUnits_units (c : Char) (rest : List Nat) :
    joinUnits (units c ++ rest) = (joinUnits rest).map (c :: ·) := by
  have hvalid := toNat_valid c
  have hchar : Char.ofNat c.toNat = c := Char.ofNat_toNat c
  unfold units
  split
  · have hhigh : isHigh c.toNat = false := by
      apply decide_eq_false
      omega
    have hlow : isLow c.toNat = false := by
      apply decide_eq_false
      omega
    rw [List.singleton_append, joinUnits.eq_def]
    simp [hhigh, hlow, hchar]
  · have hhigh : isHigh (highSurrogate c.toNat) = true := by
      apply decide_eq_true
      unfold highSurrogate
      omega
    have hlow : isLow (lowSurrogate c.toNat) = true := by
      apply decide_eq_true
      unfold lowSurrogate
      omega
    have hcode : 0x10000 + (highSurrogate c.toNat - 0xd800) * 1024 +
        (lowSurrogate c.toNat - 0xdc00) = c.toNat := by
      unfold highSurrogate lowSurrogate
      omega
    simp only [List.cons_append, List.nil_append, joinUnits, hhigh, hlow, if_true, hcode, hchar]

theorem joinUnits_flatMap (cs : List Char) : joinUnits (cs.flatMap units) = some cs := by
  induction cs with
  | nil => rfl
  | cons c cs ih =>
    rw [List.flatMap_cons, joinUnits_units, ih]
    rfl

theorem parseString_quote (s : String) :
    parseString (s.toList.flatMap escapeChar ++ '"' :: rest) = some (s, rest) := by
  simp [parseString, scanString_escaped, joinUnits_flatMap]

end Strings

mutual

/-- Every dict has one value for a key. -/
def uniqueKeys : Json → Bool
  | .arr xs => uniqueKeysItems xs
  | .obj fields => decide (fields.map Prod.fst).Nodup && uniqueKeysFields fields
  | _ => true

def uniqueKeysItems : List Json → Bool
  | [] => true
  | x :: rest => uniqueKeys x && uniqueKeysItems rest

def uniqueKeysFields : List (String × Json) → Bool
  | [] => true
  | (_, x) :: rest => uniqueKeys x && uniqueKeysFields rest

end

theorem dictSet_of_new {d : Obj} {key : String} (v : Json) (h : key ∉ d.map Prod.fst) :
    dictSet d key v = d ++ [(key, v)] := if_neg h

theorem dictOf_of_nodup {fields : List (String × Json)} (h : (fields.map Prod.fst).Nodup) :
    dictOf fields = fields := by
  have grow : ∀ (rest : List (String × Json)) (d : Obj), ((d ++ rest).map Prod.fst).Nodup →
      rest.foldl (fun d field => dictSet d field.1 field.2) d = d ++ rest := by
    intro rest
    induction rest with
    | nil =>
      intro d _
      rw [List.foldl_nil, List.append_nil]
    | cons field rest ih =>
      intro d hd
      have hnew : field.1 ∉ d.map Prod.fst := by
        rw [List.map_append, List.map_cons] at hd
        have hdisjoint := (List.nodup_append.mp hd).2.2
        intro hmem
        exact hdisjoint _ hmem _ List.mem_cons_self rfl
      have hrest : ((d ++ [field] ++ rest).map Prod.fst).Nodup := by
        simpa using hd
      rw [List.foldl_cons, dictSet_of_new field.2 hnew, ih _ hrest]
      simp
  exact grow fields [] h

section RoundTrip

variable {floats : FloatText} {rest : List Char}

/-- A numeral ends where the rest begins. -/
def Delimited (rest : List Char) : Prop := ∀ c after, rest = c :: after → numeralChar c = false

theorem delimited_nil : Delimited [] := by
  intro c after h
  cases h

theorem delimited_cons {c : Char} {after : List Char} (h : numeralChar c = false) :
    Delimited (c :: after) := by
  intro d after' heq
  obtain ⟨rfl, rfl⟩ := List.cons.inj heq
  exact h

theorem numeral_cut {numeral : List Char} (h : numeral.all numeralChar = true)
    (hrest : Delimited rest) :
    (numeral ++ rest).takeWhile numeralChar = numeral ∧
      (numeral ++ rest).dropWhile numeralChar = rest := by
  have hall := List.all_eq_true.mp h
  rw [List.takeWhile_append_of_pos hall, List.dropWhile_append_of_pos hall]
  cases rest with
  | nil => exact ⟨List.append_nil _, rfl⟩
  | cons c after =>
    have hc := hrest c after rfl
    rw [List.takeWhile_cons_of_neg (by simp [hc]), List.dropWhile_cons_of_neg (by simp [hc]),
      List.append_nil]
    exact ⟨rfl, rfl⟩

theorem parseValue_scalar {fuel : Nat} {text : List Char}
    (h : ∀ c after, text = c :: after → c ≠ '"' ∧ c ≠ '[' ∧ c ≠ '\x7b') :
    parseValue floats (fuel + 1) text = (parseNumber floats text).or (parseLiteral text) := by
  rw [parseValue.eq_def]
  dsimp only
  split
  · exact absurd rfl (h _ _ rfl).1
  · exact absurd rfl (h _ _ rfl).2.1
  · exact absurd rfl (h _ _ rfl).2.2
  · rfl

theorem parseValue_numeral {fuel : Nat} {numeral : List Char} {v : Json}
    (hne : numeral ≠ []) (hchars : numeral.all numeralChar = true)
    (hparse : parseNumber floats (numeral ++ rest) = some (v, rest)) :
    parseValue floats (fuel + 1) (numeral ++ rest) = some (v, rest) := by
  rw [parseValue_scalar, hparse, Option.some_or]
  intro c after heq
  have hc : numeralChar c = true := by
    obtain ⟨d, numeral', rfl⟩ := List.exists_cons_of_ne_nil hne
    obtain ⟨rfl, -⟩ := List.cons.inj heq
    exact (Bool.and_eq_true_iff.mp hchars).1
  refine ⟨?_, ?_, ?_⟩ <;> (rintro rfl; cases hc)

theorem parseValue_int {fuel : Nat} (n : Int) (hrest : Delimited rest) :
    parseValue floats (fuel + 1) (intText n ++ rest) = some (.int n, rest) := by
  have hnumeral := integerNumeral_intText n
  have hne : intText n ≠ [] := by
    intro h
    rw [h] at hnumeral
    cases hnumeral
  obtain ⟨htake, hdrop⟩ := numeral_cut (intText_chars n) hrest
  apply parseValue_numeral hne (intText_chars n)
  simp only [parseNumber, htake, hdrop, hnumeral, if_true, readInt_intText]

theorem parseValue_float {fuel : Nat} (q : ℚ) (hrest : Delimited rest) :
    parseValue floats (fuel + 1) (floats.repr q ++ rest) = some (.float (.fin q), rest) := by
  have hnumeral := floats.repr_numeral q
  have hinteger := not_integerNumeral_of_floatNumeral hnumeral
  obtain ⟨htake, hdrop⟩ := numeral_cut (floats.repr_chars q) hrest
  apply parseValue_numeral (repr_ne_nil floats q) (floats.repr_chars q)
  simp only [parseNumber, htake, hdrop, hnumeral, hinteger, if_true, Bool.false_eq_true, if_false,
    floats.parse_repr]

theorem parseValue_quote {fuel : Nat} (s : String) :
    parseValue floats (fuel + 1) (quote s ++ rest) = some (.str s, rest) := by
  have hstring : parseString (s.toList.flatMap escapeChar ++ '"' :: rest) = some (s, rest) :=
    parseString_quote s
  simp only [quote, List.cons_append, List.append_assoc, List.nil_append, parseValue, hstring,
    Option.bind_eq_bind, Option.bind_some, Option.pure_def]

theorem skipSpaces_of_ne {c : Char} {after : List Char} (h : isSpace c = false) :
    skipSpaces (c :: after) = c :: after := by
  simp [skipSpaces, h]

/-- A value starts with a character that is neither a space nor a closing bracket. -/
theorem dump_head (floats : FloatText) (v : Json) :
    ∃ c after, dump floats v = c :: after ∧ isSpace c = false ∧ c ≠ ']' := by
  have numeral : ∀ {text : List Char}, text ≠ [] → text.all numeralChar = true →
      ∃ c after, text = c :: after ∧ isSpace c = false ∧ c ≠ ']' := by
    intro text hne hchars
    obtain ⟨c, after, rfl⟩ := List.exists_cons_of_ne_nil hne
    have hc : numeralChar c = true := (Bool.and_eq_true_iff.mp hchars).1
    refine ⟨c, after, rfl, ?_, ?_⟩
    · by_contra hspace
      have hcases : ((c = ' ' ∨ c = '\t') ∨ c = '\n') ∨ c = '\r' := by
        simpa only [isSpace, Bool.or_eq_true, beq_iff_eq, Bool.not_eq_false] using hspace
      rcases hcases with ((rfl | rfl) | rfl) | rfl <;> cases hc
    · rintro rfl
      cases hc
  cases v with
  | null => exact ⟨_, _, rfl, rfl, by decide⟩
  | bool b => cases b <;> exact ⟨_, _, rfl, rfl, by decide⟩
  | int n =>
    refine numeral ?_ (intText_chars n)
    intro (h : intText n = [])
    have hnumeral := integerNumeral_intText n
    rw [h] at hnumeral
    cases hnumeral
  | float x =>
    cases x with
    | fin q => exact numeral (repr_ne_nil floats q) (floats.repr_chars q)
    | _ => exact ⟨_, _, rfl, rfl, by decide⟩
  | str s => exact ⟨_, _, rfl, rfl, by decide⟩
  | arr xs => cases xs <;> exact ⟨_, _, rfl, rfl, by decide⟩
  | obj fields => cases fields <;> exact ⟨_, _, rfl, rfl, by decide⟩

theorem skipSpaces_dump (v : Json) :
    skipSpaces (dump floats v ++ rest) = dump floats v ++ rest := by
  obtain ⟨c, after, hdump, hspace, -⟩ := dump_head floats v
  rw [hdump]
  exact skipSpaces_of_ne hspace

theorem dumpItems_delimited (xs : List Json) : Delimited (dumpItems floats xs ++ rest) := by
  cases xs <;> exact delimited_cons rfl

theorem dumpFields_delimited (fields : List (String × Json)) :
    Delimited (dumpFields floats fields ++ rest) := by
  rcases fields with _ | ⟨⟨key, x⟩, fields⟩ <;> exact delimited_cons rfl

theorem parseField_dump {fuel : Nat} {key : String} {x : Json}
    (h : parseValue floats fuel (dump floats x ++ rest) = some (x, rest)) :
    parseField floats (fuel + 1) (quote key ++ ':' :: ' ' :: (dump floats x ++ rest)) =
      some ((key, x), rest) := by
  have hstring : parseString (key.toList.flatMap escapeChar ++
      '"' :: ':' :: ' ' :: (dump floats x ++ rest)) =
        some (key, ':' :: ' ' :: (dump floats x ++ rest)) := parseString_quote key
  have hcolon : skipSpaces (':' :: ' ' :: (dump floats x ++ rest)) =
      ':' :: ' ' :: (dump floats x ++ rest) := skipSpaces_of_ne rfl
  have hspace : skipSpaces (' ' :: (dump floats x ++ rest)) = dump floats x ++ rest :=
    skipSpaces_dump x
  simp only [quote, List.cons_append, List.append_assoc, List.nil_append, parseField, hstring,
    Option.bind_eq_bind, Option.bind_some, hcolon, hspace, h, Option.pure_def]

theorem parseValue_array {fuel : Nat} {c : Char} {after : List Char} (hspace : isSpace c = false)
    (hclose : c ≠ ']') :
    parseValue floats (fuel + 1) ('[' :: c :: after) = (do
      let (x, rest) ← parseValue floats fuel (c :: after)
      let (xs, rest) ← parseItems floats fuel rest
      return (.arr (x :: xs), rest)) := by
  rw [parseValue]
  rw [skipSpaces_of_ne hspace]
  split
  · rename_i heq
    exact absurd (List.cons.inj heq).1 hclose
  · rfl

theorem parseItems_comma {fuel : Nat} {after : List Char} :
    parseItems floats (fuel + 1) (',' :: ' ' :: after) = (do
      let (x, rest) ← parseValue floats fuel (skipSpaces after)
      let (xs, rest) ← parseItems floats fuel rest
      return (x :: xs, rest)) := rfl

theorem parseValue_object {fuel : Nat} (key : String) (after : List Char) :
    parseValue floats (fuel + 1) ('\x7b' :: (quote key ++ after)) = (do
      let (field, rest) ← parseField floats fuel (quote key ++ after)
      let (fields, rest) ← parseFields floats fuel rest
      return (.obj (dictOf (field :: fields)), rest)) := rfl

theorem parseFields_comma {fuel : Nat} (key : String) (after : List Char) :
    parseFields floats (fuel + 1) (',' :: ' ' :: (quote key ++ after)) = (do
      let (field, rest) ← parseField floats fuel (quote key ++ after)
      let (fields, rest) ← parseFields floats fuel rest
      return (field :: fields, rest)) := rfl

theorem dump_arr (x : Json) (xs : List Json) : dump floats (.arr (x :: xs)) =
    '[' :: (dump floats x ++ dumpItems floats xs) := rfl

theorem dump_obj (key : String) (x : Json) (fields : List (String × Json)) :
    dump floats (.obj ((key, x) :: fields)) =
      '\x7b' :: (quote key ++ ':' :: ' ' :: (dump floats x ++ dumpFields floats fields)) := rfl

theorem dump_length_pos (floats : FloatText) (v : Json) : 0 < (dump floats v).length := by
  obtain ⟨c, after, hdump, -, -⟩ := dump_head floats v
  rw [hdump]
  exact Nat.succ_pos _

mutual

/-- Reading what was written gives the value back, whatever text follows. -/
theorem parseValue_dump : ∀ (v : Json) (fuel : Nat) (rest : List Char), uniqueKeys v = true →
    (dump floats v).length ≤ fuel → Delimited rest →
      parseValue floats fuel (dump floats v ++ rest) = some (v, rest)
  | v, 0, _, _, hfuel, _ => absurd (dump_length_pos floats v) (Nat.not_lt.mpr hfuel)
  | .null, _ + 1, _, _, _, _ => rfl
  | .bool true, _ + 1, _, _, _, _ => rfl
  | .bool false, _ + 1, _, _, _, _ => rfl
  | .int n, _ + 1, _, _, _, hrest => parseValue_int n hrest
  | .float (.fin q), _ + 1, _, _, _, hrest => parseValue_float q hrest
  | .float .inf, _ + 1, _, _, _, _ => rfl
  | .float .ninf, _ + 1, _, _, _, _ => rfl
  | .float .nan, _ + 1, _, _, _, _ => rfl
  | .str s, _ + 1, _, _, _, _ => parseValue_quote s
  | .arr [], _ + 1, _, _, _, _ => rfl
  | .arr (x :: xs), fuel + 1, rest, hunique, hfuel, _ => by
    obtain ⟨hx, hxs⟩ : uniqueKeys x = true ∧ uniqueKeysItems xs = true := by
      simpa only [uniqueKeys, uniqueKeysItems, Bool.and_eq_true] using hunique
    have hlength : (dump floats x).length + (dumpItems floats xs).length ≤ fuel := by
      simpa only [dump_arr, List.length_cons, List.length_append, Nat.add_le_add_iff_right] using
        hfuel
    have hvalue := parseValue_dump x fuel (dumpItems floats xs ++ rest) hx (by omega)
      (dumpItems_delimited xs)
    have hitems := parseItems_dump xs fuel rest hxs (by omega)
    obtain ⟨c, after, hdump, hspace, hclose⟩ := dump_head floats x
    rw [dump_arr, List.cons_append, List.append_assoc, hdump, List.cons_append,
      parseValue_array hspace hclose, ← List.cons_append, ← hdump, hvalue]
    simp only [Option.bind_eq_bind, Option.bind_some, hitems, Option.pure_def]
  | .obj [], _ + 1, _, _, _, _ => rfl
  | .obj ((key, x) :: fields), fuel + 1, rest, hunique, hfuel, _ => by
    obtain ⟨hkeys, hx, hfields⟩ : (((key, x) :: fields).map Prod.fst).Nodup ∧
        uniqueKeys x = true ∧ uniqueKeysFields fields = true := by
      simpa only [uniqueKeys, uniqueKeysFields, Bool.and_eq_true, decide_eq_true_eq] using hunique
    have hlength : (quote key).length + 2 + (dump floats x).length +
        (dumpFields floats fields).length ≤ fuel := by
      simp only [dump_obj, List.length_cons, List.length_append] at hfuel
      omega
    obtain ⟨n, rfl⟩ : ∃ n, fuel = n + 1 := ⟨fuel - 1, by omega⟩
    have hvalue := parseValue_dump x n (dumpFields floats fields ++ rest) hx (by omega)
      (dumpFields_delimited fields)
    have hfield : parseField floats (n + 1) (quote key ++ ':' :: ' ' ::
        (dump floats x ++ (dumpFields floats fields ++ rest))) = _ := parseField_dump hvalue
    have hmore := parseFields_dump fields (n + 1) rest hfields (by omega)
    rw [dump_obj]
    simp only [List.cons_append, List.append_assoc, parseValue_object, hfield, hmore,
      Option.bind_eq_bind, Option.bind_some, Option.pure_def, dictOf_of_nodup hkeys]

theorem parseItems_dump : ∀ (xs : List Json) (fuel : Nat) (rest : List Char),
    uniqueKeysItems xs = true → (dumpItems floats xs).length ≤ fuel →
      parseItems floats fuel (dumpItems floats xs ++ rest) = some (xs, rest)
  | [], 0, _, _, hfuel => absurd hfuel (Nat.not_succ_le_zero _)
  | [], _ + 1, _, _, _ => rfl
  | x :: xs, 0, _, _, hfuel => absurd hfuel (Nat.not_succ_le_zero _)
  | x :: xs, fuel + 1, rest, hunique, hfuel => by
    obtain ⟨hx, hxs⟩ : uniqueKeys x = true ∧ uniqueKeysItems xs = true := by
      simpa only [uniqueKeysItems, Bool.and_eq_true] using hunique
    have hlength : (dump floats x).length + (dumpItems floats xs).length ≤ fuel := by
      simp only [dumpItems, List.length_cons, List.length_append] at hfuel
      omega
    have hvalue := parseValue_dump x fuel (dumpItems floats xs ++ rest) hx (by omega)
      (dumpItems_delimited xs)
    have hitems := parseItems_dump xs fuel rest hxs (by omega)
    rw [dumpItems, List.cons_append, List.cons_append, List.append_assoc, parseItems_comma,
      skipSpaces_dump, hvalue]
    simp only [Option.bind_eq_bind, Option.bind_some, hitems, Option.pure_def]

theorem parseFields_dump : ∀ (fields : List (String × Json)) (fuel : Nat) (rest : List Char),
    uniqueKeysFields fields = true → (dumpFields floats fields).length ≤ fuel →
      parseFields floats fuel (dumpFields floats fields ++ rest) = some (fields, rest)
  | [], 0, _, _, hfuel => absurd hfuel (Nat.not_succ_le_zero _)
  | [], _ + 1, _, _, _ => rfl
  | (key, x) :: fields, 0, _, _, hfuel => absurd hfuel (Nat.not_succ_le_zero _)
  | (key, x) :: fields, fuel + 1, rest, hunique, hfuel => by
    obtain ⟨hx, hfields⟩ : uniqueKeys x = true ∧ uniqueKeysFields fields = true := by
      simpa only [uniqueKeysFields, Bool.and_eq_true] using hunique
    have hlength : (quote key).length + 2 + (dump floats x).length +
        (dumpFields floats fields).length ≤ fuel := by
      simp only [dumpFields, List.length_cons, List.length_append] at hfuel
      omega
    obtain ⟨n, rfl⟩ : ∃ n, fuel = n + 1 := ⟨fuel - 1, by omega⟩
    have hvalue := parseValue_dump x n (dumpFields floats fields ++ rest) hx (by omega)
      (dumpFields_delimited fields)
    have hfield : parseField floats (n + 1) (quote key ++ ':' :: ' ' ::
        (dump floats x ++ (dumpFields floats fields ++ rest))) = _ := parseField_dump hvalue
    have hmore := parseFields_dump fields (n + 1) rest hfields (by omega)
    rw [dumpFields]
    simp only [List.cons_append, List.append_assoc, parseFields_comma, hfield, hmore,
      Option.bind_eq_bind, Option.bind_some, Option.pure_def]

end

/-- `json.loads(json.dumps(v))` is `v`. -/
theorem loads_dumps (floats : FloatText) (v : Json) (h : uniqueKeys v = true) :
    loads floats (dumps floats v) = some v := by
  have hvalue : parseValue floats ((dump floats v).length + 1) (dump floats v ++ []) =
      some (v, []) := parseValue_dump v _ [] h (Nat.le_succ _) delimited_nil
  have hstart : skipSpaces (dump floats v ++ []) = dump floats v ++ [] := skipSpaces_dump v
  rw [List.append_nil] at hvalue hstart
  simp only [loads, dumps, String.toList_ofList, hstart, hvalue, Option.bind_eq_bind,
    Option.bind_some]
  rfl

theorem compactFields_delimited (fields : List (String × Json)) :
    Delimited (compactFields floats fields ++ rest) := by
  rcases fields with _ | ⟨⟨key, x⟩, fields⟩ <;> exact delimited_cons rfl

theorem parseField_compact {fuel : Nat} {key : String} {x : Json}
    (h : parseValue floats fuel (dump floats x ++ rest) = some (x, rest)) :
    parseField floats (fuel + 1) (quote key ++ ':' :: (dump floats x ++ rest)) =
      some ((key, x), rest) := by
  have hstring : parseString (key.toList.flatMap escapeChar ++
      '"' :: ':' :: (dump floats x ++ rest)) =
        some (key, ':' :: (dump floats x ++ rest)) := parseString_quote key
  have hcolon : skipSpaces (':' :: (dump floats x ++ rest)) = ':' :: (dump floats x ++ rest) :=
    skipSpaces_of_ne rfl
  have hvalue : skipSpaces (dump floats x ++ rest) = dump floats x ++ rest := skipSpaces_dump x
  simp only [quote, List.cons_append, List.append_assoc, List.nil_append, parseField, hstring,
    Option.bind_eq_bind, Option.bind_some, hcolon, hvalue, h, Option.pure_def]

theorem parseFields_key {fuel : Nat} (key : String) (after : List Char) :
    parseFields floats (fuel + 1) (',' :: (quote key ++ after)) = (do
      let (field, rest) ← parseField floats fuel (quote key ++ after)
      let (fields, rest) ← parseFields floats fuel rest
      return (field :: fields, rest)) := rfl

theorem parseFields_compact : ∀ (fields : List (String × Json)) (fuel : Nat) (rest : List Char),
    uniqueKeysFields fields = true → (compactFields floats fields).length ≤ fuel →
      parseFields floats fuel (compactFields floats fields ++ rest) = some (fields, rest)
  | [], 0, _, _, hfuel => absurd hfuel (Nat.not_succ_le_zero _)
  | [], _ + 1, _, _, _ => rfl
  | (key, x) :: fields, 0, _, _, hfuel => absurd hfuel (Nat.not_succ_le_zero _)
  | (key, x) :: fields, fuel + 1, rest, hunique, hfuel => by
    obtain ⟨hx, hfields⟩ : uniqueKeys x = true ∧ uniqueKeysFields fields = true := by
      simpa only [uniqueKeysFields, Bool.and_eq_true] using hunique
    have hlength : (quote key).length + 1 + (dump floats x).length +
        (compactFields floats fields).length ≤ fuel := by
      simp only [compactFields, List.length_cons, List.length_append] at hfuel
      omega
    obtain ⟨n, rfl⟩ : ∃ n, fuel = n + 1 := ⟨fuel - 1, by omega⟩
    have hvalue : parseValue floats n (dump floats x ++ (compactFields floats fields ++ rest)) =
        some (x, compactFields floats fields ++ rest) :=
      parseValue_dump x n _ hx (by omega) (compactFields_delimited fields)
    have hfield : parseField floats (n + 1) (quote key ++ ':' ::
        (dump floats x ++ (compactFields floats fields ++ rest))) = _ := parseField_compact hvalue
    have hmore := parseFields_compact fields (n + 1) rest hfields (by omega)
    rw [compactFields]
    simp only [List.cons_append, List.append_assoc, parseFields_key, hfield, hmore,
      Option.bind_eq_bind, Option.bind_some, Option.pure_def]

theorem parseValue_compact (fields : Obj) (fuel : Nat) (h : uniqueKeys (.obj fields) = true)
    (hfuel : (compactDump floats fields).length ≤ fuel) :
    parseValue floats fuel (compactDump floats fields) = some (.obj fields, []) := by
  rcases fields with _ | ⟨⟨key, x⟩, fields⟩
  · obtain ⟨n, rfl⟩ : ∃ n, fuel = n + 1 := ⟨fuel - 1, by
      simp only [compactDump, List.length_cons] at hfuel
      omega⟩
    rfl
  · obtain ⟨hkeys, hx, hfields⟩ : (((key, x) :: fields).map Prod.fst).Nodup ∧
        uniqueKeys x = true ∧ uniqueKeysFields fields = true := by
      simpa only [uniqueKeys, uniqueKeysFields, Bool.and_eq_true, decide_eq_true_eq] using h
    have hlength : (quote key).length + 2 + (dump floats x).length +
        (compactFields floats fields).length ≤ fuel := by
      simp only [compactDump, List.length_cons, List.length_append] at hfuel
      omega
    have hquote : 2 ≤ (quote key).length := by
      simp only [quote, List.length_cons, List.length_append]
      omega
    obtain ⟨n, rfl⟩ : ∃ n, fuel = n + 2 := ⟨fuel - 2, by omega⟩
    have hvalue : parseValue floats n (dump floats x ++ (compactFields floats fields ++ [])) =
        some (x, compactFields floats fields ++ []) :=
      parseValue_dump x n _ hx (by omega) (compactFields_delimited fields)
    have hfield : parseField floats (n + 1) (quote key ++ ':' ::
        (dump floats x ++ (compactFields floats fields ++ []))) = _ := parseField_compact hvalue
    have hmore : parseFields floats (n + 1) (compactFields floats fields ++ []) =
        some (fields, []) := parseFields_compact fields (n + 1) [] hfields (by omega)
    rw [List.append_nil] at hfield hmore
    rw [compactDump, parseValue_object, hfield]
    simp only [hmore, Option.bind_eq_bind, Option.bind_some, Option.pure_def,
      dictOf_of_nodup hkeys]

theorem loads_compactDumps (floats : FloatText) (fields : Obj)
    (h : uniqueKeys (.obj fields) = true) :
    loads floats (compactDumps floats fields) = some (.obj fields) := by
  have hvalue := parseValue_compact fields ((compactDump floats fields).length + 1) h
    (Nat.le_succ _)
  have hstart : skipSpaces (compactDump floats fields) = compactDump floats fields := by
    rcases fields with _ | ⟨⟨key, x⟩, fields⟩ <;> exact skipSpaces_of_ne rfl
  simp only [loads, compactDumps, String.toList_ofList, hstart, hvalue, Option.bind_eq_bind,
    Option.bind_some]
  rfl

end RoundTrip

section PlainFloats

/-- A notation for the floats: whole numbers are written as Python writes them, the others
with the denominator in the place of the exponent. -/
def plainTail (q : ℚ) : List Char := if q.den = 1 then [] else 'e' :: Nat.toDigits 10 q.den

def plainRepr (q : ℚ) : List Char := intText q.num ++ ('.' :: '0' :: plainTail q)

def plainParse (text : List Char) : PyFloat :=
  let num := readInt (text.takeWhile fun c => c != '.')
  match text.dropWhile fun c => !exponentChar c with
  | [] => .fin num
  | _ :: digits => .fin (mkRat num (Nat.ofDigitChars 10 digits 0))

theorem intText_digits (n : Int) : ∀ c ∈ intText n, c.isDigit = true ∨ c = '-' :=
  integerNumeral_chars (integerNumeral_intText n)

theorem plainRepr_cut (q : ℚ) :
    (plainRepr q).takeWhile (fun c => !exponentChar c) = intText q.num ++ ['.', '0'] ∧
      (plainRepr q).dropWhile (fun c => !exponentChar c) = plainTail q := by
  have hplain : ∀ c ∈ intText q.num ++ ['.', '0'], (!exponentChar c) = true := by
    intro c hc
    rcases List.mem_append.mp hc with hdigit | htail
    · rw [(integerChar_plain (intText_digits q.num c hdigit)).1]
      rfl
    · have hall : ['.', '0'].all (fun d => !exponentChar d) = true := rfl
      exact List.all_eq_true.mp hall c htail
  have hsplit : plainRepr q = (intText q.num ++ ['.', '0']) ++ plainTail q := by
    simp [plainRepr]
  rw [hsplit, List.takeWhile_append_of_pos hplain, List.dropWhile_append_of_pos hplain]
  unfold plainTail
  split
  · simp
  · simp [exponentChar]

theorem intText_dot (n : Int) (rest : List Char) :
    (intText n ++ '.' :: rest).takeWhile (fun c => c != '.') = intText n ∧
      (intText n ++ '.' :: rest).dropWhile (fun c => c != '.') = '.' :: rest := by
  have hall : ∀ c ∈ intText n, (c != '.') = true := fun c hc =>
    bne_iff_ne.mpr (integerChar_plain (intText_digits n c hc)).2
  rw [List.takeWhile_append_of_pos hall, List.dropWhile_append_of_pos hall]
  simp

theorem plainTail_exponent (q : ℚ) : exponentText (plainTail q) = true := by
  unfold plainTail
  split
  · rfl
  · obtain ⟨c, rest, hdigits⟩ := List.exists_cons_of_ne_nil (Nat.toDigits_ne_nil (n := q.den))
    have hall : (c :: rest).all Char.isDigit = true :=
      List.all_eq_true.mpr fun d hd => digits_isDigit (hdigits ▸ hd)
    have hc : c.isDigit = true := (Bool.and_eq_true_iff.mp hall).1
    have hplus : c ≠ '+' := by
      rintro rfl
      cases hc
    have hminus : c ≠ '-' := by
      rintro rfl
      cases hc
    rw [hdigits, exponentText, digitsText, hall]
    · rfl
    · intro digits heq
      exact hplus (List.cons.inj heq).1
    · intro digits heq
      exact hminus (List.cons.inj heq).1

theorem plainRepr_numeral (q : ℚ) : floatNumeral (plainRepr q) = true := by
  obtain ⟨hmantissa, hexponent⟩ := plainRepr_cut q
  obtain ⟨hint, hfraction⟩ := intText_dot q.num ['0']
  simp only [floatNumeral, hmantissa, hexponent, hint, hfraction, integerNumeral_intText,
    plainTail_exponent]
  rfl

theorem plainRepr_chars (q : ℚ) : (plainRepr q).all numeralChar = true := by
  have htail : (plainTail q).all numeralChar = true := by
    unfold plainTail
    split
    · rfl
    · rw [List.all_cons, List.all_eq_true.mpr fun c hc => by simp [numeralChar, digits_isDigit hc]]
      rfl
  rw [plainRepr, List.all_append, List.all_cons, List.all_cons, intText_chars, htail]
  rfl

theorem plainParse_plainRepr (q : ℚ) : plainParse (plainRepr q) = .fin q := by
  have hnum : (plainRepr q).takeWhile (fun c => c != '.') = intText q.num :=
    (intText_dot q.num _).1
  have hexponent := (plainRepr_cut q).2
  unfold plainParse
  rw [hnum, hexponent, readInt_intText]
  unfold plainTail
  split
  · rename_i hnil
    split at hnil
    · rename_i hden
      exact congrArg PyFloat.fin ((Rat.den_eq_one_iff q).mp hden)
    · cases hnil
  · rename_i hcons
    split at hcons
    · cases hcons
    · obtain ⟨-, rfl⟩ := List.cons.inj hcons
      rw [Nat.ofDigitChars_ten_toDigits]
      exact congrArg PyFloat.fin (Rat.mkRat_self q)

def plainFloats : FloatText where
  repr := plainRepr
  parse := plainParse
  repr_chars := plainRepr_chars
  repr_numeral := plainRepr_numeral
  parse_repr := plainParse_plainRepr

end PlainFloats

end JsonText
