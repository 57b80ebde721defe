import Mathlib.Algebra.Order.Ring.Nat
import Mathlib.Data.Nat.Basic
import Mathlib.Data.List.Basic

/-!
# Numbers in hexadecimal of a fixed width

A number is written in lower-case hexadecimal, with zeros in front up to a width. What fits
the width is as long as the width and reads back.
-/

namespace HexText

def hexValue (c : Char) : Option Nat :=
  if '0' ≤ c ∧ c ≤ '9' then some (c.toNat - 48)
  else if 'a' ≤ c ∧ c ≤ 'f' then some (c.toNat - 87)
  else none

/-- The digits after those that have given `value`. -/
def readFrom (value : Nat) : List Char → Option Nat
  | [] => some value
  | c :: rest => (hexValue c).bind fun digit => readFrom (value * 16 + digit) rest

def readHex (text : List Char) : Option Nat := readFrom 0 text

def hexText (width n : Nat) : List Char :=
  List.replicate (width - (Nat.toDigits 16 n).length) '0' ++ Nat.toDigits 16 n

theorem hexValue_digitChar {digit : Nat} (h : digit < 16) :
    hexValue digit.digitChar = some digit := by
  have hall : ∀ d : Fin 16, hexValue (Nat.digitChar d) = some d.val := by decide
  exact hall ⟨digit, h⟩

theorem readFrom_append (value : Nat) (first second : List Char) :
    readFrom value (first ++ second) =
      (readFrom value first).bind fun reached => readFrom reached second := by
  induction first generalizing value with
  | nil => rfl
  | cons c rest ih =>
    simp only [List.cons_append, readFrom]
    cases hexValue c with
    | none => rfl
    | some digit => exact ih _

theorem readFrom_digits (n : Nat) : readFrom 0 (Nat.toDigits 16 n) = some n := by
  induction n using Nat.strong_induction_on with
  | h n ih =>
    by_cases hn : n < 16
    · rw [Nat.toDigits_of_lt_base hn]
      simp [readFrom, hexValue_digitChar hn]
    · have hrest := ih (n / 16) (by omega)
      have hdigit : n % 16 < 16 := Nat.mod_lt n (by omega)
      rw [Nat.toDigits_of_base_le (by omega) (by omega), readFrom_append, hrest]
      simp only [readFrom, Option.bind_some, hexValue_digitChar hdigit]
      have hvalue : n / 16 * 16 + n % 16 = n := by omega
      rw [hvalue]

theorem readFrom_zeros (k : Nat) : readFrom 0 (List.replicate k '0') = some 0 := by
  induction k with
  | zero => rfl
  | succ k ih => exact ih

theorem readHex_hexText (width n : Nat) : readHex (hexText width n) = some n := by
  rw [readHex, hexText, readFrom_append, readFrom_zeros]
  exact readFrom_digits n

theorem length_hexText {width n : Nat} (hwidth : 0 < width) (h : n < 16 ^ width) :
    (hexText width n).length = width := by
  have hdigits := (Nat.length_toDigits_le_iff (b := 16) (by omega) hwidth).mpr h
  rw [hexText, List.length_append, List.length_replicate]
  omega

theorem hexText_injective {width m n : Nat} (h : hexText width m = hexText width n) : m = n := by
  have hread := congrArg readHex h
  rw [readHex_hexText, readHex_hexText] at hread
  exact Option.some.inj hread

end HexText
