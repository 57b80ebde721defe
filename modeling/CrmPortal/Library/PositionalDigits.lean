import Mathlib.Data.Nat.Bitwise
import Mathlib.Data.Nat.Digits.Lemmas

/-!
# Digits of a fixed number

`lowDigits b k n` lists the `k` lowest digits of a number, the lowest one first, and
`bigEndian b` reads a list of digits with the highest one first. A loop that appends a digit
and divides, `digitStep`, computes the first list.
-/

namespace PositionalDigits

universe u
variable {α : Type u} {b : Nat}

def lowDigits (b : Nat) : Nat → Nat → List Nat
  | 0, _ => []
  | k + 1, n => n % b :: lowDigits b k (n / b)

def bigEndian (b : Nat) (digits : List Nat) : Nat :=
  digits.foldl (fun value digit => value * b + digit) 0

/-- One step of a loop that writes the digits of a number as symbols. -/
def digitStep (b : Nat) (symbol : Nat → α) (loop : List α × Nat) : List α × Nat :=
  (loop.1 ++ [symbol (loop.2 % b)], loop.2 / b)

theorem length_lowDigits (k n : Nat) : (lowDigits b k n).length = k := by
  induction k generalizing n with
  | zero => rfl
  | succ k ih => rw [lowDigits, List.length_cons, ih]

theorem lowDigits_lt (hb : 0 < b) (k n : Nat) : ∀ digit ∈ lowDigits b k n, digit < b := by
  induction k generalizing n with
  | zero => simp [lowDigits]
  | succ k ih =>
    intro digit hdigit
    rcases List.mem_cons.mp hdigit with rfl | htail
    · exact Nat.mod_lt n hb
    · exact ih (n / b) digit htail

theorem ofDigits_lowDigits (k n : Nat) : Nat.ofDigits b (lowDigits b k n) = n % b ^ k := by
  induction k generalizing n with
  | zero => simp [lowDigits, Nat.mod_one]
  | succ k ih =>
    rw [lowDigits, Nat.ofDigits_cons, ih, Nat.pow_succ', Nat.mod_mul]

theorem iterate_digitStep (symbol : Nat → α) (k : Nat) (out : List α) (n : Nat) :
    (digitStep b symbol)^[k] (out, n) = (out ++ (lowDigits b k n).map symbol, n / b ^ k) := by
  induction k generalizing out n with
  | zero => simp [lowDigits]
  | succ k ih =>
    rw [Function.iterate_succ_apply, digitStep, ih, lowDigits, Nat.div_div_eq_div_mul,
      Nat.pow_succ']
    simp

theorem bigEndian_eq_ofDigits (digits : List Nat) :
    bigEndian b digits = Nat.ofDigits b digits.reverse := by
  rw [bigEndian, Nat.ofDigits_eq_foldr, List.foldr_reverse]
  simp [Nat.mul_comm, Nat.add_comm]

/-- Reading back what was written, from a number that fits. -/
theorem bigEndian_reverse_lowDigits {k n : Nat} (h : n < b ^ k) :
    bigEndian b (lowDigits b k n).reverse = n := by
  rw [bigEndian_eq_ofDigits, List.reverse_reverse, ofDigits_lowDigits, Nat.mod_eq_of_lt h]

theorem bigEndian_append (xs ys : List Nat) :
    bigEndian b (xs ++ ys) = bigEndian b xs * b ^ ys.length + bigEndian b ys := by
  rw [bigEndian_eq_ofDigits, bigEndian_eq_ofDigits, bigEndian_eq_ofDigits, List.reverse_append,
    Nat.ofDigits_append, List.length_reverse, Nat.add_comm, Nat.mul_comm]

theorem bigEndian_lt (hb : 1 < b) {digits : List Nat} (h : ∀ digit ∈ digits, digit < b) :
    bigEndian b digits < b ^ digits.length := by
  rw [bigEndian_eq_ofDigits, ← List.length_reverse]
  exact Nat.ofDigits_lt_base_pow_length hb fun digit hdigit =>
    h digit (List.mem_reverse.mp hdigit)

theorem bigEndian_injective (hb : 1 < b) {xs ys : List Nat} (hlen : xs.length = ys.length)
    (hx : ∀ digit ∈ xs, digit < b) (hy : ∀ digit ∈ ys, digit < b)
    (h : bigEndian b xs = bigEndian b ys) : xs = ys := by
  rw [bigEndian_eq_ofDigits, bigEndian_eq_ofDigits] at h
  have hrev : xs.reverse = ys.reverse := by
    refine Nat.ofDigits_inj_of_len_eq hb ?_ ?_ ?_ h
    · rw [List.length_reverse, List.length_reverse, hlen]
    · exact fun digit hdigit => hx digit (List.mem_reverse.mp hdigit)
    · exact fun digit hdigit => hy digit (List.mem_reverse.mp hdigit)
  exact List.reverse_injective hrev

end PositionalDigits
