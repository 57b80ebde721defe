import Mathlib.Algebra.Order.Ring.Nat

/-!
# Rounding to a number of significant bits

A binary float of precision `p` holds the magnitudes with at most `p` significant
bits. Other magnitudes are rounded to the nearest of these, ties to the even one.
-/

namespace BinaryRounding

/-- At most `p` significant bits. -/
def Holds (p m : Nat) : Prop := ∃ a k, a < 2 ^ p ∧ m = a * 2 ^ k

/-- The distance of two neighbours among the magnitudes that are held, near `m`. -/
def spacing (p m : Nat) : Nat := 2 ^ (m.log2 + 1 - p)

/-- `m / unit`, rounded to the nearest integer, ties to the even one. -/
def divHalfEven (m unit : Nat) : Nat :=
  if 2 * (m % unit) < unit then m / unit
  else if unit < 2 * (m % unit) then m / unit + 1
  else if (m / unit) % 2 = 0 then m / unit else m / unit + 1

def nearest (p m : Nat) : Nat := divHalfEven m (spacing p m) * spacing p m

variable {p m : Nat}

end BinaryRounding
