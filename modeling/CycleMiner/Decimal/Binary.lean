/-!
# The exact value of a double

A finite double is a sign and a number `significand * 2 ^ exponent`.  Texts of doubles are made
from these two whole numbers, so that no rounding happens but the one the text asks for.

* `Binary.ofFloat?`   sign, significand and exponent; none for infinities and what is no number.
-/

namespace CycleMiner.Decimal

/-- a finite double -/
structure Binary where
  negative : Bool
  significand : Nat
  exponent : Int
  /-- the double is the smallest of its exponent, so that the double below is only half as far -/
  atEdge : Bool
  deriving DecidableEq, Repr, Inhabited

namespace Binary

def ofFloat? (x : Float) : Option Binary :=
  let bits : Nat := x.toBits.toNat
  let negative : Bool := bits / Nat.pow 2 63 = 1
  let field : Nat := bits / Nat.pow 2 52 % Nat.pow 2 11
  let fraction : Nat := bits % Nat.pow 2 52
  if field = 2047 then none
  else if field = 0 then some ⟨negative, fraction, -1074, false⟩
  else some ⟨negative, fraction + Nat.pow 2 52, (field : Int) - 1075, fraction = 0 ∧ 1 < field⟩

/-- numerator and denominator of `n * 2 ^ e` -/
def ratio (n : Nat) (e : Int) : Nat × Nat :=
  if 0 ≤ e then (n * Nat.pow 2 e.toNat, 1) else (n, Nat.pow 2 (-e).toNat)

end Binary

end CycleMiner.Decimal
