import CycleMiner.Decimal.Binary

/-!
# Doubles with a fixed number of places

The exact value of a double is rounded to the given number of places; a value half way between two
neighbours goes to the one whose last digit is even.

* `roundDiv`    a quotient to the nearest whole number, ties to the even one;
* `fixedText`   the text.
-/

namespace CycleMiner.Decimal

def roundDiv (n d : Nat) : Nat :=
  let q := n / d
  let r := n % d
  if 2 * r < d then q else if d < 2 * r then q + 1 else if q % 2 = 0 then q else q + 1

/-- a number of units in the last of `places` places -/
def placed (places units : Nat) : String :=
  let ds := Nat.toDigits 10 units
  let ds := List.replicate (places + 1 - ds.length) '0' ++ ds
  let whole := ds.length - places
  String.ofList (ds.take whole) ++
    (if places = 0 then "" else "." ++ String.ofList (ds.drop whole))

def fixedText (places : Nat) (x : Float) : String :=
  match Binary.ofFloat? x with
  | none => if x != x then "NaN" else if x < 0 then "-inf" else "inf"
  | some b =>
    let r := Binary.ratio (b.significand * Nat.pow 10 places) b.exponent
    (if b.negative then "-" else "") ++ placed places (roundDiv r.1 r.2)

end CycleMiner.Decimal
