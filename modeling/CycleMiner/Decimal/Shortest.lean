import CycleMiner.Decimal.Binary

/-!
# The fewest digits that name a double

Of all decimals that are closer to a double than to its neighbours, the ones with the fewest
digits are taken, and of these the closest to the double.

* `Digits`          a whole number and a power of ten;
* `Digits.ofBinary` the decimal of a double;
* `Digits.plain`    written out in full, without a power of ten;
* `Digits.compact`  with a power of ten where the number is very large or very small.

The search runs over the number of digits.  With a number of digits settled, the decimals lie on a
grid; if any point of the grid is close enough, one of the two next to the double is, so only these
two are tried.
-/

namespace CycleMiner.Decimal

/-- the decimal `digits * 10 ^ exponent` -/
structure Digits where
  digits : Nat
  exponent : Int
  deriving DecidableEq, Repr, Inhabited

def digitCount (n : Nat) : Nat := (Nat.toDigits 10 n).length

/-- numerator and denominator of `n * 10 ^ e` -/
def decimalRatio (n : Nat) (e : Int) : Nat × Nat :=
  if 0 ≤ e then (n * Nat.pow 10 e.toNat, 1) else (n, Nat.pow 10 (-e).toNat)

/-- `a ≤ b` for numerators and denominators -/
def ratioLe (a b : Nat × Nat) : Bool := a.1 * b.2 ≤ b.1 * a.2

def ratioLt (a b : Nat × Nat) : Bool := a.1 * b.2 < b.1 * a.2

def ratioDistance (a b : Nat × Nat) : Nat × Nat :=
  let x := a.1 * b.2
  let y := b.1 * a.2
  (if x ≤ y then y - x else x - y, a.2 * b.2)

/-- the decimals that name a double: everything between the two bounds -/
structure Interval where
  low : Nat × Nat
  high : Nat × Nat
  closed : Bool

/-- half way to the neighbours on both sides; the ends belong to it if the significand is even -/
def Interval.ofBinary (b : Binary) : Interval :=
  let m := b.significand
  let low := if b.atEdge then Binary.ratio (4 * m - 1) (b.exponent - 2)
    else Binary.ratio (2 * m - 1) (b.exponent - 1)
  ⟨low, Binary.ratio (2 * m + 1) (b.exponent - 1), m % 2 = 0⟩

def Interval.contains (i : Interval) (r : Nat × Nat) : Bool :=
  if i.closed then ratioLe i.low r && ratioLe r i.high else ratioLt i.low r && ratioLt r i.high

/-- the power of ten of the first digit of a ratio that is not zero -/
def leadingExponent (r : Nat × Nat) : Int :=
  let guess : Int := (digitCount r.1 : Int) - digitCount r.2
  if ratioLe (decimalRatio 1 guess) r then guess else guess - 1

/-- the best of the two points of a grid next to a double, if one of them names it -/
def onGrid (value : Nat × Nat) (i : Interval) (e : Int) : Option Digits :=
  let scale := decimalRatio 1 e
  let below := value.1 * scale.2 / (value.2 * scale.1)
  let lower := decimalRatio below e
  let upper := decimalRatio (below + 1) e
  match i.contains lower, i.contains upper with
  | true, true =>
    let dl := ratioDistance value lower
    let du := ratioDistance value upper
    if ratioLt dl du || (!ratioLt du dl && below % 2 = 0) then some ⟨below, e⟩
    else some ⟨below + 1, e⟩
  | true, false => some ⟨below, e⟩
  | false, true => some ⟨below + 1, e⟩
  | false, false => none

/-- tries grids of more and more digits; `top` is the power of ten of the first digit -/
def search (value : Nat × Nat) (i : Interval) (top : Int) : Nat → Nat → Digits
  | 0, n => ⟨0, n⟩
  | more + 1, n =>
    match onGrid value i (top - n) with
    | some d => d
    | none => search value i top more (n + 1)

def Digits.trim (d : Digits) : Digits :=
  if h : d.digits ≠ 0 ∧ d.digits % 10 = 0 then
    Digits.trim ⟨d.digits / 10, d.exponent + 1⟩
  else d
termination_by d.digits
decreasing_by exact Nat.div_lt_self (Nat.pos_of_ne_zero h.1) (by decide)

namespace Digits

def ofBinary (b : Binary) : Digits :=
  if b.significand = 0 then ⟨0, 0⟩
  else
    let value := Binary.ratio b.significand b.exponent
    (search value (Interval.ofBinary b) (leadingExponent value) 18 0).trim

def digitChars (n : Nat) : List Char := Nat.toDigits 10 n

/-- digits in full: whole part, and a fraction if there is one -/
def plain (d : Digits) : String :=
  let ds := digitChars d.digits
  if 0 ≤ d.exponent then
    if d.digits = 0 then "0" else String.ofList (ds ++ List.replicate d.exponent.toNat '0')
  else
    let places := (-d.exponent).toNat
    let ds := List.replicate (places + 1 - ds.length) '0' ++ ds
    let whole := ds.length - places
    String.ofList (ds.take whole ++ '.' :: ds.drop whole)

/-- with a fraction always, and with a power of ten if the point would stand more than 16 places
behind the first digit or more than 5 before it -/
def compact (d : Digits) : String :=
  let ds := digitChars d.digits
  let point : Int := ds.length + d.exponent
  if d.digits = 0 then "0.0"
  else if 0 ≤ d.exponent ∧ point ≤ 16 then d.plain ++ ".0"
  else if -5 < point ∧ point ≤ 16 then d.plain
  else
    let power := (if 0 < point then "e+" else "e") ++ toString (point - 1)
    match ds with
    | [c] => c.toString ++ power
    | c :: rest => String.ofList (c :: '.' :: rest) ++ power
    | [] => power

end Digits

def compactText (x : Float) : String :=
  match Binary.ofFloat? x with
  | none => "null"
  | some b => (if b.negative then "-" else "") ++ (Digits.ofBinary b).compact

end CycleMiner.Decimal
