import CycleMiner.Json

/-!
# Numbers in a JSON text

A number without point and power is whole if it fits 64 bits, signed or unsigned; every other
number is a double.  Its value is made in a fixed way: the digits are gathered into a word of 64
bits, digits that no longer fit only move the point, and the word is multiplied or divided by a
power of ten.  This is not always the nearest double, so the way is part of the format.

* `gather`       digits into a word;
* `scale`        a word times a power of ten, none if that is too large for a double;
* `Json.number`  the value of a number from its parts.
-/

namespace CycleMiner.Json

def digitValue (c : Char) : Nat := c.toNat - 48

/-- digits gathered into a word behind `word`; gathering ends at the first digit that does not fit,
and the digits from there on are counted -/
def gather (word : Nat) : List Char → Nat × Nat
  | [] => (word, 0)
  | c :: rest =>
    let next := 10 * word + digitValue c
    if next < UInt64.size then gather next rest else (word, rest.length + 1)

/-- digits behind the point gathered into a word; the count is of digits taken in -/
def gatherFraction (word taken : Nat) : List Char → Nat × Nat
  | [] => (word, taken)
  | c :: rest =>
    let next := 10 * word + digitValue c
    if next < UInt64.size then gatherFraction next (taken + 1) rest else (word, taken)

def powerOfTen (n : Nat) : Float := Float.ofScientific 1 false n

def divide (x : Float) (n : Nat) : Float :=
  if n ≤ 308 then x / powerOfTen n
  else if x == 0 then x
  else divide (x / powerOfTen 308) (n - 308)
termination_by n

def scale (word : Nat) (power : Int) : Option Float :=
  let x := (UInt64.ofNat word).toFloat
  if power < 0 then some (divide x (-power).toNat)
  else if power ≤ 308 then
    let y := x * powerOfTen power.toNat
    if y.isInf then none else some y
  else if x == 0 then some x
  else none

def signed (negative : Bool) (x : Float) : Json := float (if negative then -x else x)

/-- the value of a number from its sign, its digits before and behind the point, and its power -/
def number (negative : Bool) (whole : List Char) (fraction : Option (List Char))
    (power : Option (Bool × List Char)) : Option Json :=
  let (word, dropped) := gather 0 whole
  match fraction, power, dropped with
  | none, none, 0 =>
    if !negative then some (int word)
    else if 0 < word ∧ word ≤ Nat.pow 2 63 then some (int (-word))
    else some (signed true (UInt64.ofNat word).toFloat)
  | _, _, _ =>
    let (word, taken) := gatherFraction word 0 (fraction.getD [])
    let start : Int := (dropped : Int) - taken
    match power with
    | none => (scale word start).map (signed negative)
    | some (down, digits) =>
      let n := digits.foldl (fun n c => 10 * n + digitValue c) 0
      if Nat.pow 2 31 ≤ n then
        if word ≠ 0 ∧ !down then none else some (signed negative 0)
      else (scale word (if down then start - n else start + n)).map (signed negative)

end CycleMiner.Json
