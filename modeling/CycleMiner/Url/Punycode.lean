/-!
# Labels with characters outside ASCII

A label that starts with `xn--` stands for another one.  What follows are the ASCII characters of
that label up to the last hyphen, and then, for each of the other characters in the order of their
numbers, how far number and place are behind those of the one before, as a row of digits whose
weights adapt to the row before.

* `Punycode.decode`   the label that such a text stands for.
-/

namespace CycleMiner.Punycode

def digitValue (c : Char) : Option Nat :=
  if 'a' ≤ c ∧ c ≤ 'z' then some (c.toNat - 97)
  else if 'A' ≤ c ∧ c ≤ 'Z' then some (c.toNat - 65)
  else if '0' ≤ c ∧ c ≤ '9' then some (c.toNat - 22)
  else none

/-- a digit below this one is the last of its row -/
def threshold (place bias : Nat) : Nat :=
  if place ≤ bias then 1 else if bias + 26 ≤ place then 26 else place - bias

/-- halves a distance until it is small, counting -/
def shrink (delta count : Nat) : Nat × Nat :=
  if 455 < delta then shrink (delta / 35) (count + 36) else (delta, count)
termination_by delta
decreasing_by exact Nat.div_lt_self (by omega) (by omega)

/-- the bias for the next row of digits -/
def adapt (delta characters : Nat) (first : Bool) : Nat :=
  let delta := if first then delta / 700 else delta / 2
  let (delta, count) := shrink (delta + delta / characters) 0
  count + 36 * delta / (delta + 38)

/-- adds a row of digits to a distance; what is left of the digits.  Distances and weights are below
`2 ^ 32`. -/
def row (bias : Nat) : Nat → Nat → Nat → List Char → Option (Nat × List Char)
  | _, _, _, [] => none
  | place, weight, distance, c :: rest =>
    match digitValue c with
    | none => none
    | some d =>
      let t := threshold place bias
      let reached := distance + d * weight
      if UInt32.size ≤ reached then none
      else if d < t then some (reached, rest)
      else if UInt32.size ≤ weight * (36 - t) then none
      else row bias (place + 36) (weight * (36 - t)) reached rest

/-- puts the characters of all rows into their places -/
def fill : Nat → Nat → Nat → Nat → List Char → List Char → Option (List Char)
  | _, _, _, _, label, [] => some label
  | 0, _, _, _, _, _ => none
  | budget + 1, bias, number, distance, label, digits =>
    match row bias 36 1 distance digits with
    | none => none
    | some (reached, rest) =>
      let size := label.length + 1
      let number := number + reached / size
      let place := reached % size
      if number.isValidChar then
        fill budget (adapt (reached - distance) size (distance == 0)) number (place + 1)
          (label.insertIdx place (Char.ofNat number)) rest
      else none

/-- the label that a text stands for; it does not start with its only hyphen -/
def decode (cs : List Char) : Option (List Char) :=
  let digits := (cs.reverse.takeWhile (· ≠ '-')).reverse
  let plain := (cs.take (cs.length - digits.length)).dropLast
  if plain = [] ∧ cs.contains '-' then none
  else fill (digits.length + 1) 72 128 0 plain digits

end CycleMiner.Punycode
