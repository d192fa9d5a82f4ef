/-!
# Numeric hosts

A host whose last part is a number is an IPv4 address; one in square brackets is an IPv6 address.

* `Address.parts`          the parts of a host;
* `Address.endsInNumber`   whether a host has to be an IPv4 address;
* `Address.isVersion4`     whether it is one;
* `Address.isVersion6`     whether a text is an IPv6 address.

An IPv4 address has up to four numbers, decimal, octal behind `0` or hexadecimal behind `0x`; the
last stands for all bytes that are left.  An IPv6 address has eight pieces of up to four hexadecimal
digits; one run of pieces may be left out, and the last two may be written as four decimal numbers.
-/

namespace CycleMiner.Address

/-- the parts of a host between its points -/
def parts : List Char → List (List Char)
  | [] => [[]]
  | c :: rest =>
    if c = '.' then [] :: parts rest
    else
      match parts rest with
      | part :: others => (c :: part) :: others
      | [] => [[c]]

def decimalDigit (c : Char) : Option Nat :=
  if '0' ≤ c ∧ c ≤ '9' then some (c.toNat - 48) else none

def hexDigit (c : Char) : Option Nat :=
  if 'a' ≤ c ∧ c ≤ 'f' then some (c.toNat - 87)
  else if 'A' ≤ c ∧ c ≤ 'F' then some (c.toNat - 55)
  else decimalDigit c

/-- the number digits spell in a base, if all are digits of it -/
def spelt (base : Nat) (ds : List Char) : Option Nat :=
  ds.foldl (fun n? c =>
    match n?, hexDigit c with
    | some n, some d => if d < base then some (base * n + d) else none
    | _, _ => none) (some 0)

/-! ## Four bytes -/

def partNumber : List Char → Option Nat
  | [] => none
  | ['0'] => some 0
  | '0' :: c :: rest => if c = 'x' ∨ c = 'X' then spelt 16 rest else spelt 8 (c :: rest)
  | ds => spelt 10 ds

/-- the parts of a host without an empty last one -/
def ownParts (ps : List (List Char)) : List (List Char) :=
  if 1 < ps.length ∧ ps.getLast? = some [] then ps.dropLast else ps

def endsInNumber (host : List (List Char)) : Bool :=
  match (ownParts host).getLast? with
  | some (c :: rest) =>
    (c :: rest).all (fun d => (decimalDigit d).isSome) || (partNumber (c :: rest)).isSome
  | _ => false

def isVersion4 (host : List (List Char)) : Bool :=
  let ps := ownParts host
  let numbers := ps.filterMap partNumber
  numbers.length == ps.length && ps.length ≤ 4 &&
    match numbers.getLast? with
    | some last => last < Nat.pow 256 (5 - ps.length) && numbers.dropLast.all (· < 256)
    | none => false

/-! ## Eight pieces -/

/-- whether a text is a number below 256 without a leading zero -/
def isByte (ds : List Char) : Bool :=
  match spelt 10 ds with
  | some n => !ds.isEmpty && n < 256 && (ds.length == 1 || ds.head? != some '0')
  | none => false

/-- whether a text is four such numbers between points -/
def isQuad (cs : List Char) : Bool :=
  let ps := parts cs
  ps.length == 4 && ps.all isByte

/-- whether a text behind `count` pieces completes an address; `short` says that a run was left out
before -/
def completes : Nat → Bool → Nat → List Char → Bool
  | 0, _, _, _ => false
  | _ + 1, short, count, [] => short || count == 8
  | budget + 1, short, count, c :: rest =>
    if count = 8 then false
    else if c = ':' then !short && completes budget true (count + 1) rest
    else
      let digits := (c :: rest).takeWhile fun d => (hexDigit d).isSome
      let size := min digits.length 4
      match (c :: rest).drop size with
      | [] => short || count == 7
      | '.' :: _ => size ≠ 0 && count ≤ 6 && isQuad (c :: rest) && (short || count == 6)
      | ':' :: [] => false
      | ':' :: rest => completes budget short (count + 1) rest
      | _ => false

def isVersion6 (cs : List Char) : Bool :=
  match cs with
  | ':' :: ':' :: rest => completes (rest.length + 1) true 1 rest
  | ':' :: _ => false
  | [] => false
  | [_] => false
  | _ => completes (cs.length + 1) false 0 cs

end CycleMiner.Address
