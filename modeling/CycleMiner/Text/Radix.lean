import CycleMiner.Bytes

/-!
# Words written in base 16

The compact target of a template is a text of hexadecimal digits.  One plus sign may stand before
them; nothing else may stand beside them.

* `IntegerFault`   why a text is no word: there is nothing, something that is no digit, or the
  number is too large;
* `hexWord`        the 32-bit word a text spells.

The first fault from the left is the one that is told.
-/

namespace CycleMiner

inductive IntegerFault where
  | empty
  | invalidDigit
  | tooLarge
  deriving DecidableEq, Repr, Inhabited

namespace IntegerFault

def message : IntegerFault → String
  | empty => "cannot parse integer from empty string"
  | invalidDigit => "invalid digit found in string"
  | tooLarge => "number too large to fit in target type"

end IntegerFault

namespace Text

def hexDigit (c : Char) : Option Nat :=
  let n := c.toNat
  if 48 ≤ n ∧ n ≤ 57 then some (n - 48)
  else if 97 ≤ n ∧ n ≤ 102 then some (n - 87)
  else if 65 ≤ n ∧ n ≤ 70 then some (n - 55)
  else none

/-- the number spelt by digits that follow those of `n` -/
def hexDigits (n : Nat) : List Char → Except IntegerFault Nat
  | [] => .ok n
  | c :: rest =>
    match hexDigit c with
    | none => .error .invalidDigit
    | some d => if 16 * n + d < UInt32.size then hexDigits (16 * n + d) rest else .error .tooLarge

/-- the word a text spells in base 16 -/
def hexWord (s : String) : Except IntegerFault UInt32 :=
  match s.toList with
  | [] => .error .empty
  | ['+'] => .error .invalidDigit
  | '+' :: rest => (hexDigits 0 rest).map UInt32.ofNat
  | cs => (hexDigits 0 cs).map UInt32.ofNat

/-- the eight lower-case digits of a word -/
def hexWord8 (w : UInt32) : String :=
  let ds := Nat.toDigits 16 w.toNat
  String.ofList (List.replicate (8 - ds.length) '0' ++ ds)

end Text

end CycleMiner
