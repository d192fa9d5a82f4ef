import CycleMiner.Bytes
import CycleMiner.Text.Quoted

/-!
# Bytes as hexadecimal digits

Two digits a byte, the high half first.  Writing uses lower-case digits; reading takes both cases.

* `Hex.encode`   the digits of a byte string;
* `Hex.decode`   the bytes of a text, or the first thing wrong with it.

A text of odd length is refused before any digit is looked at.  Length and positions are counted
in the bytes of the text's UTF-8 form, and a bad digit is shown as the character that has the
byte's own number.
-/

namespace CycleMiner

inductive HexFault where
  /-- the digits do not pair up -/
  | oddLength
  /-- the byte at this position is no digit -/
  | badDigit (byte : UInt8) (position : Nat)
  deriving DecidableEq, Repr, Inhabited

namespace HexFault

def message : HexFault → String
  | oddLength => "Odd number of digits"
  | badDigit b i =>
    "Invalid character " ++ Text.quotedChar (Char.ofNat b.toNat) ++ " at position " ++ toString i

end HexFault

namespace Hex

def digit (n : Nat) : Char := if n < 10 then Char.ofNat (48 + n) else Char.ofNat (87 + n)

/-- the number of a digit, given by its byte -/
def value (b : UInt8) : Option Nat :=
  let n := b.toNat
  if 48 ≤ n ∧ n ≤ 57 then some (n - 48)
  else if 97 ≤ n ∧ n ≤ 102 then some (n - 87)
  else if 65 ≤ n ∧ n ≤ 70 then some (n - 55)
  else none

def digits (b : UInt8) : List Char := [digit (b.toNat / 16), digit (b.toNat % 16)]

def encode (bs : Bytes) : String := String.ofList (bs.flatMap digits)

/-- the bytes spelt by digits standing at position `i` and after -/
def pairs (i : Nat) : Bytes → Except HexFault Bytes
  | hi :: lo :: rest =>
    match value hi, value lo with
    | none, _ => .error (.badDigit hi i)
    | _, none => .error (.badDigit lo (i + 1))
    | some h, some l => (pairs (i + 2) rest).map (UInt8.ofNat (16 * h + l) :: ·)
  | _ => .ok []

/-- the bytes spelt by the UTF-8 form of a text -/
def decodeBytes (text : Bytes) : Except HexFault Bytes :=
  if text.length % 2 = 0 then pairs 0 text else .error .oddLength

def decode (text : String) : Except HexFault Bytes := decodeBytes (Bytes.ofText text)

end Hex

end CycleMiner
