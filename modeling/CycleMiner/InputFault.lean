import CycleMiner.Target

/-!
# What can be wrong with the contents of a template or a script

Everything that stops a template from becoming work, and a script from being read, each with the
values its text shows.
-/

namespace CycleMiner

/-- what is wrong with a template's contents or with a script -/
inductive InputFault where
  /-- a text that should be hexadecimal -/
  | hex (fault : HexFault)
  /-- a text that should be a word in base 16 -/
  | integer (fault : IntegerFault)
  /-- a compact form without a target -/
  | compact (fault : CompactFault)
  /-- a vote for a bit that a 32-bit version does not have -/
  | voteBit (bit : UInt8)
  /-- an input script of the coinbase that is too long -/
  | scriptLength (length : Nat)
  /-- a hash that is not of 32 bytes -/
  | hashLength (length : Nat)
  /-- whatever else was refused -/
  | other (text : String)
  deriving DecidableEq, Repr, Inhabited

namespace InputFault

def message : InputFault → String
  | hex f => "Hex conversion failed: " ++ f.message
  | integer f => "Integer parse failed: " ++ f.message
  | compact f => f.message
  | voteBit b => "vote bit " ++ toString b.toNat ++ " out of range"
  | scriptLength n => "coinbase script must be at most 100 bytes, got " ++ toString n
  | hashLength n => "expected a 32-byte hash, got " ++ toString n ++ " bytes"
  | other text => text

/-- hexadecimal digits inside a template -/
def ofHex (text : String) : Except InputFault Bytes := (Hex.decode text).mapError hex

/-- a hash as it is shown, last byte first, brought into the order in which it is hashed -/
def ofShownHash (text : String) : Except InputFault Digest :=
  match ofHex text with
  | .error f => .error f
  | .ok bs =>
    match Digest.ofBytes? bs with
    | some d => .ok d.reverse
    | none => .error (.hashLength bs.length)

def ofBits (text : String) : Except InputFault UInt32 := (Text.hexWord text).mapError integer

end InputFault

end CycleMiner
