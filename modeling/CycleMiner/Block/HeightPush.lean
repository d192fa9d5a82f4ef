import CycleMiner.Bytes

/-!
# The height at the front of a coinbase

The input script of a coinbase starts with a push of the block's height.  Heights up to 16 are a
single operation; a larger one is a length and as many bytes, least significant first, with a zero
byte on top where the number would otherwise read as negative.

* `minimalBytes`        the bytes of a number without zeros on top;
* `heightPush`          the push.
-/

namespace CycleMiner.Block

/-- the bytes of a number, least significant first, without zeros on top -/
def minimalBytes (n : Nat) : Bytes :=
  if n = 0 then [] else UInt8.ofNat n :: minimalBytes (n / 256)

/-- the bytes of a number as the script language reads them: the top bit is a sign -/
def scriptNumber (n : Nat) : Bytes :=
  let bs := minimalBytes n
  match bs.getLast? with
  | some top => if 0x80 ≤ top then bs ++ [0] else bs
  | none => bs

def heightPush (height : UInt64) : Bytes :=
  let n := height.toNat
  if n = 0 then [0x00]
  else if n ≤ 16 then [UInt8.ofNat (0x50 + n)]
  else
    let bs := scriptNumber n
    UInt8.ofNat bs.length :: bs

end CycleMiner.Block
