import CycleMiner.Bytes

/-!
# CompactSize numbers

Counts and lengths inside transactions and blocks are written in one, three, five or nine bytes.
A number below 253 is its own byte; a larger one follows a mark that tells how many bytes it has.

* `CompactSize.encode`   the shortest of the four forms that holds the number;
* `CompactSize.decode`   reads a number of any form from the front of a byte string.

The marks 253, 254 and 255 are no numbers by themselves, so the first byte tells the form.
-/

namespace CycleMiner.CompactSize

/-- the shortest form of a number below `2 ^ 64` -/
def encode (n : Nat) : Bytes :=
  if n < 0xfd then [UInt8.ofNat n]
  else if n ≤ 0xffff then 0xfd :: Bytes.littleEndian 2 n
  else if n ≤ 0xffffffff then 0xfe :: Bytes.littleEndian 4 n
  else 0xff :: Bytes.littleEndian 8 n

/-- the number spelt by the first `k` bytes, and the bytes after them -/
def take (k : Nat) (bs : Bytes) : Option (Nat × Bytes) :=
  if k ≤ bs.length then some (Bytes.ofLittleEndian (bs.take k), bs.drop k) else none

def decode : Bytes → Option (Nat × Bytes)
  | [] => none
  | b :: rest =>
    if b < 0xfd then some (b.toNat, rest)
    else if b = 0xfd then take 2 rest
    else if b = 0xfe then take 4 rest
    else take 8 rest

/-- a byte string with its length before it -/
def counted (bs : Bytes) : Bytes := encode bs.length ++ bs

end CycleMiner.CompactSize
