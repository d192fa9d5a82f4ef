import CycleMiner.Digest.Sha256

/-!
# SipHash-2-4 of one double word

The graph's edges come from a keyed hash of 64-bit words.  The two key words are the first sixteen
bytes of the SHA-256 digest of a header, each word least significant byte first.

* `SipHash.Key.ofHeader`   the key of a header;
* `SipHash.hash`           two rounds that take the word in, four that stir.

All sums are modulo `2 ^ 64`.
-/

namespace CycleMiner.SipHash

structure Key where
  k0 : UInt64
  k1 : UInt64
  deriving DecidableEq, Repr, Inhabited

/-- the double word of eight bytes, least significant first -/
def doubleWord (bs : Bytes) : UInt64 := UInt64.ofNat (Bytes.ofLittleEndian (bs.take 8))

def Key.ofHeader (header : Bytes) : Key :=
  let d := (sha256 header).bytes
  ⟨doubleWord d, doubleWord (d.drop 8)⟩

/-- the four words that are stirred -/
structure State where
  v0 : UInt64
  v1 : UInt64
  v2 : UInt64
  v3 : UInt64

/-- a word turned left by `n` places, `n` between 1 and 63 -/
@[inline] def rotateLeft (x n : UInt64) : UInt64 := (x <<< n) ||| (x >>> (64 - n))

@[inline] def round (s : State) : State :=
  let v0 := s.v0 + s.v1
  let v2 := s.v2 + s.v3
  let v1 := rotateLeft s.v1 13 ^^^ v0
  let v3 := rotateLeft s.v3 16 ^^^ v2
  let v0 := rotateLeft v0 32
  let v2 := v2 + v1
  let v0 := v0 + v3
  let v1 := rotateLeft v1 17 ^^^ v2
  let v3 := rotateLeft v3 21 ^^^ v0
  let v2 := rotateLeft v2 32
  ⟨v0, v1, v2, v3⟩

/-- the keyed state before the word is taken in -/
@[inline] def Key.state (k : Key) : State :=
  ⟨k.k0 ^^^ 0x736f6d6570736575, k.k1 ^^^ 0x646f72616e646f6d,
    k.k0 ^^^ 0x6c7967656e657261, k.k1 ^^^ 0x7465646279746573⟩

def hash (k : Key) (word : UInt64) : UInt64 :=
  let s := k.state
  let s := round (round { s with v3 := s.v3 ^^^ word })
  let s := { s with v0 := s.v0 ^^^ word, v2 := s.v2 ^^^ 0xff }
  let s := round (round (round (round s)))
  s.v0 ^^^ s.v1 ^^^ s.v2 ^^^ s.v3

end CycleMiner.SipHash
