import CycleMiner.InputFault
import CycleMiner.Template

/-!
# Block headers

A header is 80 bytes; all but the last four are settled by the template, the merkle root and the
miner's votes.  The last four are the header nonce, a word that is counted up to get new graphs.

* `blockVersion`           a version with the voted bits set;
* `HeaderPrefix`           the part before the header nonce;
* `HeaderPrefix.header`    the 80 bytes.
-/

namespace CycleMiner

/-- a version with bits set; the first bit that a 32-bit word does not have is refused -/
def blockVersion (version : UInt32) : List UInt8 → Except InputFault UInt32
  | [] => .ok version
  | bit :: rest =>
    if bit < 32 then blockVersion (version ||| (1 <<< bit.toUInt32)) rest
    else .error (.voteBit bit)

structure HeaderPrefix where
  version : UInt32
  /-- the hash of the block before -/
  previous : Digest
  root : Digest
  time : UInt32
  bits : UInt32
  deriving DecidableEq

namespace HeaderPrefix

def bytes (h : HeaderPrefix) : Bytes :=
  Bytes.ofUInt32 h.version ++ h.previous.bytes ++ h.root.bytes ++ Bytes.ofUInt32 h.time ++
    Bytes.ofUInt32 h.bits

def header (h : HeaderPrefix) (nonce : UInt32) : Bytes := h.bytes ++ Bytes.ofUInt32 nonce

@[simp] theorem length_bytes (h : HeaderPrefix) : h.bytes.length = 76 := by simp [bytes]

@[simp] theorem length_header (h : HeaderPrefix) (nonce : UInt32) :
    (h.header nonce).length = 80 := by
  simp [header]

/-- the header prefix of a template over a merkle root; the target is read first, then the votes,
then the hash of the block before -/
def ofTemplate (t : Template) (root : Digest) (votes : List UInt8) :
    Except InputFault HeaderPrefix :=
  match InputFault.ofBits t.bits with
  | .error f => .error f
  | .ok bits =>
    match blockVersion t.version votes with
    | .error f => .error f
    | .ok version =>
      match InputFault.ofShownHash t.previousHash with
      | .error f => .error f
      | .ok previous => .ok ⟨version, previous, root, t.time, bits⟩

end HeaderPrefix

end CycleMiner
