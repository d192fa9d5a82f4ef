import CycleMiner.Digest.Sha256

/-!
# The merkle root of transaction ids

Neighbours are hashed together, the last one with itself if it has no neighbour, and this is
repeated until one digest is left.

* `Merkle.join`    the digest of two digests;
* `Merkle.level`   one step, which leaves half as many digests, rounded up;
* `Merkle.root`    the last digest; of no digests, 32 zero bytes.
-/

namespace CycleMiner.Merkle

def join (left right : Digest) : Digest := doubleSha256 (left.bytes ++ right.bytes)

/-- hashes neighbours together -/
def level : List Digest → List Digest
  | a :: b :: rest => join a b :: level rest
  | [a] => [join a a]
  | [] => []

theorem length_level : (ds : List Digest) → (level ds).length = (ds.length + 1) / 2
  | [] => rfl
  | [_] => by simp only [level, List.length_cons, List.length_nil]
  | _ :: _ :: rest => by
    simp only [level, List.length_cons, length_level rest]
    omega

def root : List Digest → Digest
  | [] => Digest.zero
  | [d] => d
  | a :: b :: rest => root (level (a :: b :: rest))
termination_by ds => ds.length
decreasing_by
  simp only [length_level, List.length_cons]
  omega

end CycleMiner.Merkle
