import CycleMiner.Params
import CycleMiner.SipHash

/-!
# The graph of a header

Every nonce names an edge between the two sides.  Its endpoint on a side is the low bits of a
keyed hash of twice the nonce, plus one on the second side.  Nothing else is known of the hash, and
the type keeps it as any function on 64-bit words.

* `Graph.keyed`      the graph of a header;
* `Graph.endpoint`   the node an edge touches on a side, numbered from 0 on either side;
* `Graph.address`    the same node numbered over both sides: the second side follows the first;
* `Graph.edge`       both endpoints.
-/

namespace CycleMiner

inductive Side where
  | a
  | b
  deriving DecidableEq, Repr, Inhabited

/-- the number a side adds to the hashed word -/
def Side.index : Side → UInt64
  | .a => 0
  | .b => 1

structure Edge where
  u : UInt32
  v : UInt32
  deriving DecidableEq, Repr, Inhabited

/-- a graph whose edges come from a hash -/
structure Graph where
  params : Params
  hash : UInt64 → UInt64

namespace Graph

def keyed (params : Params) (header : Bytes) : Graph :=
  let key := SipHash.Key.ofHeader header
  ⟨params, SipHash.hash key⟩

def endpoint (g : Graph) (nonce : UInt32) (side : Side) : UInt32 :=
  (g.hash (2 * nonce.toUInt64 + side.index)).toUInt32 &&& g.params.mask

def address (g : Graph) (nonce : UInt32) (side : Side) : UInt32 :=
  match side with
  | .a => g.endpoint nonce .a
  | .b => g.params.half + g.endpoint nonce .b

def edge (g : Graph) (nonce : UInt32) : Edge := ⟨g.endpoint nonce .a, g.endpoint nonce .b⟩

end Graph

end CycleMiner
