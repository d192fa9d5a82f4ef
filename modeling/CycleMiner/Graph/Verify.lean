import CycleMiner.Graph

/-!
# Checking a proof

A proof is a list of nonces.  It is good if the nonces ascend, lie below the easiness, are as many
as the parameters say, and if their edges form one closed cycle.  The cycle is checked by a walk
from the first edge: cross to the only other edge that shares the node on the second side, then to
the only other edge that shares that edge's node on the first side, and so on until the first edge
is met again.

* `other`         the only other place that holds the same node, if there is just one;
* `closesAfter`   the walk: does it come back to the first edge when no edge is left over?
* `Graph.verify`  the whole check.

Every two crossings use up two of the edges, so the walk ends.
-/

namespace CycleMiner

/-- the only place other than `i` that holds the same node as `i`, if there is just one -/
def other (nodes : Array UInt32) (i : Nat) : Option Nat :=
  match (List.range nodes.size).filter fun k => k != i && nodes[k]? == nodes[i]? with
  | [k] => some k
  | _ => none

/-- the walk from edge `i` with `remaining` edges not yet walked over: it has to meet edge 0 again
exactly when none remains -/
def closesAfter (us vs : Array UInt32) : Nat → Nat → Bool
  | remaining + 2, i =>
    match other vs i with
    | none => false
    | some j =>
      match other us j with
      | none => false
      | some k => if k = 0 then remaining == 0 else closesAfter us vs remaining k
  | _, _ => false

def ascending : List UInt32 → Bool
  | a :: b :: rest => a < b && ascending (b :: rest)
  | _ => true

namespace Graph

def verify (g : Graph) (easiness : UInt32) (nonces : List UInt32) : Bool :=
  nonces.length == g.params.proofSize && ascending nonces && nonces.all (· < easiness) &&
    closesAfter (nonces.map (g.endpoint · .a)).toArray (nonces.map (g.endpoint · .b)).toArray
      g.params.proofSize 0

end Graph

end CycleMiner
