import CycleMiner.Table

/-!
# Putting an edge into the table

The links form trees.  An edge joins the trees of its two ends, or, if both ends lie in one tree,
it closes a cycle.

* `Table.relink`     turns the links of a path round and hangs its first node under another;
* `meet`             the parts of two paths up to the node where they run together;
* `Table.plan`       what an edge does to a table;
* `Table.apply`      the table after it.

An edge between two trees turns round the shorter of the two paths, the second one if they are
equally long.  Two paths to one root are equally far from it once the longer has been cut to the
length of the shorter, so the first place where they agree is where they meet.  An edge that is
already a link is passed over; since 0 stands for no link, so is an edge from node 0 to a node
without a link.
-/

namespace CycleMiner

namespace Table

/-- hangs the first node of a path under `partner` and each other one under the node before it -/
def relink (t : Table) : List UInt32 → UInt32 → Table
  | [], _ => t
  | node :: rest, partner => relink (t.set node partner) rest node

end Table

/-- how many places two lists go on before they agree -/
def apart : List UInt32 → List UInt32 → Nat
  | a :: as, b :: bs => if a = b then 0 else apart as bs + 1
  | _, _ => 0

def meet (us vs : List UInt32) : List UInt32 × List UInt32 :=
  let short := min us.length vs.length
  let n := apart (us.drop (us.length - short)) (vs.drop (vs.length - short)) + 1
  (us.take (us.length - short + n), vs.take (vs.length - short + n))

inductive Insertion where
  /-- the edge is already a link -/
  | present
  /-- the edge joins two trees: this path is turned round and hung under the node -/
  | join (path : List UInt32) (partner : UInt32)
  /-- the edge closes a cycle; the paths of its two ends up to where they meet -/
  | close (us vs : List UInt32)
  deriving DecidableEq, Repr, Inhabited

namespace Insertion

/-- the number of edges of the cycle that two paths close together with the new edge -/
def cycleLength (us vs : List UInt32) : Nat := (us.length - 1) + (vs.length - 1) + 1

end Insertion

namespace Table

/-- what the edge between `u` and `v` does to a table in which paths have at most `bound` nodes -/
def plan (t : Table) (bound : Nat) (u v : UInt32) : Except PathFault Insertion :=
  if t.get u = v ∨ t.get v = u then .ok .present
  else
    match t.path bound u with
    | .error f => .error f
    | .ok us =>
      match t.path bound v with
      | .error f => .error f
      | .ok vs =>
        if us.getLast? = vs.getLast? then .ok (.close (meet us vs).1 (meet us vs).2)
        else if us.length < vs.length then .ok (.join us v)
        else .ok (.join vs u)

def apply (t : Table) : Insertion → Table
  | .join path partner => t.relink path partner
  | _ => t

end Table

end CycleMiner
