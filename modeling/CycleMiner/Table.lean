import CycleMiner.Params

/-!
# The table of links

Every node of both sides has a cell, and there is one spare cell.  A cell holds the node it is
linked to, or 0 for no link.  Following links from a node gives its path; the path ends at a node
without a link, its root.

* `Table.get`, `Table.set`   one cell; a node outside the table reads as unlinked;
* `Table.follow`             the nodes of a path in the order they are met, root last;
* `Table.path`               the same with a bound on the number of nodes.

A path that would need more nodes than the bound is an anomaly.  If the node that no longer fits is
one of those already met, the links run in a loop, and the distance back to its last occurrence is
the loop's length; otherwise the path is just too long.
-/

namespace CycleMiner

inductive PathFault where
  /-- more nodes than the bound, all different -/
  | tooLong (bound : Nat)
  /-- the links run in a loop of this many nodes -/
  | loop (length : Nat)
  deriving DecidableEq, Repr, Inhabited

namespace PathFault

def message : PathFault → String
  | tooLong bound => "maximum path length " ++ toString bound ++ " exceeded"
  | loop length => "illegal " ++ toString length ++ "-cycle"

end PathFault

/-- the links between nodes, by the node they leave -/
structure Table where
  cells : Array UInt32
  deriving DecidableEq, Repr, Inhabited

namespace Table

/-- a table without links, with a cell for every node and a spare one -/
def empty (p : Params) : Table := ⟨Array.replicate (p.nodeCount.toNat + 1) 0⟩

/-- the node that `node` is linked to, 0 if there is none -/
def get (t : Table) (node : UInt32) : UInt32 := t.cells.getD node.toNat 0

def set (t : Table) (node partner : UInt32) : Table :=
  ⟨t.cells.setIfInBounds node.toNat partner⟩

/-- the number of nodes a path may have in a search -/
def maxPathLength : Nat := 4096

/-- follows links until a node without one, with room for `room` more nodes; `seen` holds the
nodes met so far, the newest first -/
def follow (t : Table) (bound : Nat) : Nat → UInt32 → List UInt32 → Except PathFault (List UInt32)
  | room, node, seen =>
    let next := t.get node
    if next = 0 then .ok seen.reverse
    else
      match room with
      | room + 1 => follow t bound room next (next :: seen)
      | 0 =>
        match seen.idxOf? next with
        | some back => .error (.loop (back + 1))
        | none => .error (.tooLong bound)

/-- the nodes from `node` to its root, at most `bound` of them -/
def path (t : Table) (bound : Nat) (node : UInt32) : Except PathFault (List UInt32) :=
  match bound with
  | 0 => .error (.tooLong 0)
  | room + 1 => follow t bound room node [node]

/-- the cells that hold a link, in the order of their nodes -/
def links (t : Table) : List (Nat × UInt32) :=
  (List.range t.cells.size).filterMap fun i =>
    let partner := t.cells.getD i 0
    if partner = 0 then none else some (i, partner)

/-! ## One cell after another -/

theorem size_set (t : Table) (node partner : UInt32) :
    (t.set node partner).cells.size = t.cells.size := by
  simp [set]

theorem get_set_self (t : Table) (node partner : UInt32) (h : node.toNat < t.cells.size) :
    (t.set node partner).get node = partner := by
  simp [get, set, Array.getD_eq_getD_getElem?, h]

theorem get_set_other (t : Table) (node partner n : UInt32) (h : n ≠ node) :
    (t.set node partner).get n = t.get n := by
  have : node.toNat ≠ n.toNat := fun e => h (UInt32.toNat_inj.1 e).symm
  simp [get, set, Array.getD_eq_getD_getElem?, Array.getElem?_setIfInBounds_ne this]

@[simp] theorem get_empty (p : Params) (n : UInt32) : (empty p).get n = 0 := by
  simp [get, empty, Array.getD_eq_getD_getElem?, Array.getElem?_replicate]
  split <;> rfl

end Table

end CycleMiner
