import CycleMiner.Proofs.Table.Plan

/-!
# No cell outside the table is touched

A read outside a table counts as a read of 0, and a write there does nothing.  Here the same
programs look at every index first and give up at one that is outside; in an acyclic table whose
links lead inside they never do.

* `Table.get?`, `Table.set?`     one cell, if there is one;
* `Table.path?`, `Table.insert?` the programs, cell by cell;
* `path?_eq`, `insert?_eq`       they do not give up.
-/

namespace CycleMiner

namespace Table

def get? (t : Table) (node : UInt32) : Option UInt32 := t.cells[node.toNat]?

/-- writes the cell of a node, if there is one -/
def set? (t : Table) (node partner : UInt32) : Option Table :=
  if node.toNat < t.cells.size then some (t.set node partner) else none

def follow? (t : Table) (bound : Nat) :
    Nat → UInt32 → List UInt32 → Option (Except PathFault (List UInt32))
  | room, node, seen =>
    (t.get? node).bind fun next =>
      if next = 0 then some (.ok seen.reverse)
      else
        match room with
        | room + 1 => follow? t bound room next (next :: seen)
        | 0 =>
          match seen.idxOf? next with
          | some back => some (.error (.loop (back + 1)))
          | none => some (.error (.tooLong bound))

def path? (t : Table) (bound : Nat) (node : UInt32) : Option (Except PathFault (List UInt32)) :=
  match bound with
  | 0 => some (.error (.tooLong 0))
  | room + 1 => follow? t bound room node [node]

def plan? (t : Table) (bound : Nat) (u v : UInt32) : Option (Except PathFault Insertion) :=
  (t.get? u).bind fun x => (t.get? v).bind fun y =>
    if x = v ∨ y = u then some (.ok .present)
    else
      (t.path? bound u).bind fun
        | .error f => some (.error f)
        | .ok us => (t.path? bound v).map fun
          | .error f => .error f
          | .ok vs =>
            if us.getLast? = vs.getLast? then .ok (.close (meet us vs).1 (meet us vs).2)
            else if us.length < vs.length then .ok (.join us v)
            else .ok (.join vs u)

def relink? (t : Table) : List UInt32 → UInt32 → Option Table
  | [], _ => some t
  | node :: rest, partner => (t.set? node partner).bind fun t' => relink? t' rest node

def insert? (t : Table) (u v : UInt32) : Option Table :=
  (t.plan? maxPathLength u v).bind fun
    | .ok (.join path partner) => t.relink? path partner
    | _ => some t

section
variable {t : Table} {u v x : UInt32}

theorem get?_eq (hx : x.toNat < t.cells.size) : t.get? x = some (t.get x) := by
  rw [get?, get, Array.getD_eq_getD_getElem?, Array.getElem?_eq_getElem hx]
  rfl

theorem relink?_eq {path : List UInt32} (partner : UInt32)
    (hb : ∀ x ∈ path, x.toNat < t.cells.size) :
    t.relink? path partner = some (t.relink path partner) := by
  induction path generalizing t partner with
  | nil => rfl
  | cons x path ih =>
    have hset : t.set? x partner = some (t.set x partner) := if_pos (hb x List.mem_cons_self)
    rw [relink?, hset, Option.bind_some, relink]
    apply ih
    intro y hy
    rw [size_set]
    exact hb y (List.mem_cons_of_mem x hy)

variable (hl : t.LinksInside)
include hl

theorem follow?_eq (bound room : Nat) (seen : List UInt32) (hx : x.toNat < t.cells.size) :
    t.follow? bound room x seen = some (t.follow bound room x seen) := by
  induction room generalizing x seen with
  | zero =>
    unfold follow? follow
    rw [get?_eq hx, Option.bind_some]
    dsimp only
    split
    · rfl
    · cases seen.idxOf? (t.get x) <;> rfl
  | succ room ih =>
    unfold follow? follow
    rw [get?_eq hx, Option.bind_some]
    dsimp only
    split
    · rfl
    · rename_i hne
      exact ih _ (hl x _ (link_get hne))

/-- following links from a node of the table gives up nowhere -/
theorem path?_eq (bound : Nat) (hx : x.toNat < t.cells.size) :
    t.path? bound x = some (t.path bound x) := by
  cases bound with
  | zero => rfl
  | succ room => exact follow?_eq hl (room + 1) room [x] hx

variable (hu : u.toNat < t.cells.size) (hv : v.toNat < t.cells.size)
include hu hv

theorem plan?_eq (bound : Nat) : t.plan? bound u v = some (t.plan bound u v) := by
  unfold plan? plan
  rw [get?_eq hu, get?_eq hv, Option.bind_some, Option.bind_some, path?_eq hl bound hu,
    path?_eq hl bound hv]
  split
  · rfl
  · cases t.path bound u with
    | error f => rfl
    | ok us => cases t.path bound v <;> rfl

/-- an edge between nodes of the table gives up nowhere -/
theorem insert?_eq (h : t.Acyclic) : t.insert? u v = some (t.insert u v) := by
  unfold insert? insert
  rw [plan?_eq hl hu hv, Option.bind_some]
  rcases plan_cases h maxPathLength u v with
    ⟨e, -⟩ | ⟨e, -⟩ | ⟨-, as, bs, x, m, -, e⟩ | ⟨x, p, y, hh, hxy, e⟩
  · rw [e]
    rfl
  · rw [e]
  · rw [e]
    rfl
  · rw [e]
    exact relink?_eq y (hh.forall_mem_lt hl hu hv hxy)

end

end Table

end CycleMiner
