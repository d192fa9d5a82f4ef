import CycleMiner.Proofs.Graph.Edges
import CycleMiner.Proofs.Table.Inside

/-!
# The invariant of a table

`IsForest g S t`: the table has a cell for every node and a spare one, its links are edges of nonces
of `S`, and every node has a path.  An empty table is such a forest of no nonces, and the edge of a
nonce makes it a forest of one nonce more.

* `IsForest.length_lt`    a path has fewer links than there are nodes;
* `IsForest.spare`        the spare cell stays empty;
* `IsForest.insert`       what the edge of a nonce preserves.
-/

namespace CycleMiner

/-- a table whose links are edges of the nonces of `S` and run to roots -/
structure IsForest (g : Graph) (S : Set UInt32) (t : Table) : Prop where
  size_eq : t.cells.size = g.params.nodeCount.toNat + 1
  acyclic : t.Acyclic
  joins : ∀ x y, t.Link x y → g.Joins S x y

namespace IsForest

section
variable {g : Graph} {S S' : Set UInt32} {t : Table} (h : IsForest g S t)
include h

theorem linksInside : t.LinksInside := by
  intro x y hxy
  have := UInt32.lt_iff_toNat_lt.1 (h.joins x y hxy).lt_nodeCount
  rw [h.size_eq]
  omega

theorem lt_size {x : UInt32} (hx : x ≤ g.params.nodeCount) : x.toNat < t.cells.size := by
  have := UInt32.le_iff_toNat_le.1 hx
  rw [h.size_eq]
  omega

theorem address_lt_size (n : UInt32) (s : Side) : (g.address n s).toNat < t.cells.size :=
  h.lt_size (UInt32.le_of_lt (g.address_lt n s))

theorem lt_nodeCount_of_link {x y : UInt32} (hxy : t.Link x y) : x < g.params.nodeCount :=
  (h.joins x y hxy).symm.lt_nodeCount

theorem get_of_le {x : UInt32} (hx : g.params.nodeCount ≤ x) : t.get x = 0 := by
  by_contra hne
  exact absurd (h.lt_nodeCount_of_link (Table.link_get hne)) (UInt32.not_lt.2 hx)

theorem spare : t.get g.params.nodeCount = 0 := h.get_of_le (UInt32.le_refl _)

theorem length_lt {x : UInt32} {p : List UInt32} (hp : t.IsPath (x :: p)) :
    p.length < g.params.nodeCount.toNat := by
  have hpos : 0 < g.params.nodeCount.toNat := by
    rw [g.params.toNat_nodeCount]
    have := Nat.two_pow_pos g.params.edgeBits
    omega
  cases p with
  | nil => exact hpos
  | cons y p =>
    have hx : x < g.params.nodeCount := h.lt_nodeCount_of_link hp.1
    have hall := hp.forall_mem hx fun y z hl => (h.joins y z hl).lt_nodeCount
    have hnd : ((x :: y :: p).map UInt32.toNat).Nodup :=
      hp.nodup.map fun a b e => UInt32.toNat_inj.1 e
    have hsub : (x :: y :: p).map UInt32.toNat ⊆ List.range g.params.nodeCount.toNat := by
      intro k hk
      obtain ⟨z, hz, rfl⟩ := List.mem_map.1 hk
      exact List.mem_range.2 (UInt32.lt_iff_toNat_lt.1 (hall z hz))
    have hle := (hnd.subperm hsub).length_le
    rw [List.length_map, List.length_range, List.length_cons] at hle
    exact hle

theorem mono (hS : S ⊆ S') : IsForest g S' t :=
  ⟨h.size_eq, h.acyclic, fun x y hxy => (h.joins x y hxy).mono hS⟩

/-- the edge of a nonce makes a forest of one nonce more -/
theorem insert (n : UInt32) :
    IsForest g (insert n S) (t.insert (g.address n .a) (g.address n .b)) where
  size_eq := by rw [Table.size_insert, h.size_eq]
  acyclic := h.acyclic.insert h.linksInside (h.address_lt_size n .a) (h.address_lt_size n .b)
  joins x y hxy := by
    rw [Graph.joins_insert]
    rcases Table.insert_link h.acyclic h.linksInside (h.address_lt_size n .a)
      (h.address_lt_size n .b) hxy with hnew | hnew | hold | hold
    · exact .inr (.inl hnew)
    · exact .inr (.inr hnew)
    · exact .inl (h.joins y x hold).symm
    · exact .inl (h.joins x y hold)

end

theorem empty (g : Graph) : IsForest g ∅ (Table.empty g.params) where
  size_eq := Array.size_replicate
  acyclic := Table.acyclic_empty g.params
  joins x y hxy := by
    rw [Table.Link, Table.get_empty] at hxy
    exact absurd hxy.1.symm hxy.2

end IsForest

end CycleMiner
