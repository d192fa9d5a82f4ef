import CycleMiner.Proofs.Cycle.OfWalk
import CycleMiner.Proofs.Table.Trees

/-!
# Which nodes the links connect

A link to 0 is no link.  So an edge from node 0 on the first side can be lost: when the path of that
node is turned round, when it is hung under another node, or when it is taken for a link that is
there already.  No other link is ever lost, and no path runs through node 0.

* `Table.firmGraph`        the links that cannot be lost;
* `firm_reachable_iff`     they connect the same nodes as all links, but for node 0;
* `firmGraph_le_relink`    turning a path round keeps them;
* `Graph.offZero`          nonces whose edge avoids node 0;
* `Connects`               a forest that connects the ends of these edges;
* `Connects.reachable_iff` which nodes it connects;
* `Connects.insert`        the edge of a nonce preserves it.
-/

namespace CycleMiner

namespace Table

/-- the links between nodes other than 0, without their direction -/
def firmGraph (t : Table) : SimpleGraph UInt32 :=
  SimpleGraph.fromRel fun x y => t.Link x y ∧ x ≠ 0

section
variable {t : Table} {u v x y : UInt32} {p q : List UInt32}

theorem firmGraph_le (t : Table) : t.firmGraph ≤ t.linkGraph := by
  intro x y hadj
  obtain ⟨hne, hl | hl⟩ := hadj
  · exact ⟨hne, .inl hl.1⟩
  · exact ⟨hne, .inr hl.1⟩

theorem Acyclic.firm_of_link (h : t.Acyclic) (hl : t.Link x y) (hx : x ≠ 0) :
    t.firmGraph.Adj x y :=
  ⟨h.link_ne hl, .inl ⟨hl, hx⟩⟩

/-- only the first node of a path can be 0 -/
theorem IsPath.firm_reachable (h : t.Acyclic) (hp : t.IsPath (x :: p)) (hx : x ≠ 0)
    (hy : y ∈ x :: p) : t.firmGraph.Reachable x y := by
  induction p generalizing x with
  | nil =>
    obtain rfl := List.mem_singleton.1 hy
    exact .refl _
  | cons z p ih =>
    rcases List.mem_cons.1 hy with rfl | hy
    · exact .refl _
    · have hstep : t.firmGraph.Adj x z := h.firm_of_link hp.1 hx
      exact hstep.reachable.trans (ih hp.2 hp.1.2 hy)

theorem Acyclic.firm_reachable_iff (h : t.Acyclic) (hx : x ≠ 0) (hy : y ≠ 0) :
    t.firmGraph.Reachable x y ↔ t.linkGraph.Reachable x y := by
  constructor
  · intro hr
    exact hr.mono t.firmGraph_le
  · intro hr
    obtain ⟨p, hp⟩ := h x
    obtain ⟨q, hq⟩ := h y
    obtain ⟨r, hroot⟩ : ∃ r, (x :: p).getLast? = some r :=
      ⟨_, List.getLast?_eq_some_getLast (List.cons_ne_nil x p)⟩
    have hroot' : (y :: q).getLast? = some r := (h.getLast?_eq hr hp hq).symm.trans hroot
    have hxr := hp.firm_reachable h hx (List.mem_of_getLast? hroot)
    have hyr := hq.firm_reachable h hy (List.mem_of_getLast? hroot')
    exact hxr.trans hyr.symm

theorem firmGraph_le_relink (h : t.Acyclic) (hp : t.IsPath (u :: p))
    (hb : ∀ x ∈ u :: p, x.toNat < t.cells.size) :
    t.firmGraph ≤ (t.relink (u :: p) v).firmGraph := by
  have keep : ∀ {x y}, t.Link x y → x ≠ 0 → (t.relink (u :: p) v).firmGraph.Adj x y := by
    intro x y hl hx
    rcases link_relink hp hb (v := v) hl hx with hl' | hl'
    · exact ⟨h.link_ne hl, .inr ⟨hl', hl.2⟩⟩
    · exact ⟨h.link_ne hl, .inl ⟨hl', hx⟩⟩
  intro x y hadj
  obtain ⟨-, ⟨hl, hx⟩ | ⟨hl, hy⟩⟩ := hadj
  · exact keep hl hx
  · exact (keep hl hy).symm

end

end Table

def Graph.offZero (g : Graph) (S : Set UInt32) : Set UInt32 := {n | n ∈ S ∧ g.endpoint n .a ≠ 0}

/-- a forest that connects the ends of all edges inserted that avoid node 0 -/
structure Connects (g : Graph) (S : Set UInt32) (t : Table) : Prop extends IsForest g S t where
  connected : ∀ n ∈ g.offZero S, t.firmGraph.Reachable (g.address n .a) (g.address n .b)

namespace IsForest

section
variable {g : Graph} {S : Set UInt32} {t : Table} (h : IsForest g S t)
include h

theorem firmGraph_le : t.firmGraph ≤ g.simple (g.offZero S) := by
  have join : ∀ {x y}, t.Link x y → x ≠ 0 → g.Joins (g.offZero S) x y := by
    intro x y hl hx
    obtain ⟨n, hn, hxy⟩ := h.joins x y hl
    refine ⟨n, ⟨hn, fun h0 => ?_⟩, hxy⟩
    rcases hxy with ⟨rfl, -⟩ | ⟨-, rfl⟩
    · exact hx h0
    · exact hl.2 h0
  intro x y hadj
  obtain ⟨-, ⟨hl, hx⟩ | ⟨hl, hy⟩⟩ := hadj
  · exact join hl hx
  · exact (join hl hy).symm

/-- an edge that is taken for a link was inserted before, or comes from node 0 -/
theorem of_present {n : UInt32}
    (hp : t.get (g.address n .a) = g.address n .b ∨ t.get (g.address n .b) = g.address n .a) :
    (∃ m ∈ S, g.edge m = g.edge n) ∨ (g.endpoint n .a = 0 ∧ t.get (g.address n .b) = 0) := by
  have found : ∀ {x y}, t.Link x y → s(x, y) = g.ends n → ∃ m ∈ S, g.edge m = g.edge n := by
    intro x y hl hxy
    obtain ⟨m, hm, e⟩ := Graph.joins_iff_ends.1 (h.joins x y hl)
    exact ⟨m, hm, Graph.ends_inj.1 (e.trans hxy)⟩
  rcases hp with hp | hp
  · exact .inl (found ⟨hp, Graph.address_b_ne_zero g n⟩ rfl)
  · by_cases h0 : g.endpoint n .a = 0
    · exact .inr ⟨h0, hp.trans h0⟩
    · exact .inl (found ⟨hp, h0⟩ Sym2.eq_swap)

end

end IsForest

namespace Connects

section
variable {g : Graph} {S : Set UInt32} {t : Table} (h : Connects g S t)
include h

theorem firm_of_reachable {x y : UInt32} (hr : (g.simple (g.offZero S)).Reachable x y) :
    t.firmGraph.Reachable x y := by
  obtain ⟨w⟩ := hr
  induction w with
  | nil => exact .refl _
  | cons hadj w ih =>
    obtain ⟨n, hn, ⟨rfl, rfl⟩ | ⟨rfl, rfl⟩⟩ := hadj
    · exact (h.connected n hn).trans ih
    · exact (h.connected n hn).symm.trans ih

/-- nodes other than 0 are connected by links exactly if edges that avoid node 0 connect them -/
theorem reachable_iff {x y : UInt32} (hx : x ≠ 0) (hy : y ≠ 0) :
    t.linkGraph.Reachable x y ↔ (g.simple (g.offZero S)).Reachable x y := by
  rw [← h.acyclic.firm_reachable_iff hx hy]
  constructor
  · intro hr
    exact hr.mono h.firmGraph_le
  · exact h.firm_of_reachable

/-- if no edge comes from node 0, all nodes are connected as the edges connect them -/
theorem reachable_iff_of_offZero (h0 : ∀ n ∈ S, g.endpoint n .a ≠ 0) {x y : UInt32} :
    t.linkGraph.Reachable x y ↔ (g.simple S).Reachable x y := by
  constructor
  · intro hr
    exact hr.mono h.linkGraph_le
  · intro hr
    have hS : S ⊆ g.offZero S := fun n hn => ⟨hn, h0 n hn⟩
    exact (h.firm_of_reachable (hr.mono (Graph.simple_mono hS))).mono t.firmGraph_le

/-- a table with the old firm links that connects the ends of one more edge, unless it comes from
node 0 -/
theorem of_le {n : UInt32} {t' : Table} (hf : IsForest g (insert n S) t')
    (hle : t.firmGraph ≤ t'.firmGraph)
    (hr : g.endpoint n .a ≠ 0 → t'.linkGraph.Reachable (g.address n .a) (g.address n .b)) :
    Connects g (insert n S) t' where
  toIsForest := hf
  connected m hm := by
    obtain ⟨rfl | hm, h0⟩ := hm
    · exact (hf.acyclic.firm_reachable_iff h0 (Graph.address_b_ne_zero g m)).2 (hr h0)
    · exact (h.connected m ⟨hm, h0⟩).mono hle

/-- the edge of a nonce makes a connecting forest of one edge more -/
theorem insert (n : UInt32)
    (hshort : ∀ x p, t.IsPath (x :: p) → p.length < Table.maxPathLength) :
    Connects g (insert n S) (t.insert (g.address n .a) (g.address n .b)) ∧
      t.firmGraph ≤ (t.insert (g.address n .a) (g.address n .b)).firmGraph := by
  have hf := h.toIsForest.insert n
  rcases Table.plan_cases h.acyclic Table.maxPathLength (g.address n .a) (g.address n .b) with
    ⟨e, hl⟩ | ⟨-, x, p, -, hp, hlong⟩ | ⟨-, as, bs, x, m, ht, e⟩ | ⟨x, p, y, hh, hxy, e⟩
  · have ht' : t.insert (g.address n .a) (g.address n .b) = t := Table.insert_of_plan e
    rw [ht'] at hf ⊢
    refine ⟨h.of_le hf le_rfl fun h0 => SimpleGraph.Adj.reachable ?_, le_rfl⟩
    rcases hl with hl | hl
    · exact h.acyclic.adj_of_link ⟨hl, Graph.address_b_ne_zero g n⟩
    · exact (h.acyclic.adj_of_link ⟨hl, h0⟩).symm
  · exact absurd (hshort x p hp) (Nat.not_lt.2 hlong)
  · have ht' : t.insert (g.address n .a) (g.address n .b) = t := Table.insert_of_plan e
    rw [ht'] at hf ⊢
    refine ⟨h.of_le hf le_rfl fun _ => ?_, le_rfl⟩
    obtain ⟨us, -⟩ := Table.exists_walk_of_isPath ht.left ht.head_left
    obtain ⟨vs, -⟩ := Table.exists_walk_of_isPath ht.right ht.head_right
    exact ⟨us.append vs.reverse⟩
  · have ht' : t.insert (g.address n .a) (g.address n .b) = t.relink (x :: p) y :=
      Table.insert_of_plan e
    have hb := hh.forall_mem_lt h.linksInside (h.address_lt_size n .a) (h.address_lt_size n .b) hxy
    have hfirst : (t.relink (x :: p) y).get x = y := Table.get_relink_first hh.path hb
    have hle := Table.firmGraph_le_relink (v := y) h.acyclic hh.path hb
    rw [ht'] at hf ⊢
    refine ⟨h.of_le hf hle fun h0 => ?_, hle⟩
    rcases hxy with ⟨rfl, rfl⟩ | ⟨rfl, rfl⟩
    · exact (hf.acyclic.adj_of_link ⟨hfirst, Graph.address_b_ne_zero g n⟩).reachable
    · exact (hf.acyclic.adj_of_link ⟨hfirst, h0⟩).reachable.symm

end

theorem empty (g : Graph) : Connects g ∅ (Table.empty g.params) where
  toIsForest := IsForest.empty g
  connected n hn := absurd hn.1 (Set.notMem_empty n)

end Connects

end CycleMiner
