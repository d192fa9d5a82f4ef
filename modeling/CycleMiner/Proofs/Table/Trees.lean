import CycleMiner.Proofs.Table.Forest
import Mathlib.Combinatorics.SimpleGraph.Acyclic

/-!
# The trees of a table

Without their direction the links of an acyclic table form trees, one for every root.

* `Table.linkGraph`            links without their direction;
* `exists_walk_of_isPath`      a path is a walk over links;
* `Together.exists_walks`      and so are two paths up to where they run together;
* `Acyclic.getLast?_eq`        connected nodes have one root;
* `linkGraph_le_relink`        turning a path round keeps all links;
* `Table.Together.isCycle`     a new edge between two nodes of a tree closes a cycle with their paths;
* `Spans`                      a forest whose trees are the components of the edges inserted;
* `Spans.plan_cases`           what an edge does to it, said of the graph;
* `Spans.insert`               the edge of a nonce preserves it.

Here no node on the first side has the number 0, so no link is ever lost.
-/

namespace CycleMiner

namespace Table

def linkGraph (t : Table) : SimpleGraph UInt32 := SimpleGraph.fromRel t.Link

section
variable {t : Table} {u v x y : UInt32} {p q as bs m : List UInt32}

theorem Acyclic.link_ne (h : t.Acyclic) (hl : t.Link x y) : x ≠ y := by
  rintro rfl
  obtain ⟨p, hp⟩ := h x
  obtain ⟨q, rfl, -⟩ := hp.of_link hl
  exact (List.nodup_cons.1 hp.nodup).1 List.mem_cons_self

theorem Acyclic.adj_of_link (h : t.Acyclic) (hl : t.Link x y) : t.linkGraph.Adj x y :=
  ⟨h.link_ne hl, .inl hl⟩

theorem IsPath.adj (h : t.IsPath (x :: y :: p)) : t.linkGraph.Adj x y := by
  refine ⟨?_, .inl h.1⟩
  rintro rfl
  exact (List.nodup_cons.1 h.nodup).1 List.mem_cons_self

/-- the front of a path is a walk over links -/
theorem exists_walk_of_isPath (hp : t.IsPath (as ++ x :: m))
    (hu : (as ++ x :: m).head? = some u) :
    ∃ w : t.linkGraph.Walk u x, w.support = as ++ [x] := by
  induction as generalizing u with
  | nil =>
    obtain rfl := Option.some.inj hu
    exact ⟨.nil, rfl⟩
  | cons a as ih =>
    obtain rfl := Option.some.inj hu
    obtain ⟨z, hz⟩ : ∃ z, (as ++ x :: m).head? = some z := by
      cases as <;> exact ⟨_, rfl⟩
    have hsplit : as ++ x :: m = z :: (as ++ x :: m).tail := by
      cases as <;> · obtain rfl := Option.some.inj hz; rfl
    have hp' : t.IsPath (a :: z :: (as ++ x :: m).tail) := hsplit ▸ hp
    obtain ⟨w, hw⟩ := ih (hsplit ▸ hp'.2) hz
    refine ⟨.cons hp'.adj w, ?_⟩
    rw [SimpleGraph.Walk.support_cons, hw]
    rfl

theorem IsPath.reachable (hp : t.IsPath (x :: p)) (hy : y ∈ x :: p) :
    t.linkGraph.Reachable x y := by
  obtain ⟨as, m, e⟩ := List.append_of_mem hy
  obtain ⟨w, -⟩ := exists_walk_of_isPath (e ▸ hp) (by rw [← e]; rfl)
  exact ⟨w⟩

theorem Link.getLast?_eq (hl : t.Link x y) (hp : t.IsPath (x :: p)) (hq : t.IsPath (y :: q)) :
    (x :: p).getLast? = (y :: q).getLast? := by
  obtain ⟨r, rfl, hr⟩ := hp.of_link hl
  rw [hr.unique hq, List.getLast?_cons_cons]

theorem Acyclic.getLast?_eq (h : t.Acyclic) (hr : t.linkGraph.Reachable x y)
    (hp : t.IsPath (x :: p)) (hq : t.IsPath (y :: q)) :
    (x :: p).getLast? = (y :: q).getLast? := by
  obtain ⟨w⟩ := hr
  induction w generalizing p with
  | nil => rw [hp.unique hq]
  | @cons x z y hadj w ih =>
    obtain ⟨r, hr⟩ := h z
    obtain ⟨-, hl | hl⟩ := hadj
    · exact (hl.getLast?_eq hp hr).trans (ih hr hq)
    · exact (hl.getLast?_eq hr hp).symm.trans (ih hr hq)

theorem Hangs.not_reachable (h : t.Acyclic) (hh : t.Hangs x p y) :
    ¬ t.linkGraph.Reachable x y := by
  intro hr
  obtain ⟨hp, q, hq, hd⟩ := hh
  obtain ⟨r, hr'⟩ : ∃ r, (x :: p).getLast? = some r :=
    ⟨_, List.getLast?_eq_some_getLast (List.cons_ne_nil x p)⟩
  have hlast : (y :: q).getLast? = some r := (h.getLast?_eq hr hp hq).symm.trans hr'
  exact hd (List.mem_of_getLast? hr') (List.mem_of_getLast? hlast)

theorem linkGraph_le_relink (h : t.Acyclic) (hp : t.IsPath (u :: p))
    (hb : ∀ x ∈ u :: p, x.toNat < t.cells.size) (h0 : ∀ x y, t.Link x y → x ≠ 0) :
    t.linkGraph ≤ (t.relink (u :: p) v).linkGraph := by
  have keep : ∀ {x y}, t.Link x y → (t.relink (u :: p) v).linkGraph.Adj x y := fun hl => by
    rcases link_relink hp hb (v := v) hl (h0 _ _ hl) with hl' | hl'
    · exact ⟨h.link_ne hl, .inr hl'⟩
    · exact ⟨h.link_ne hl, .inl hl'⟩
  intro x y hadj
  obtain ⟨-, hl | hl⟩ := hadj
  · exact keep hl
  · exact (keep hl).symm

/-! ## closing a cycle -/

/-- the nodes of two paths up to where they run together are all different -/
theorem Together.nodup (ht : t.Together u v as bs x m) : (as ++ x :: bs.reverse).Nodup := by
  have hl := List.nodup_append.1 ht.left.nodup
  have hr := List.nodup_append.1 ht.right.nodup
  have hxb : x ∉ bs := fun hx => hr.2.2 x hx x List.mem_cons_self rfl
  refine List.nodup_append.2 ⟨hl.1, List.nodup_cons.2 ⟨?_, List.nodup_reverse.2 hr.1⟩, ?_⟩
  · rwa [List.mem_reverse]
  · intro a ha b hb e
    rcases List.mem_cons.1 hb with rfl | hb
    · exact hl.2.2 a ha b List.mem_cons_self e
    · exact ht.disjoint ha (e ▸ List.mem_reverse.1 hb)

/-- one path and the other one backwards, cut where they run together, are a way over links -/
theorem Together.exists_walks (ht : t.Together u v as bs x m) :
    ∃ (us : t.linkGraph.Walk u x) (vs : t.linkGraph.Walk v x), us.support = as ++ [x] ∧
      vs.support = bs ++ [x] ∧ (us.append vs.reverse).support = as ++ x :: bs.reverse ∧
      (us.append vs.reverse).IsPath := by
  obtain ⟨us, hus⟩ := exists_walk_of_isPath ht.left ht.head_left
  obtain ⟨vs, hvs⟩ := exists_walk_of_isPath ht.right ht.head_right
  have hsupport : (us.append vs.reverse).support = as ++ x :: bs.reverse := by
    rw [SimpleGraph.Walk.support_append, SimpleGraph.Walk.support_reverse, hus, hvs,
      List.reverse_append]
    simp
  refine ⟨us, vs, hus, hvs, hsupport, ?_⟩
  rw [SimpleGraph.Walk.isPath_def, hsupport]
  exact ht.nodup

/-- a new edge between two nodes of one tree closes a cycle with their paths -/
theorem Together.isCycle (ht : t.Together u v as bs x m)
    (hnew : ¬ (t.get u = v ∨ t.get v = u)) {H : SimpleGraph UInt32} (hle : t.linkGraph ≤ H)
    (hadj : H.Adj v u) :
    ∃ (us : H.Walk u x) (vs : H.Walk v x), us.support = as ++ [x] ∧ vs.support = bs ++ [x] ∧
      (SimpleGraph.Walk.cons hadj (us.append vs.reverse)).IsCycle := by
  obtain ⟨us, vs, hus, hvs, -, hpath⟩ := ht.exists_walks
  -- all edges of the walk are links, and the new edge is none
  have hnotMem : s(v, u) ∉ (us.append vs.reverse).edges := by
    intro he
    obtain ⟨-, hl | hl⟩ := (us.append vs.reverse).adj_of_mem_edges he
    · exact hnew (.inr hl.1)
    · exact hnew (.inl hl.1)
  refine ⟨us.mapLe hle, vs.mapLe hle, ?_, ?_, ?_⟩
  · rw [SimpleGraph.Walk.support_mapLe_eq_support, hus]
  · rw [SimpleGraph.Walk.support_mapLe_eq_support, hvs]
  · rw [SimpleGraph.Walk.reverse_mapLe, ← SimpleGraph.Walk.mapLe_append,
      SimpleGraph.Walk.cons_isCycle_iff, SimpleGraph.Walk.isPath_mapLe,
      SimpleGraph.Walk.edges_mapLe_eq_edges]
    exact ⟨hpath, hnotMem⟩

end

end Table

/-! ## trees and components -/

theorem IsForest.linkGraph_le {g : Graph} {S : Set UInt32} {t : Table} (h : IsForest g S t) :
    t.linkGraph ≤ g.simple S := by
  intro x y hadj
  obtain ⟨-, hl | hl⟩ := hadj
  · exact h.joins x y hl
  · exact (h.joins y x hl).symm

/-- a forest whose trees are the components of the edges inserted -/
structure Spans (g : Graph) (S : Set UInt32) (t : Table) : Prop extends IsForest g S t where
  /-- no edge has an end that stands for no link -/
  nonzero : ∀ n ∈ S, g.address n .a ≠ 0
  connected : ∀ n ∈ S, t.linkGraph.Reachable (g.address n .a) (g.address n .b)

namespace Spans

section
variable {g : Graph} {S : Set UInt32} {t : Table} (h : Spans g S t)
include h

/-- nodes are connected by links if they are by edges -/
theorem reachable_iff {x y : UInt32} :
    t.linkGraph.Reachable x y ↔ (g.simple S).Reachable x y := by
  constructor
  · exact fun hr => hr.mono h.linkGraph_le
  · rintro ⟨w⟩
    induction w with
    | nil => exact .refl _
    | cons hadj w ih =>
      obtain ⟨n, hn, ⟨rfl, rfl⟩ | ⟨rfl, rfl⟩⟩ := hadj
      · exact (h.connected n hn).trans ih
      · exact (h.connected n hn).symm.trans ih

theorem link_ne_zero {x y : UInt32} (hl : t.Link x y) : x ≠ 0 := by
  obtain ⟨n, hn, ⟨rfl, -⟩ | ⟨rfl, -⟩⟩ := h.joins x y hl
  · exact h.nonzero n hn
  · exact Graph.address_b_ne_zero g n

/-- what an edge does to a spanning forest if all paths are short enough -/
theorem plan_cases {n : UInt32} (hn : g.address n .a ≠ 0)
    (hshort : ∀ x p, t.IsPath (x :: p) → p.length < Table.maxPathLength) :
    (t.plan Table.maxPathLength (g.address n .a) (g.address n .b) = .ok .present ∧
      g.Joins S (g.address n .a) (g.address n .b)) ∨
    (¬ (t.get (g.address n .a) = g.address n .b ∨ t.get (g.address n .b) = g.address n .a) ∧
      ∃ as bs x m, t.Together (g.address n .a) (g.address n .b) as bs x m ∧
        t.plan Table.maxPathLength (g.address n .a) (g.address n .b)
          = .ok (.close (as ++ [x]) (bs ++ [x]))) ∨
    (¬ (g.simple S).Reachable (g.address n .a) (g.address n .b) ∧ ∃ x p y, t.Hangs x p y ∧
      ((x = g.address n .a ∧ y = g.address n .b) ∨ (x = g.address n .b ∧ y = g.address n .a)) ∧
        t.plan Table.maxPathLength (g.address n .a) (g.address n .b) = .ok (.join (x :: p) y)) := by
  rcases Table.plan_cases h.acyclic Table.maxPathLength (g.address n .a) (g.address n .b) with
    ⟨e, hl⟩ | ⟨-, x, p, -, hp, hlong⟩ | hclose | ⟨x, p, y, hh, hxy, e⟩
  · refine .inl ⟨e, ?_⟩
    rcases hl with hl | hl
    · exact h.joins _ _ ⟨hl, Graph.address_b_ne_zero g n⟩
    · exact (h.joins _ _ ⟨hl, hn⟩).symm
  · exact absurd (hshort x p hp) (Nat.not_lt.2 hlong)
  · exact .inr (.inl hclose)
  · refine .inr (.inr ⟨?_, x, p, y, hh, hxy, e⟩)
    rw [← h.reachable_iff]
    rcases hxy with ⟨rfl, rfl⟩ | ⟨rfl, rfl⟩
    · exact hh.not_reachable h.acyclic
    · exact fun hr => hh.not_reachable h.acyclic hr.symm

/-- a table with the old links that connects the ends of the edge of a nonce more -/
theorem of_le {n : UInt32} {t' : Table} (hf : IsForest g (insert n S) t')
    (hn : g.address n .a ≠ 0) (hle : t.linkGraph ≤ t'.linkGraph)
    (hr : t'.linkGraph.Reachable (g.address n .a) (g.address n .b)) : Spans g (insert n S) t' where
  toIsForest := hf
  nonzero m hm := by
    rcases hm with rfl | hm
    · exact hn
    · exact h.nonzero m hm
  connected m hm := by
    rcases hm with rfl | hm
    · exact hr
    · exact (h.connected m hm).mono hle

/-- the edge of a nonce makes a spanning forest of one edge more -/
theorem insert {n : UInt32} (hn : g.address n .a ≠ 0)
    (hshort : ∀ x p, t.IsPath (x :: p) → p.length < Table.maxPathLength) :
    Spans g (insert n S) (t.insert (g.address n .a) (g.address n .b)) := by
  have hf := h.toIsForest.insert n
  rcases h.plan_cases hn hshort with
    ⟨e, hj⟩ | ⟨-, as, bs, x, m, ht, e⟩ | ⟨-, x, p, y, hh, hxy, e⟩
  · have ht' : t.insert (g.address n .a) (g.address n .b) = t := Table.insert_of_plan e
    rw [ht'] at hf ⊢
    refine h.of_le hf hn le_rfl ?_
    rw [h.reachable_iff]
    exact SimpleGraph.Adj.reachable hj
  · have ht' : t.insert (g.address n .a) (g.address n .b) = t := Table.insert_of_plan e
    rw [ht'] at hf ⊢
    refine h.of_le hf hn le_rfl ?_
    obtain ⟨us, -⟩ := Table.exists_walk_of_isPath ht.left ht.head_left
    obtain ⟨vs, -⟩ := Table.exists_walk_of_isPath ht.right ht.head_right
    exact ⟨us.append vs.reverse⟩
  · have ht' : t.insert (g.address n .a) (g.address n .b) = t.relink (x :: p) y :=
      Table.insert_of_plan e
    have hb := hh.forall_mem_lt h.linksInside (h.address_lt_size n .a) (h.address_lt_size n .b) hxy
    have hfirst : (t.relink (x :: p) y).get x = y := Table.get_relink_first hh.path hb
    rw [ht'] at hf ⊢
    have hle : t.linkGraph ≤ (t.relink (x :: p) y).linkGraph :=
      Table.linkGraph_le_relink h.acyclic hh.path hb fun _ _ hl => h.link_ne_zero hl
    refine h.of_le hf hn hle ?_
    rcases hxy with ⟨rfl, rfl⟩ | ⟨rfl, rfl⟩
    · exact (hf.acyclic.adj_of_link ⟨hfirst, Graph.address_b_ne_zero g n⟩).reachable
    · exact (hf.acyclic.adj_of_link ⟨hfirst, hn⟩).reachable.symm

end

theorem empty (g : Graph) : Spans g ∅ (Table.empty g.params) where
  toIsForest := IsForest.empty g
  nonzero n hn := absurd hn (Set.notMem_empty n)
  connected n hn := absurd hn (Set.notMem_empty n)

end Spans

end CycleMiner
