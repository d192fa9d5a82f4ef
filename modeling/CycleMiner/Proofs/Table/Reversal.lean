import CycleMiner.Proofs.Table.Trees

/-!
# What turning a path round does to the trees

`Table.relink` turns round the path of one node and hangs it under a node of another tree.  Here all
of the table is compared before and after, when neither of the two nodes has the number 0.

* `Table.Linked`        a link in one direction or the other;
* `Table.HasRoot`       the node without a link that the links from a node lead to;
* `Hangs.get_ne_iff`    just the cells of the turned path change;
* `Hangs.linked_iff`    the links are the old ones and the new one;
* `Hangs.hasRoot_of_path`, `Hangs.hasRoot_of_other`   the nodes of the turned path's tree get the root
  of the path that was left alone, and all others keep theirs;
* `Table.Rehung`, `Hangs.rehung`   all of this together.

A table may hold a link from node 0, but no path from another node runs through it, since a link to
0 is none.
-/

namespace CycleMiner

namespace Table

/-- there is a link between the two nodes, in one direction or the other -/
def Linked (t : Table) (x y : UInt32) : Prop := t.Link x y ∨ t.Link y x

/-- the links from a node lead to this node, which has none -/
def HasRoot (t : Table) (x root : UInt32) : Prop :=
  ∃ p, t.IsPath (x :: p) ∧ (x :: p).getLast? = some root

section
variable {t : Table} {x y z root : UInt32} {p q : List UInt32}

theorem IsPath.hasRoot (h : t.IsPath (x :: p)) : ∃ root, t.HasRoot x root :=
  ⟨_, p, h, List.getLast?_eq_some_getLast (List.cons_ne_nil x p)⟩

theorem IsPath.hasRoot_iff (h : t.IsPath (x :: p)) :
    t.HasRoot x root ↔ (x :: p).getLast? = some root := by
  constructor
  · rintro ⟨q, hq, e⟩
    rw [h.unique hq]
    exact e
  · exact fun e => ⟨p, h, e⟩

theorem Acyclic.link_asymm (h : t.Acyclic) (hl : t.Link x y) : ¬ t.Link y x := by
  intro hl'
  obtain ⟨p, hp⟩ := h x
  obtain ⟨q, rfl, hq⟩ := hp.of_link hl
  obtain ⟨r, rfl, hr⟩ := hq.of_link hl'
  have hlen := congrArg List.length (hr.unique hp)
  rw [List.length_cons, List.length_cons] at hlen
  omega

/-- the path of a node other than 0 does not run through node 0 -/
theorem IsPath.ne_zero (h : t.IsPath (x :: p)) (hx : x ≠ 0) : ∀ z ∈ x :: p, z ≠ 0 :=
  h.forall_mem hx fun _ _ hl => hl.2

theorem HasRoot.unique {root' : UInt32} (h : t.HasRoot x root) (h' : t.HasRoot x root') :
    root = root' := by
  obtain ⟨p, hp, e⟩ := h
  exact Option.some.inj (e.symm.trans (hp.hasRoot_iff.1 h'))

/-- nodes with one root are connected -/
theorem HasRoot.reachable (hx : t.HasRoot x root) (hy : t.HasRoot y root) :
    t.linkGraph.Reachable x y := by
  obtain ⟨p, hp, e⟩ := hx
  obtain ⟨q, hq, e'⟩ := hy
  exact (hp.reachable (List.mem_of_getLast? e)).trans
    (hq.reachable (List.mem_of_getLast? e')).symm

/-- and connected nodes have one root -/
theorem HasRoot.of_reachable (h : t.Acyclic) (hy : t.HasRoot y root)
    (hr : t.linkGraph.Reachable x y) : t.HasRoot x root := by
  obtain ⟨p, hp⟩ := h x
  obtain ⟨q, hq, e⟩ := hy
  exact ⟨p, hp, (h.getLast?_eq hr hp hq).trans e⟩

end

/-- a table with the path of one node turned round and joined by an edge to the other node; `left` is
the root of the path that was left alone, `turned` that of the turned one -/
structure Rehung (t t' : Table) (path : List UInt32) (u v left turned : UInt32) : Prop where
  size : t'.cells.size = t.cells.size
  changed : ∀ z, t'.get z ≠ t.get z ↔ z ∈ path
  linked : ∀ a b, t'.Linked a b ↔ t.Linked a b ∨ (a = u ∧ b = v) ∨ (a = v ∧ b = u)
  acyclic : t'.Acyclic
  /-- both trees are one now, with the root that was left alone -/
  merged : ∀ z, t'.HasRoot z left ↔ t.HasRoot z left ∨ t.HasRoot z turned
  others : ∀ z root, root ≠ turned → t.HasRoot z root → t'.HasRoot z root

theorem Rehung.symm {t t' : Table} {path : List UInt32} {u v left turned : UInt32}
    (h : Rehung t t' path u v left turned) : Rehung t t' path v u left turned where
  size := h.size
  changed := h.changed
  linked a b := (h.linked a b).trans (or_congr_right Or.comm)
  acyclic := h.acyclic
  merged := h.merged
  others := h.others

namespace Hangs

section
variable {t : Table} {x y : UInt32} {p : List UInt32} (h : t.Hangs x p y) (hx : x ≠ 0)
  (hb : ∀ z ∈ x :: p, z.toNat < t.cells.size)
include h

theorem notMem : y ∉ x :: p := by
  obtain ⟨-, q, -, hd⟩ := h
  exact fun hmem => hd hmem List.mem_cons_self

theorem acyclic_relink (hac : t.Acyclic) (hb : ∀ z ∈ x :: p, z.toNat < t.cells.size) :
    (t.relink (x :: p) y).Acyclic := by
  obtain ⟨hp, q, hq, hd⟩ := h
  exact hac.relink hp hq hd hb

include hx hb

theorem get_ne_iff (hac : t.Acyclic) (hy : y ≠ 0) (z : UInt32) :
    (t.relink (x :: p) y).get z ≠ t.get z ↔ z ∈ x :: p := by
  constructor
  · intro hne
    by_contra hz
    exact hne (get_relink_of_notMem y hz)
  · intro hz e
    rcases get_relink_of_mem h.path hb y hz with ⟨rfl, hfirst⟩ | ⟨w, hw, hl, hnext⟩
    · -- the first node was linked to a node of the path, or not at all
      have hlink : t.Link z y := ⟨e.symm.trans hfirst, hy⟩
      obtain ⟨as, bs, hsplit⟩ := h.path.link_mem hz hlink
      apply h.notMem
      rw [hsplit]
      simp
    · -- the node before it would be linked to it and back
      have hback : t.Link z w := ⟨e.symm.trans hnext, h.path.ne_zero hx w hw⟩
      exact hac.link_asymm hl hback

theorem linked_iff (hy : y ≠ 0) (a b : UInt32) :
    (t.relink (x :: p) y).Linked a b ↔
      t.Linked a b ∨ (a = x ∧ b = y) ∨ (a = y ∧ b = x) := by
  have keep : ∀ {a b}, t.Link a b → (t.relink (x :: p) y).Linked a b := by
    intro a b hl
    by_cases ha : a = 0
    · -- the path does not run through node 0, so a link from there stays
      have hmem : a ∉ x :: p := fun hmem => h.path.ne_zero hx a hmem ha
      exact .inl ⟨(get_relink_of_notMem y hmem).trans hl.1, hl.2⟩
    · exact (link_relink h.path hb hl ha).symm
  constructor
  · rintro (hl | hl)
    · rcases relink_link h.path hb hl with hnew | hold
      · exact .inr (.inl hnew)
      · exact .inl hold.symm
    · rcases relink_link h.path hb hl with ⟨rfl, rfl⟩ | hold
      · exact .inr (.inr ⟨rfl, rfl⟩)
      · exact .inl hold
  · rintro ((hl | hl) | ⟨rfl, rfl⟩ | ⟨rfl, rfl⟩)
    · exact keep hl
    · exact (keep hl).symm
    · exact .inl ⟨get_relink_first h.path hb, hy⟩
    · exact .inr ⟨get_relink_first h.path hb, hy⟩

theorem linkGraph_le (hy : y ≠ 0) :
    t.linkGraph ≤ (t.relink (x :: p) y).linkGraph := by
  intro a b hadj
  refine ⟨hadj.1, ?_⟩
  exact (h.linked_iff hx hb hy a b).2 (.inl hadj.2)

/-! ## roots -/

omit hx hb in
theorem hasRoot_partner {root : UInt32} (hr : t.HasRoot y root) :
    (t.relink (x :: p) y).HasRoot y root := by
  obtain ⟨q, hq, e⟩ := hr
  obtain ⟨-, q', hq', hd⟩ := h
  obtain rfl := hq.unique hq'
  exact ⟨q, hq.congr fun z hz => get_relink_of_notMem y fun hmem => hd hmem hz, e⟩

theorem hasRoot_of_path (hac : t.Acyclic) (hy : y ≠ 0) {z root root' : UInt32}
    (hr : t.HasRoot y root) (hr' : t.HasRoot x root') (hz : t.HasRoot z root') :
    (t.relink (x :: p) y).HasRoot z root := by
  -- over old links to the first node of the turned path, and from there over the new one
  have hac' := h.acyclic_relink hac hb
  have hreach : t.linkGraph.Reachable z x := hz.reachable hr'
  have hnew : (t.relink (x :: p) y).linkGraph.Adj x y :=
    hac'.adj_of_link ⟨get_relink_first h.path hb, hy⟩
  exact (h.hasRoot_partner hr).of_reachable hac'
    ((hreach.mono (h.linkGraph_le hx hb hy)).trans hnew.reachable)

omit hx hb in
theorem hasRoot_of_other {z root root' : UInt32} (hr' : t.HasRoot x root') (hz : t.HasRoot z root)
    (hne : root ≠ root') : (t.relink (x :: p) y).HasRoot z root := by
  obtain ⟨q, hq, e⟩ := hz
  have hlast := h.path.hasRoot_iff.1 hr'
  have hd : (x :: p).Disjoint (z :: q) := by
    refine h.path.disjoint hq fun he => hne ?_
    exact Option.some.inj (e.symm.trans (he.symm.trans hlast))
  exact ⟨q, hq.congr fun w hw => get_relink_of_notMem y fun hmem => hd hmem hw, e⟩

theorem rehung (hac : t.Acyclic) (hy : y ≠ 0) {left turned : UInt32} (hl : t.HasRoot y left)
    (ht : t.HasRoot x turned) : Rehung t (t.relink (x :: p) y) (x :: p) x y left turned where
  size := size_relink t (x :: p) y
  changed := h.get_ne_iff hx hb hac hy
  linked := h.linked_iff hx hb hy
  acyclic := h.acyclic_relink hac hb
  merged z := by
    have hne : left ≠ turned := by
      rintro rfl
      exact h.not_reachable hac (ht.reachable hl)
    constructor
    · -- a node with a third root would have kept it
      intro hz
      obtain ⟨q, hq⟩ := hac z
      obtain ⟨root, hroot⟩ := hq.hasRoot
      by_cases hcase : root = turned
      · exact .inr (hcase ▸ hroot)
      · have hkept := h.hasRoot_of_other ht hroot hcase
        exact .inl (hkept.unique hz ▸ hroot)
    · rintro (hz | hz)
      · exact h.hasRoot_of_other ht hz hne
      · exact h.hasRoot_of_path hx hb hac hy hl ht hz
  others z root hne hz := h.hasRoot_of_other ht hz hne

end

end Hangs

end Table

end CycleMiner
