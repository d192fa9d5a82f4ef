import CycleMiner.Proofs.Table.Path
import CycleMiner.Table.Insertion
import Mathlib.Data.List.Induction

/-!
# Turning a path round

`Table.relink` writes the cells of a path one after the other, each with the node before it, while
the cells behind still hold the old links.  In the end the links of the path run the other way and
its first node hangs under the partner.

* `get_relink_head`, `get_relink_next`, `get_relink_of_notMem`   what the cells hold afterwards;
* `relink_link`        every link is then the new one, an old one turned round, or an old one;
* `link_relink`        no old link is lost;
* `Acyclic.relink`     if the partner's path avoids the turned path, every node still has a path.

A path that starts at node 0 leaves the node behind it without a link, since 0 stands for none; that
node is then a root.
-/

namespace CycleMiner

namespace Table

@[simp] theorem size_relink (t : Table) (path : List UInt32) (partner : UInt32) :
    (t.relink path partner).cells.size = t.cells.size := by
  induction path generalizing t partner with
  | nil => rfl
  | cons x path ih => rw [relink, ih, size_set]

section
variable {t : Table} {x y u v : UInt32} {p q path : List UInt32}

/-! ## what the cells hold -/

theorem get_relink_of_notMem (partner : UInt32) (hx : x ∉ path) :
    (t.relink path partner).get x = t.get x := by
  induction path generalizing t partner with
  | nil => rfl
  | cons y path ih =>
    have hne : x ≠ y := fun e => hx (e ▸ List.mem_cons_self)
    have hx' : x ∉ path := fun h => hx (List.mem_cons_of_mem y h)
    rw [relink, ih y hx', get_set_other t y partner x hne]

theorem get_relink_head (partner : UInt32) (hx : x ∉ path) (hb : x.toNat < t.cells.size) :
    (t.relink (x :: path) partner).get x = partner := by
  rw [relink, get_relink_of_notMem x hx, get_set_self t x partner hb]

theorem get_relink_next {as bs : List UInt32} (partner : UInt32)
    (hnd : (as ++ x :: y :: bs).Nodup) (hb : y.toNat < t.cells.size) :
    (t.relink (as ++ x :: y :: bs) partner).get y = x := by
  induction as generalizing t partner with
  | nil =>
    have hy : y ∉ bs := (List.nodup_cons.1 (List.nodup_cons.1 hnd).2).1
    exact get_relink_head x hy (by rwa [size_set])
  | cons a as ih => exact ih a (List.nodup_cons.1 hnd).2 (by rwa [size_set])

end

section
variable {t : Table} {u v x y : UInt32} {p q : List UInt32}
  (hp : t.IsPath (u :: p)) (hb : ∀ x ∈ u :: p, x.toNat < t.cells.size)
include hp hb

/-- a node of the turned path holds the partner if it is the first, and else the node before it -/
theorem get_relink_of_mem (v : UInt32) (hx : x ∈ u :: p) :
    (x = u ∧ (t.relink (u :: p) v).get x = v) ∨
      ∃ z ∈ u :: p, t.Link z x ∧ (t.relink (u :: p) v).get x = z := by
  have hnd := hp.nodup
  by_cases hxu : x = u
  · subst hxu
    exact .inl ⟨rfl, get_relink_head v (List.nodup_cons.1 hnd).1 (hb x hx)⟩
  · have hx' : x ∈ p := (List.mem_cons.1 hx).resolve_left hxu
    obtain ⟨z, hz, hl⟩ := hp.link_of_mem_tail hx'
    obtain ⟨as, bs, e⟩ := hp.link_mem hz hl
    refine .inr ⟨z, hz, hl, ?_⟩
    rw [e] at hnd ⊢
    exact get_relink_next v hnd (hb x hx)

/-- a link of the table after is the new one, an old one turned round, or an old one -/
theorem relink_link (h : (t.relink (u :: p) v).Link x y) :
    (x = u ∧ y = v) ∨ t.Link y x ∨ t.Link x y := by
  obtain ⟨he, hne⟩ := h
  by_cases hx : x ∈ u :: p
  · rcases get_relink_of_mem hp hb v hx with ⟨rfl, e⟩ | ⟨z, -, hl, e⟩
    · exact .inl ⟨rfl, he.symm.trans e⟩
    · rw [e] at he
      exact .inr (.inl (he ▸ hl))
  · rw [get_relink_of_notMem v hx] at he
    exact .inr (.inr ⟨he, hne⟩)

/-- no old link is lost, unless it leaves node 0 -/
theorem link_relink (h : t.Link x y) (hx0 : x ≠ 0) :
    (t.relink (u :: p) v).Link y x ∨ (t.relink (u :: p) v).Link x y := by
  by_cases hx : x ∈ u :: p
  · obtain ⟨as, bs, e⟩ := hp.link_mem hx h
    have hy : y ∈ u :: p := by rw [e]; simp
    have hnd := hp.nodup
    have hby := hb y hy
    rw [e] at hnd ⊢
    exact .inl ⟨get_relink_next v hnd hby, hx0⟩
  · refine .inr ⟨?_, h.2⟩
    rw [get_relink_of_notMem v hx]
    exact h.1

theorem get_relink_first : (t.relink (u :: p) v).get u = v :=
  get_relink_head v (List.nodup_cons.1 hp.nodup).1 (hb u List.mem_cons_self)

end

/-! ## every node still has a path -/

/-- a node without a link, or linked to one with a path, has a path -/
theorem exists_isPath_of_get {t : Table} {x : UInt32}
    (h : t.get x = 0 ∨ ∃ p, t.IsPath (t.get x :: p)) : ∃ p, t.IsPath (x :: p) := by
  by_cases h0 : t.get x = 0
  · exact ⟨[], h0⟩
  · obtain ⟨p, hp⟩ := h.resolve_left h0
    exact ⟨t.get x :: p, link_get h0, hp⟩

section
variable {t : Table} {u v x : UInt32} {p q : List UInt32}
  (hu : t.IsPath (u :: p)) (hv : t.IsPath (v :: q)) (hd : (u :: p).Disjoint (v :: q))
  (hb : ∀ x ∈ u :: p, x.toNat < t.cells.size)
include hu hv hd hb

/-- the nodes of the turned path have a path: back to its first node, and on over the partner -/
theorem exists_isPath_relink_of_mem (as bs : List UInt32) (e : u :: p = as ++ x :: bs) :
    ∃ r, (t.relink (u :: p) v).IsPath (x :: r) := by
  induction as using List.reverseRecOn generalizing x bs with
  | nil =>
    obtain ⟨rfl, rfl⟩ := List.cons.inj e
    apply exists_isPath_of_get
    rw [get_relink_first hu hb]
    refine .inr ⟨q, hv.congr fun y hy => ?_⟩
    exact get_relink_of_notMem v fun hmem => hd hmem hy
  | append_singleton as z ih =>
    have e' : u :: p = as ++ z :: x :: bs := by simpa using e
    have hx : x ∈ u :: p := by rw [e']; simp
    apply exists_isPath_of_get
    have hget : (t.relink (u :: p) v).get x = z := by
      have hnd := hu.nodup
      have hbx := hb x hx
      rw [e'] at hnd ⊢
      exact get_relink_next v hnd hbx
    rw [hget]
    exact .inr (ih (x :: bs) e')

theorem Acyclic.relink (hac : t.Acyclic) : (t.relink (u :: p) v).Acyclic := by
  intro x
  obtain ⟨r, hr⟩ := hac x
  induction r generalizing x with
  | nil =>
    by_cases hx : x ∈ u :: p
    · obtain ⟨as, bs, e⟩ := List.append_of_mem hx
      exact exists_isPath_relink_of_mem hu hv hd hb as bs e
    · exact ⟨[], (get_relink_of_notMem v hx).trans hr⟩
  | cons y r ih =>
    by_cases hx : x ∈ u :: p
    · obtain ⟨as, bs, e⟩ := List.append_of_mem hx
      exact exists_isPath_relink_of_mem hu hv hd hb as bs e
    · apply exists_isPath_of_get
      rw [get_relink_of_notMem v hx, hr.1.1]
      exact .inr (ih y hr.2)

end

end Table

end CycleMiner
