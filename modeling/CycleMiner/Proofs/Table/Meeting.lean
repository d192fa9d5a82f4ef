import CycleMiner.Proofs.Table.Buffers
import CycleMiner.Proofs.Table.Trees

/-!
# Where two traces run together

Both traces of an edge may end at one root.  Then the longer one is cut to the length of the shorter,
and both are gone through in step until they agree.  This asks for no bound: the last nodes of both
are the same.  It does not stop too late either: both traces follow the same links, so from the
first node of one that stands on the other they are the same up to the root, and equally far from it.

* `Table.ends_of_trace?`      what a trace that was successful has left in its buffer;
* `Table.exists_meeting`      the loop stops at the first node of one trace that is on the other;
* `Table.insertIn?_of_agree`  there an edge cuts the traces;
* `traces_trimmed_to_cycle`   what is left of them is a cycle once the edge is there.

Nothing is asked of the other links; they may run in loops.
-/

namespace CycleMiner

namespace Table

section
variable {t : Table} {u v : UInt32} {nu nv : Nat} {us vs us' vs' : Array UInt32}

/-- a successful trace has followed the links to a root, and stands at the front of the buffer -/
theorem ends_of_trace? (hl : t.LinksInside) (hu : u.toNat < t.cells.size)
    (h : t.trace? u us = some (.ok nu, us')) :
    nu < us.size ∧ t.EndsAfter u nu ∧ t.Traced u (nu + 1) us us' := by
  obtain ⟨after, -, ⟨k, hk, hends, htraced, e, -⟩ | ⟨f, e, -⟩⟩ := trace?_path hl hu us
  · obtain ⟨hok, rfl⟩ := Prod.mk.inj (Option.some.inj (h.symm.trans e))
    obtain rfl := Except.ok.inj hok
    exact ⟨hk, hends, htraced⟩
  · rw [h] at e
    cases e

theorem getLast?_hops_eq (hus : t.Traced u (nu + 1) us us') (hvs : t.Traced v (nv + 1) vs vs')
    (hroot : us'[nu]? = vs'[nv]?) :
    (t.hops u (nu + 1)).getLast? = (t.hops v (nv + 1)).getLast? := by
  rw [getLast?_hops, getLast?_hops, ← hus.met nu (Nat.lt_succ_self nu), hroot,
    hvs.met nv (Nat.lt_succ_self nv)]

/-- the places `i` and `j` in two buffers are those of the node `x` where the paths that stand at
their fronts run together, over `as` and `bs` -/
structure Meets (t : Table) (u v : UInt32) (us vs : Array UInt32) (i j : Nat)
    (as bs : List UInt32) (x : UInt32) : Prop where
  together : ∃ m, t.Together u v as bs x m
  left : us.toList.take (i + 1) = as ++ [x]
  right : vs.toList.take (j + 1) = bs ++ [x]
  length_left : as.length = i
  length_right : bs.length = j

/-- two traces to one root are cut where they run together, and the loop that looks for that place
ends there -/
theorem exists_meeting (hu : t.EndsAfter u nu) (hv : t.EndsAfter v nv) (hnu : nu < us'.size)
    (hnv : nv < vs'.size) (hus : t.Traced u (nu + 1) us us') (hvs : t.Traced v (nv + 1) vs vs')
    (hroot : us'[nu]? = vs'[nv]?) :
    ∃ i ≤ nu, ∃ j ≤ nv, ∃ as bs x,
      agree? us' vs' (nu - min nu nv) (nv - min nu nv) = some (i, j) ∧
      meet (t.hops u (nu + 1)) (t.hops v (nv + 1)) = (as ++ [x], bs ++ [x]) ∧
      t.Meets u v us' vs' i j as bs x := by
  have hpu := hu.isPath
  have hpv := hv.isPath
  have hlast := getLast?_hops_eq hus hvs hroot
  rw [Array.getElem?_eq_getElem hnu, Array.getElem?_eq_getElem hnv] at hroot
  obtain ⟨i, hi, j, hj, hagree, hmeet⟩ := meet_eq hnu hnv (Option.some.inj hroot)
  rw [hus.take_eq, hvs.take_eq] at hmeet
  obtain ⟨as, bs, x, m, eu, ev, hd⟩ : ∃ as bs x m, t.hops u (nu + 1) = as ++ x :: m ∧
      t.hops v (nv + 1) = bs ++ x :: m ∧ as.Disjoint bs := by
    simp only [hops_succ'] at hpu hpv hlast ⊢
    exact exists_together hpu hpv hlast
  have hcut : meet (t.hops u (nu + 1)) (t.hops v (nv + 1)) = (as ++ [x], bs ++ [x]) := by
    rw [eu, ev, meet_append hd]
  obtain ⟨hleft, hright⟩ := Prod.mk.inj (hmeet.symm.trans hcut)
  -- the cut fronts are as long as the loop says
  have hlen : ∀ {xs : Array UInt32} {n : Nat} {ys : List UInt32}, n < xs.size →
      xs.toList.take (n + 1) = ys ++ [x] → ys.length = n := by
    intro xs n ys hn e
    have := congrArg List.length e
    rw [List.length_take, Array.length_toList, List.length_append, List.length_singleton] at this
    omega
  refine ⟨i, hi, j, hj, as, bs, x, hagree, hcut, ?_, hleft, hright,
    hlen (Nat.lt_of_le_of_lt hi hnu) hleft, hlen (Nat.lt_of_le_of_lt hj hnv) hright⟩
  refine ⟨m, eu ▸ hu.isPath, ev ▸ hv.isPath, ?_, ?_, hd⟩
  · rw [← eu, hops_succ']
    rfl
  · rw [← ev, hops_succ']
    rfl

/-! ## what is left of the traces -/

section
variable {i j : Nat} {as bs : List UInt32} {x : UInt32} (h : t.Meets u v us vs i j as bs x)
include h

theorem Meets.take_right : vs.toList.take j = bs := by
  have := congrArg (List.take j) h.right
  rwa [List.take_take, Nat.min_eq_left (Nat.le_succ j), List.take_left' h.length_right] at this

theorem Meets.getElem?_left : us[i]? = some x := by
  have := congrArg (fun xs => xs[i]?) h.left
  simpa [List.getElem?_take, ← h.length_left] using this

theorem Meets.getElem?_right : vs[j]? = some x := by
  have := congrArg (fun xs => xs[j]?) h.right
  simpa [List.getElem?_take, ← h.length_right] using this

/-- no node is met twice -/
theorem Meets.nodup : (us.toList.take (i + 1) ++ vs.toList.take j).Nodup := by
  obtain ⟨m, ht⟩ := h.together
  rw [h.left, h.take_right, List.append_assoc]
  refine (List.Perm.nodup_iff ?_).1 ht.nodup
  exact ((List.reverse_perm bs).cons x).append_left as

/-- what is left of one trace and of the other one backwards is a way over links -/
theorem Meets.exists_walk : ∃ w : t.linkGraph.Walk u v, w.IsPath ∧ w.length = i + j ∧
    w.support = us.toList.take (i + 1) ++ (vs.toList.take j).reverse := by
  obtain ⟨m, ht⟩ := h.together
  obtain ⟨p, q, -, -, hsupport, hpath⟩ := ht.exists_walks
  refine ⟨p.append q.reverse, hpath, ?_, ?_⟩
  · have hlen := congrArg List.length hsupport
    rw [SimpleGraph.Walk.length_support, List.length_append, List.length_cons, List.length_reverse,
      h.length_left, h.length_right] at hlen
    omega
  · rw [hsupport, h.left, h.take_right, List.append_assoc]
    rfl

/-- a new edge closes a cycle -/
theorem Meets.exists_cycle (hnew : ¬ (t.get u = v ∨ t.get v = u)) (huv : u ≠ v) :
    ∃ c : (t.linkGraph ⊔ SimpleGraph.edge v u).Walk v v, c.IsCycle ∧ c.length = i + j + 1 ∧
      c.support = v :: (us.toList.take (i + 1) ++ (vs.toList.take j).reverse) := by
  obtain ⟨m, ht⟩ := h.together
  have hadj : (t.linkGraph ⊔ SimpleGraph.edge v u).Adj v u :=
    .inr (SimpleGraph.edge_adj v u v u |>.2 ⟨.inl ⟨rfl, rfl⟩, huv.symm⟩)
  obtain ⟨p, q, hp, hq, hc⟩ := ht.isCycle hnew le_sup_left hadj
  have hsupport : (SimpleGraph.Walk.cons hadj (p.append q.reverse)).support
      = v :: (us.toList.take (i + 1) ++ (vs.toList.take j).reverse) := by
    rw [SimpleGraph.Walk.support_cons, SimpleGraph.Walk.support_append,
      SimpleGraph.Walk.support_reverse, hp, hq, h.left, h.take_right, List.reverse_append]
    rfl
  refine ⟨_, hc, ?_, hsupport⟩
  have hlen := congrArg List.length hsupport
  rw [SimpleGraph.Walk.length_support, h.left, h.take_right] at hlen
  simp only [List.length_cons, List.length_append, List.length_nil, List.length_reverse,
    h.length_left, h.length_right] at hlen
  omega

/-- two different nodes are not both where they meet -/
theorem Meets.pos (huv : u ≠ v) : 0 < i + j := by
  obtain ⟨w, -, hlen, -⟩ := h.exists_walk
  rw [← hlen]
  exact SimpleGraph.Walk.not_nil_iff_lt_length.1 (SimpleGraph.Walk.not_nil_of_ne huv)

end

/-- the edge between two nodes whose traces end at one root closes a cycle where they meet -/
theorem insertIn?_of_agree {s : Buffers} {i j : Nat} (hu : u.toNat < t.cells.size)
    (hv : v.toNat < t.cells.size) (hnew : ¬ (t.get u = v ∨ t.get v = u))
    (hus : t.trace? u s.us = some (.ok nu, us)) (hvs : t.trace? v s.vs = some (.ok nv, vs))
    (hnu : nu < us.size) (hroot : us[nu]? = vs[nv]?)
    (hagree : agree? us vs (nu - min nu nv) (nv - min nu nv) = some (i, j)) :
    t.insertIn? u v s = some (.ok (.closed i j), t, ⟨us, vs⟩) := by
  rw [insertIn?, get?_eq hu, get?_eq hv, Option.bind_some, Option.bind_some, if_neg hnew, hus,
    Option.bind_some]
  dsimp only
  rw [hvs, Option.bind_some]
  dsimp only
  rw [← hroot, Array.getElem?_eq_getElem hnu, Option.bind_some, Option.bind_some, if_pos rfl,
    hagree]
  rfl

end

end Table

/-- in every table in range, whatever else it links, and of every two different nodes: if both are
traced successfully, and to one root, then the loop that looks for the place where the traces agree
ends, at places not behind the two roots; the same node stands at both; no node stands twice in the
first trace up to there and the second one before; the first trace and the second one backwards are
a path over so many links, and with the edge between the two nodes, if it is no link yet, a cycle of
one edge more; this is what is found of the edge, with two buffers and without -/
theorem traces_trimmed_to_cycle (params : Params) (t : Table) (ht : t.InRange params) {u v : UInt32}
    (hu : u ≤ params.nodeCount) (hv : v ≤ params.nodeCount) (huv : u ≠ v) (s : Buffers)
    {nu nv : Nat} {us vs : Array UInt32} (hus : t.trace? u s.us = some (.ok nu, us))
    (hvs : t.trace? v s.vs = some (.ok nv, vs)) (hroot : us[nu]? = vs[nv]?) :
    ∃ i ≤ nu, ∃ j ≤ nv,
      agree? us vs (nu - min nu nv) (nv - min nu nv) = some (i, j) ∧
      (∃ x, us[i]? = some x ∧ vs[j]? = some x) ∧
      (us.toList.take (i + 1) ++ vs.toList.take j).Nodup ∧ 0 < i + j ∧
      (∃ w : t.linkGraph.Walk u v, w.IsPath ∧ w.length = i + j ∧
        w.support = us.toList.take (i + 1) ++ (vs.toList.take j).reverse) ∧
      (¬ (t.get u = v ∨ t.get v = u) →
        (∃ c : (t.linkGraph ⊔ SimpleGraph.edge v u).Walk v v, c.IsCycle ∧ c.length = i + j + 1 ∧
          c.support = v :: (us.toList.take (i + 1) ++ (vs.toList.take j).reverse)) ∧
        t.insertIn? u v s = some (.ok (.closed i j), t, ⟨us, vs⟩) ∧
        ∀ bound, nu < bound → nv < bound → t.plan bound u v
          = .ok (.close (us.toList.take (i + 1)) (vs.toList.take (j + 1)))) := by
  have hu' := ht.lt_size hu
  have hv' := ht.lt_size hv
  obtain ⟨hnu, huends, htu⟩ := Table.ends_of_trace? ht.linksInside hu' hus
  obtain ⟨hnv, hvends, htv⟩ := Table.ends_of_trace? ht.linksInside hv' hvs
  rw [← htu.size_eq] at hnu
  rw [← htv.size_eq] at hnv
  obtain ⟨i, hi, j, hj, as, bs, x, hagree, hmeet, h⟩ :=
    Table.exists_meeting huends hvends hnu hnv htu htv hroot
  refine ⟨i, hi, j, hj, hagree, ⟨x, h.getElem?_left, h.getElem?_right⟩, h.nodup, h.pos huv,
    h.exists_walk, fun hnew => ⟨h.exists_cycle hnew huv,
      Table.insertIn?_of_agree hu' hv' hnew hus hvs hnu hroot hagree, fun bound hub hvb => ?_⟩⟩
  rw [Table.plan, if_neg hnew, huends.path_eq hub, hvends.path_eq hvb]
  dsimp only
  rw [if_pos (Table.getLast?_hops_eq htu htv hroot), hmeet, h.left, h.right]

/-- nine cells: the paths of nodes 1 and 7 run together at node 2, nodes 4 and 8 are linked in a
loop -/
def Table.forked : Table := ⟨#[0, 5, 6, 7, 8, 2, 0, 2, 4]⟩

theorem traces_trimmed_to_cycle_forked :
    Table.forked.InRange .small ∧
    ∃ us vs, Table.forked.trace? 1 #[9, 9, 9, 9, 9] = some (.ok 3, us) ∧
      Table.forked.trace? 7 #[9, 9, 9, 9] = some (.ok 2, vs) ∧
      agree? us vs 1 0 = some (2, 1) ∧
      ∃ c : (Table.forked.linkGraph ⊔ SimpleGraph.edge 7 1).Walk 7 7, c.IsCycle ∧ c.length = 4 := by
  have hr : Table.forked.InRange .small := ⟨by decide, by simp [Table.forked]; decide⟩
  have hus : Table.forked.trace? 1 #[9, 9, 9, 9, 9] = some (.ok 3, #[1, 5, 2, 6, 9]) := by
    cbv
  have hvs : Table.forked.trace? 7 #[9, 9, 9, 9] = some (.ok 2, #[7, 2, 6, 9]) := by
    cbv
  have hagree : agree? #[1, 5, 2, 6, 9] #[7, 2, 6, 9] 1 0 = some (2, 1) := by
    cbv
  obtain ⟨i, -, j, -, hmeet, -, -, -, -, hcycle⟩ := traces_trimmed_to_cycle .small Table.forked hr
    (by decide) (by decide) (by decide) ⟨_, _⟩ hus hvs (by decide)
  obtain ⟨rfl, rfl⟩ := Prod.mk.inj (Option.some.inj (hmeet.symm.trans hagree))
  obtain ⟨⟨c, hc, hlen, -⟩, -⟩ := hcycle (by decide)
  exact ⟨hr, _, _, hus, hvs, hagree, c, hc, hlen⟩

end CycleMiner
