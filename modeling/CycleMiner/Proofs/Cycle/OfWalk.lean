import CycleMiner.Proofs.Cycle.Exactness
import CycleMiner.Proofs.Graph.Edges

/-!
# Nonces of a cycle in the graph

Nonces whose edges are those of a cycle in the graph, each taken once, are what the verifier looks
for.

* `Graph.ends`            both ends of an edge, in no order;
* `countP_edges_eq_two`   a node of a cycle is an end of exactly two of its edges;
* `isSingleCycle_of_isCycle`   the edges of a cycle form a single closed cycle.
-/

namespace CycleMiner

def Graph.ends (g : Graph) (n : UInt32) : Sym2 UInt32 := s(g.address n .a, g.address n .b)

namespace Graph

section
variable {g : Graph} {S : Set UInt32} {m n x y : UInt32}

theorem joins_iff_ends : g.Joins S x y ↔ ∃ n ∈ S, g.ends n = s(x, y) := by
  refine exists_congr fun n => and_congr_right fun _ => ?_
  rw [ends, Sym2.eq_iff, eq_comm (a := x), eq_comm (a := y), eq_comm (a := x), eq_comm (a := y)]
  exact or_congr Iff.rfl and_comm

theorem address_inj {s : Side} : g.address m s = g.address n s ↔ g.endpoint m s = g.endpoint n s := by
  cases s with
  | a => rfl
  | b =>
    rw [← UInt32.toNat_inj, toNat_address_b, toNat_address_b, Nat.add_left_cancel_iff,
      UInt32.toNat_inj]

theorem address_a_ne_address_b : g.address m .a ≠ g.address n .b := by
  intro e
  have hlt := g.address_a_lt m
  rw [e] at hlt
  exact UInt32.not_lt.2 (g.le_address_b n) hlt

theorem address_mem_ends (n : UInt32) (s : Side) : g.address n s ∈ g.ends n := by
  cases s with
  | a => exact Sym2.mem_mk_left _ _
  | b => exact Sym2.mem_mk_right _ _

theorem mem_ends_iff : x ∈ g.ends n ↔ ∃ s, x = g.address n s := by
  rw [ends, Sym2.mem_iff]
  constructor
  · rintro (h | h)
    · exact ⟨.a, h⟩
    · exact ⟨.b, h⟩
  · rintro ⟨s, rfl⟩
    cases s with
    | a => exact .inl rfl
    | b => exact .inr rfl

theorem address_mem_ends_iff {s : Side} :
    g.address m s ∈ g.ends n ↔ g.endpoint n s = g.endpoint m s := by
  rw [← address_inj (g := g), ends, Sym2.mem_iff]
  cases s with
  | a => rw [or_iff_left address_a_ne_address_b, eq_comm]
  | b => rw [or_iff_right address_a_ne_address_b.symm, eq_comm]

theorem ends_inj : g.ends m = g.ends n ↔ g.edge m = g.edge n := by
  rw [edge, edge, Edge.mk.injEq, ends, ends, Sym2.eq_iff, ← address_inj, ← address_inj]
  exact or_iff_left fun h => address_a_ne_address_b h.1

end

end Graph

/-! ## cycles of a simple graph -/

section
variable {V : Type} [DecidableEq V] {G : SimpleGraph V} {x z : V} {c : G.Walk x x}

/-- a node of a cycle is an end of exactly two of its edges -/
theorem countP_edges_eq_two (hc : c.IsCycle) (hz : z ∈ c.support) :
    c.edges.countP (fun e => z ∈ e) = 2 := by
  have hset : ((c.edges.filter fun e => z ∈ e).toFinset : Set (Sym2 V))
      = (fun w => s(z, w)) '' c.toSubgraph.neighborSet z := by
    ext e
    rw [List.coe_toFinset]
    constructor
    · intro he
      obtain ⟨he, hze⟩ := List.mem_filter.1 he
      obtain ⟨w, rfl⟩ := Sym2.mem_iff_exists.1 (of_decide_eq_true hze)
      exact ⟨w, SimpleGraph.Walk.adj_toSubgraph_iff_mem_edges.2 he, rfl⟩
    · rintro ⟨w, hw, rfl⟩
      refine List.mem_filter.2 ⟨SimpleGraph.Walk.adj_toSubgraph_iff_mem_edges.1 hw, ?_⟩
      exact decide_eq_true (Sym2.mem_mk_left z w)
  have hinj : Function.Injective fun w : V => s(z, w) := fun _ _ e => Sym2.congr_right.1 e
  calc c.edges.countP (fun e => z ∈ e)
      = (c.edges.filter fun e => z ∈ e).toFinset.card := by
        rw [List.countP_eq_length_filter,
          List.toFinset_card_of_nodup (hc.isTrail.edges_nodup.filter _)]
    _ = (c.toSubgraph.neighborSet z).ncard := by
        rw [← Set.ncard_coe_finset, hset, Set.ncard_image_of_injective _ hinj]
    _ = 2 := hc.ncard_neighborSet_toSubgraph_eq_two hz

end

/-! ## the nonces of a cycle -/

section
variable {g : Graph} {S : Set UInt32} {ns : List UInt32}

/-- along a walk over the edges of listed nonces one gets from nonce to nonce -/
theorem joined_of_walk {x y : UInt32} (w : (g.simple S).Walk x y)
    (hw : ∀ e ∈ w.edges, ∃ k ∈ ns, g.ends k = e) {m n : UInt32} (hm : m ∈ ns) (hn : n ∈ ns)
    (hmx : x ∈ g.ends m) (hny : y ∈ g.ends n) :
    Relation.ReflTransGen (Neighbours g.endpoint ns) m n := by
  have meet : ∀ {m k z}, m ∈ ns → k ∈ ns → z ∈ g.ends m → z ∈ g.ends k →
      Neighbours g.endpoint ns m k := by
    intro m k z hm hk hzm hzk
    obtain ⟨s, rfl⟩ := Graph.mem_ends_iff.1 hzm
    exact ⟨hm, hk, s, (Graph.address_mem_ends_iff.1 hzk).symm⟩
  induction w generalizing m with
  | nil => exact .single (meet hm hn hmx hny)
  | @cons x z y hadj p ih =>
    obtain ⟨k, hk, hke⟩ := hw s(x, z) List.mem_cons_self
    have hxk : x ∈ g.ends k := hke ▸ Sym2.mem_mk_left x z
    have hzk : z ∈ g.ends k := hke ▸ Sym2.mem_mk_right x z
    have rest := ih (fun e he => hw e (List.mem_cons_of_mem _ he)) hk hzk hny
    exact .head (meet hm hk hmx hxk) rest

/-- the edges of a cycle form a single closed cycle -/
theorem isSingleCycle_of_isCycle {x : UInt32} {c : (g.simple S).Walk x x} (hc : c.IsCycle)
    (h : (ns.map g.ends).Perm c.edges) : IsSingleCycle g.endpoint ns where
  two n hn s := by
    have he : g.ends n ∈ c.edges := h.subset (List.mem_map_of_mem hn)
    have hsupp : g.address n s ∈ c.support :=
      SimpleGraph.Walk.mem_support_iff_exists_mem_edges.2
        (.inr ⟨_, he, Graph.address_mem_ends n s⟩)
    rw [← countP_edges_eq_two hc hsupp, ← h.countP_eq, List.countP_map]
    refine List.countP_congr fun m _ => ?_
    simp only [Function.comp_apply, decide_eq_true_eq]
    exact Graph.address_mem_ends_iff.symm
  joined m hm n hn := by
    have hw : ∀ e ∈ c.edges, ∃ k ∈ ns, g.ends k = e := fun e he => List.mem_map.1 (h.symm.subset he)
    have supp : ∀ {k}, k ∈ ns → g.address k .a ∈ c.support := fun hk =>
      SimpleGraph.Walk.mem_support_iff_exists_mem_edges.2
        (.inr ⟨_, h.subset (List.mem_map_of_mem hk), Graph.address_mem_ends _ .a⟩)
    -- back to the start of the cycle, and from there on
    let w := (c.takeUntil _ (supp hm)).reverse.append (c.takeUntil _ (supp hn))
    refine joined_of_walk w (fun e he => hw e ?_) hm hn (Graph.address_mem_ends m .a)
      (Graph.address_mem_ends n .a)
    rw [SimpleGraph.Walk.edges_append, SimpleGraph.Walk.edges_reverse, List.mem_append,
      List.mem_reverse] at he
    rcases he with he | he
    · exact c.edges_takeUntil_subset_edges (supp hm) he
    · exact c.edges_takeUntil_subset_edges (supp hn) he

end

end CycleMiner
