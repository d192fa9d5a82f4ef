import CycleMiner.Proofs.Cycle.Recovered
import CycleMiner.Proofs.Table.Trees

/-!
# The cycles that one more edge closes

Nonces are inserted into a spanning forest one after the other.  As long as the edges inserted so
far have no cycle of the wanted size, the next edge either closes one, and then its nonces are
recovered and accepted, or it leaves it that way.

* `Graph.searched`      the graph of all edges searched;
* `HasCycle`            a graph has a cycle of a length;
* `Sparse`              small components with at most one cycle, and no edge from node 0;
* `reachable_of_mem_edges`   a cycle through the new edge connects its ends without it;
* `exists_solution_of_isForest`   a cycle of the wanted size that a nonce closes is recovered and
  accepted;
* `Sparse.step`         what one more edge does.

An edge between two trees closes no cycle.  An edge inside a tree closes one with the paths of its
ends; since a component has no second cycle, every cycle through the edge is as long as this one.
-/

namespace CycleMiner

def Graph.searched (g : Graph) (easiness : UInt32) : SimpleGraph UInt32 :=
  g.simple {n | n < easiness}

def HasCycle (G : SimpleGraph UInt32) (size : Nat) : Prop :=
  ∃ x, ∃ c : G.Walk x x, c.IsCycle ∧ c.length = size

/-- no edge from node 0, and small components with at most one cycle each -/
structure Sparse (g : Graph) (easiness : UInt32) : Prop where
  nonzero : ∀ n < easiness, g.endpoint n .a ≠ 0
  small : ∀ x, {y | (g.searched easiness).Reachable x y}.ncard ≤ Table.maxPathLength
  /-- two cycles in one component have the same edges -/
  one : ∀ x y (c : (g.searched easiness).Walk x x) (d : (g.searched easiness).Walk y y),
    c.IsCycle → d.IsCycle → (g.searched easiness).Reachable x y → ∀ e, e ∈ c.edges ↔ e ∈ d.edges

theorem HasCycle.mono {G H : SimpleGraph UInt32} {size : Nat} (hle : G ≤ H)
    (h : HasCycle G size) : HasCycle H size := by
  obtain ⟨x, c, hc, hlen⟩ := h
  exact ⟨x, c.mapLe hle, hc.mapLe hle, by rw [SimpleGraph.Walk.length_mapLe, hlen]⟩

theorem length_eq_of_edges {G : SimpleGraph UInt32} {x y : UInt32} {c : G.Walk x x}
    {d : G.Walk y y} (hc : c.IsCycle) (hd : d.IsCycle) (h : ∀ e, e ∈ c.edges ↔ e ∈ d.edges) :
    c.length = d.length := by
  have hperm : c.edges.Perm d.edges :=
    (List.perm_ext_iff_of_nodup hc.isTrail.edges_nodup hd.isTrail.edges_nodup).2 h
  rw [← c.length_edges, ← d.length_edges, hperm.length_eq]

section
variable {g : Graph} {easiness : UInt32} {S : Set UInt32} {n : UInt32}

theorem simple_le_searched (hS : ∀ m ∈ S, m < easiness) : g.simple S ≤ g.searched easiness :=
  Graph.simple_mono hS

theorem simple_insert_adj {x y : UInt32} :
    (g.simple (insert n S)).Adj x y ↔ (g.simple S).Adj x y ∨ g.ends n = s(x, y) := by
  rw [Graph.simple_adj, Graph.joins_iff_ends, Graph.simple_adj, Graph.joins_iff_ends]
  constructor
  · rintro ⟨m, rfl | hm, e⟩
    · exact .inr e
    · exact .inl ⟨m, hm, e⟩
  · rintro (⟨m, hm, e⟩ | e)
    · exact ⟨m, .inr hm, e⟩
    · exact ⟨n, .inl rfl, e⟩

/-- a cycle that avoids the new edge was there before -/
theorem hasCycle_of_notMem {x : UInt32} {c : (g.simple (insert n S)).Walk x x} (hc : c.IsCycle)
    (he : g.ends n ∉ c.edges) : HasCycle (g.simple S) c.length := by
  have hold : ∀ e ∈ c.edges, e ∈ (g.simple S).edgeSet := by
    rintro ⟨u, v⟩ huv
    rcases simple_insert_adj.1 (c.adj_of_mem_edges huv) with h | h
    · exact h
    · exact absurd (h ▸ huv) he
  exact ⟨x, c.transfer _ hold, hc.transfer hold, c.length_transfer hold⟩

/-- a cycle through the new edge connects its ends without it -/
theorem reachable_of_mem_edges {x : UInt32} {c : (g.simple (insert n S)).Walk x x}
    (hc : c.IsCycle) (he : g.ends n ∈ c.edges) :
    (g.simple S).Reachable (g.address n .a) (g.address n .b) := by
  have hr := (SimpleGraph.adj_and_reachable_delete_edges_iff_exists_cycle.2 ⟨x, c, hc, he⟩).2
  refine hr.mono fun u v huv => ?_
  obtain ⟨hadj, hne⟩ := SimpleGraph.deleteEdges_adj.1 huv
  exact (simple_insert_adj.1 hadj).resolve_right fun h => hne (Set.mem_singleton_iff.2 h.symm)

/-- a path in a forest of edges searched is short enough -/
theorem Sparse.length_lt (hs : Sparse g easiness) (hS : ∀ m ∈ S, m < easiness) {t : Table}
    (h : Spans g S t) {x : UInt32} {p : List UInt32} (hp : t.IsPath (x :: p)) :
    p.length < Table.maxPathLength := by
  have hsub : ((x :: p).toFinset : Set UInt32) ⊆ {y | (g.searched easiness).Reachable x y} := by
    intro y hy
    have hy' : y ∈ x :: p := List.mem_toFinset.1 hy
    exact (hp.reachable hy').mono (h.linkGraph_le.trans (simple_le_searched hS))
  have hcard := (Set.ncard_le_ncard hsub (Set.toFinite _)).trans (hs.small x)
  rw [Set.ncard_coe_finset, List.toFinset_card_of_nodup hp.nodup, List.length_cons] at hcard
  exact hcard

/-- a cycle of the wanted size that a nonce closes is recovered and accepted -/
theorem exists_solution_of_closed {x : UInt32} (hS : ∀ m ∈ insert n S, m < easiness)
    {us : (g.simple (insert n S)).Walk (g.address n .a) x}
    {vs : (g.simple (insert n S)).Walk (g.address n .b) x}
    {hadj : (g.simple (insert n S)).Adj (g.address n .b) (g.address n .a)}
    (hc : (SimpleGraph.Walk.cons hadj (us.append vs.reverse)).IsCycle)
    (hlen : us.length + vs.length + 1 = g.params.proofSize) :
    ∃ s, g.recover easiness us.support vs.support = some s ∧ g.verify easiness s = true ∧
      ∃ y, ∃ c : (g.searched easiness).Walk y y, c.IsCycle ∧ c.length = g.params.proofSize ∧
        IsListing g easiness c.edges s := by
  have hperm : (g.ends n :: us.edges ++ vs.edges).Perm
      (SimpleGraph.Walk.cons hadj (us.append vs.reverse)).edges := by
    rw [SimpleGraph.Walk.edges_cons, SimpleGraph.Walk.edges_append,
      SimpleGraph.Walk.edges_reverse, Graph.ends, Sym2.eq_swap, List.cons_append]
    exact ((List.reverse_perm vs.edges).symm.append_left us.edges).cons _
  have hnd := hperm.nodup_iff.2 hc.isTrail.edges_nodup
  have hsize : (SimpleGraph.Walk.cons hadj (us.append vs.reverse)).length
      = g.params.proofSize := by
    rw [SimpleGraph.Walk.length_cons, SimpleGraph.Walk.length_append,
      SimpleGraph.Walk.length_reverse, hlen]
  obtain ⟨s, hr, hlist⟩ := recover_of_walks hS (Set.mem_insert n S) us vs hnd hlen
  have hlist' := hlist.congr fun e => hperm.mem_iff
  have hle := simple_le_searched (g := g) hS
  refine ⟨s, hr, (g.verify_iff easiness s).2 (hlist'.isProof hc hS hsize), _,
    (SimpleGraph.Walk.cons hadj (us.append vs.reverse)).mapLe hle, hc.mapLe hle, ?_, ?_⟩
  · rw [SimpleGraph.Walk.length_mapLe, hsize]
  · rw [SimpleGraph.Walk.edges_mapLe_eq_edges]
    exact hlist'

/-- the edge of a nonce between two nodes of a tree closes a cycle with their paths -/
theorem exists_cycle_of_together {t : Table} (h : IsForest g S t) {as bs m : List UInt32} {x : UInt32}
    (hnew : ¬ (t.get (g.address n .a) = g.address n .b ∨ t.get (g.address n .b) = g.address n .a))
    (ht : t.Together (g.address n .a) (g.address n .b) as bs x m) :
    ∃ (hadj : (g.simple (insert n S)).Adj (g.address n .b) (g.address n .a))
      (us : (g.simple (insert n S)).Walk (g.address n .a) x)
      (vs : (g.simple (insert n S)).Walk (g.address n .b) x),
      us.support = as ++ [x] ∧ vs.support = bs ++ [x] ∧
      Insertion.cycleLength (as ++ [x]) (bs ++ [x]) = us.length + vs.length + 1 ∧
      (SimpleGraph.Walk.cons hadj (us.append vs.reverse)).IsCycle := by
  have hadj : (g.simple (insert n S)).Adj (g.address n .b) (g.address n .a) :=
    (Graph.joins_address n (Set.mem_insert n S)).symm
  have hle : t.linkGraph ≤ g.simple (insert n S) :=
    h.linkGraph_le.trans (Graph.simple_mono (Set.subset_insert n S))
  obtain ⟨us, vs, hus, hvs, hc⟩ := ht.isCycle hnew hle hadj
  refine ⟨hadj, us, vs, hus, hvs, ?_, hc⟩
  rw [← hus, ← hvs, Insertion.cycleLength, us.length_support, vs.length_support]
  omega

/-- a cycle of the wanted size that a nonce closes in a forest is recovered and accepted -/
theorem exists_solution_of_isForest {t : Table} (h : IsForest g S t) (hS : ∀ m ∈ S, m < easiness)
    (hn : n < easiness) {us vs : List UInt32}
    (hp : t.plan Table.maxPathLength (g.address n .a) (g.address n .b) = .ok (.close us vs))
    (hlen : Insertion.cycleLength us vs = g.params.proofSize) :
    ∃ s, g.recover easiness us vs = some s ∧ g.verify easiness s = true := by
  have hS' : ∀ m ∈ insert n S, m < easiness := by
    rintro m (rfl | hm)
    · exact hn
    · exact hS m hm
  rcases Table.plan_cases h.acyclic Table.maxPathLength (g.address n .a) (g.address n .b) with
    ⟨e, -⟩ | ⟨e, -⟩ | ⟨hnew, as, bs, x, m, ht, e⟩ | ⟨x, p, y, -, -, e⟩
  · rw [hp] at e
    cases e
  · rw [hp] at e
    cases e
  · rw [hp] at e
    cases e
    obtain ⟨hadj, ws, zs, hws, hzs, hl, hc⟩ := exists_cycle_of_together h hnew ht
    obtain ⟨s, hr, hv, -⟩ := exists_solution_of_closed hS' hc (hl.symm.trans hlen)
    rw [hws, hzs] at hr
    exact ⟨s, hr, hv⟩
  · rw [hp] at e
    cases e

/-- a cycle through the new edge is as long as one that the edge closes -/
theorem Sparse.length_eq (hs : Sparse g easiness) (hS : ∀ m ∈ insert n S, m < easiness)
    {x y : UInt32} {c : (g.simple (insert n S)).Walk x x} {d : (g.simple (insert n S)).Walk y y}
    (hc : c.IsCycle) (hd : d.IsCycle) (hec : g.ends n ∈ c.edges) (hed : g.ends n ∈ d.edges) :
    c.length = d.length := by
  have hle := simple_le_searched (g := g) hS
  have hu : g.address n .a ∈ c.support := c.fst_mem_support_of_mem_edges hec
  have hv : g.address n .a ∈ d.support := d.fst_mem_support_of_mem_edges hed
  have hr : (g.simple (insert n S)).Reachable x y :=
    ⟨(c.takeUntil _ hu).append (d.takeUntil _ hv).reverse⟩
  have he := hs.one x y (c.mapLe hle) (d.mapLe hle) (hc.mapLe hle) (hd.mapLe hle) (hr.mono hle)
  have := length_eq_of_edges (hc.mapLe hle) (hd.mapLe hle) he
  rwa [SimpleGraph.Walk.length_mapLe, SimpleGraph.Walk.length_mapLe] at this

/-- what one more edge does: still no cycle of the wanted size, or one is closed and its nonces are
recovered and accepted -/
theorem Sparse.step {t : Table} (hs : Sparse g easiness) (h : Spans g S t)
    (hS : ∀ m ∈ S, m < easiness) (hno : ¬ HasCycle (g.simple S) g.params.proofSize)
    (hn : n < easiness) :
    (¬ HasCycle (g.simple (insert n S)) g.params.proofSize ∧
      ∀ us vs, t.plan Table.maxPathLength (g.address n .a) (g.address n .b) = .ok (.close us vs) →
        Insertion.cycleLength us vs ≠ g.params.proofSize) ∨
    ∃ us vs s, t.plan Table.maxPathLength (g.address n .a) (g.address n .b)
        = .ok (.close us vs) ∧ Insertion.cycleLength us vs = g.params.proofSize ∧
      g.recover easiness us vs = some s ∧ g.verify easiness s = true ∧
      ∃ y, ∃ c : (g.searched easiness).Walk y y, c.IsCycle ∧ c.length = g.params.proofSize ∧
        IsListing g easiness c.edges s := by
  have hS' : ∀ m ∈ insert n S, m < easiness := by
    rintro m (rfl | hm)
    · exact hn
    · exact hS m hm
  rcases h.plan_cases (hs.nonzero n hn) (fun _ _ hp => hs.length_lt hS h hp) with
    ⟨e, hj⟩ | ⟨hnew, as, bs, x, m, ht, e⟩ | ⟨hapart, x, p, y, -, -, e⟩
  · left
    refine ⟨fun hcycle => hno (hcycle.mono fun u v huv => ?_), fun us vs e' => ?_⟩
    · have hmem : g.ends n ∈ (g.simple S).edgeSet := hj
      rcases simple_insert_adj.1 huv with h' | h'
      · exact h'
      · rw [h'] at hmem
        exact hmem
    · rw [e] at e'
      cases e'
  · obtain ⟨hadj, us, vs, hus, hvs, hlen, hc⟩ := exists_cycle_of_together h.toIsForest hnew ht
    by_cases hsize : Insertion.cycleLength (as ++ [x]) (bs ++ [x]) = g.params.proofSize
    · right
      obtain ⟨s, hr, hrest⟩ := exists_solution_of_closed hS' hc (hlen ▸ hsize)
      exact ⟨_, _, s, e, hsize, by rw [← hus, ← hvs]; exact hr, hrest⟩
    · left
      refine ⟨fun ⟨y, d, hd, hdl⟩ => ?_, fun us' vs' e' => ?_⟩
      · by_cases hed : g.ends n ∈ d.edges
        · have hec : g.ends n ∈ (SimpleGraph.Walk.cons hadj (us.append vs.reverse)).edges := by
            rw [SimpleGraph.Walk.edges_cons, Graph.ends, Sym2.eq_swap]
            exact List.mem_cons_self
          have heq := hs.length_eq hS' hc hd hec hed
          rw [SimpleGraph.Walk.length_cons, SimpleGraph.Walk.length_append,
            SimpleGraph.Walk.length_reverse] at heq
          omega
        · exact hno (hdl ▸ hasCycle_of_notMem hd hed)
      · rw [e] at e'
        cases e'
        exact hsize
  · left
    refine ⟨fun ⟨y, d, hd, hdl⟩ => ?_, fun us vs e' => ?_⟩
    · by_cases hed : g.ends n ∈ d.edges
      · exact hapart (reachable_of_mem_edges hd hed)
      · exact hno (hdl ▸ hasCycle_of_notMem hd hed)
    · rw [e] at e'
      cases e'

end

/-! ## graphs of four edges -/

section
variable {g : Graph} {easiness : UInt32} {S : Set UInt32} {x y : UInt32}

/-- every edge changes the side -/
theorem even_length_iff (w : (g.simple S).Walk x y) :
    Even w.length ↔ (x < g.params.half ↔ y < g.params.half) := by
  induction w with
  | nil => simp
  | cons hadj p ih =>
    have hside := hadj.lt_half_iff
    rw [SimpleGraph.Walk.length_cons, Nat.even_add_one, ih]
    tauto

theorem four_le_length {c : (g.simple S).Walk x x} (hc : c.IsCycle) : 4 ≤ c.length := by
  obtain ⟨k, hk⟩ := (even_length_iff c).2 Iff.rfl
  have := hc.three_le_length
  omega

def Graph.allEnds (g : Graph) (easiness : UInt32) : Finset (Sym2 UInt32) :=
  (Finset.range easiness.toNat).image fun k => g.ends (UInt32.ofNat k)

theorem mem_allEnds_of_mem_edges (w : (g.searched easiness).Walk x y) {e : Sym2 UInt32}
    (he : e ∈ w.edges) : e ∈ g.allEnds easiness := by
  have hS : ∀ n ∈ {n | n < easiness}, n < easiness := fun _ h => h
  obtain ⟨n, hn, rfl⟩ := exists_nonce_of_mem_edges w hS he
  refine Finset.mem_image.2 ⟨n.toNat, Finset.mem_range.2 (UInt32.lt_iff_toNat_lt.1 hn), ?_⟩
  rw [UInt32.ofNat_toNat]

/-- of four edges, a cycle needs all -/
theorem mem_edges_iff_of_le_four (h4 : easiness.toNat ≤ 4) {c : (g.searched easiness).Walk x x}
    (hc : c.IsCycle) (e : Sym2 UInt32) : e ∈ c.edges ↔ e ∈ g.allEnds easiness := by
  have hsub : c.edges.toFinset ⊆ g.allEnds easiness := fun e he =>
    mem_allEnds_of_mem_edges c (List.mem_toFinset.1 he)
  have hcard : (g.allEnds easiness).card ≤ c.edges.toFinset.card := by
    have hle : (g.allEnds easiness).card ≤ easiness.toNat :=
      Finset.card_image_le.trans_eq (Finset.card_range _)
    have hfour : 4 ≤ c.length := four_le_length hc
    rw [List.toFinset_card_of_nodup hc.isTrail.edges_nodup, c.length_edges]
    omega
  rw [← Finset.eq_of_subset_of_card_le hsub hcard, List.mem_toFinset]

/-- a component has no more nodes than its edges have ends, and one -/
theorem ncard_component_le (g : Graph) (easiness x : UInt32) :
    {y | (g.searched easiness).Reachable x y}.ncard ≤ 2 * easiness.toNat + 1 := by
  let ends (s : Side) : Finset UInt32 :=
    (Finset.range easiness.toNat).image fun k => g.address (UInt32.ofNat k) s
  have hcard : ∀ s, (ends s).card ≤ easiness.toNat := fun s =>
    Finset.card_image_le.trans_eq (Finset.card_range _)
  have hsub : {y | (g.searched easiness).Reachable x y}
      ⊆ ((insert x (ends .a ∪ ends .b) : Finset UInt32) : Set UInt32) := by
    rintro y ⟨w⟩
    have mem : ∀ n < easiness, ∀ s, g.address n s ∈ ends s := fun n hn s =>
      Finset.mem_image.2 ⟨n.toNat, Finset.mem_range.2 (UInt32.lt_iff_toNat_lt.1 hn), by
        rw [UInt32.ofNat_toNat]⟩
    rw [Finset.mem_coe, Finset.mem_insert, Finset.mem_union]
    rcases SimpleGraph.Walk.mem_support_iff_exists_mem_edges.1 w.reverse.start_mem_support
      with rfl | ⟨e, he, hy⟩
    · exact .inl rfl
    · have hS : ∀ n ∈ {n | n < easiness}, n < easiness := fun _ h => h
      obtain ⟨n, hn, rfl⟩ := exists_nonce_of_mem_edges w.reverse hS he
      obtain ⟨s, rfl⟩ := Graph.mem_ends_iff.1 hy
      cases s with
      | a => exact .inr (.inl (mem n hn .a))
      | b => exact .inr (.inr (mem n hn .b))
  have hle := Set.ncard_le_ncard hsub (Finset.finite_toSet _)
  rw [Set.ncard_coe_finset] at hle
  have h1 := Finset.card_insert_le x (ends .a ∪ ends .b)
  have h2 := Finset.card_union_le (ends .a) (ends .b)
  have h3 := hcard .a
  have h4 := hcard .b
  omega

/-- a graph of at most four edges, none of them from node 0, is sparse -/
theorem sparse_of_le_four (h4 : easiness.toNat ≤ 4)
    (h0 : ∀ n < easiness, g.endpoint n .a ≠ 0) : Sparse g easiness where
  nonzero := h0
  small x := by
    have hle := ncard_component_le g easiness x
    rw [Table.maxPathLength]
    omega
  one x y c d hc hd _ e := by
    rw [mem_edges_iff_of_le_four h4 hc, mem_edges_iff_of_le_four h4 hd]

end

end CycleMiner
