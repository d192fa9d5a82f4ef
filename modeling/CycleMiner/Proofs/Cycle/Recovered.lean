import CycleMiner.Graph.Recovery
import CycleMiner.Proofs.Cycle.OfWalk

/-!
# What is recovered from a closed cycle

* `mem_collect`, `mem_collect_all`   the nonces collected are the first ones of the wanted edges;
* `map_pathEdges`     the edges read off the nodes of a walk are the edges of the walk;
* `IsListing`         the smallest nonces of some edges, ascending;
* `recover_of_walks`  two walks that close a cycle of the wanted size are recovered as the listing of
  its edges;
* `IsListing.isProof` which is a proof.
-/

namespace CycleMiner

namespace Graph

/-! ## collecting nonces -/

section
variable {g : Graph}

theorem collect_succ (count : Nat) (start : UInt32) (wanted : List Edge) :
    g.collect (count + 1) start wanted = (if g.edge start ∈ wanted then [start] else []) ++
      g.collect count (start + 1) (wanted.erase (g.edge start)) := by
  rw [collect, isWanted_eq]
  by_cases hin : g.edge start ∈ wanted
  · rw [if_pos (List.contains_iff_mem.2 hin), if_pos hin]
    rfl
  · rw [if_neg (fun h => hin (List.contains_iff_mem.1 h)), if_neg hin, List.erase_of_not_mem hin]
    rfl

/-- collecting finds the first nonces of the wanted edges -/
theorem mem_collect {count : Nat} {start n : UInt32} {wanted : List Edge} (hw : wanted.Nodup)
    (hlt : start.toNat + count < 2 ^ 32) :
    n ∈ g.collect count start wanted ↔
      (start.toNat ≤ n.toNat ∧ n.toNat < start.toNat + count) ∧ g.edge n ∈ wanted ∧
        ∀ m : UInt32, start.toNat ≤ m.toNat → m.toNat < n.toNat → g.edge m ≠ g.edge n := by
  induction count generalizing start wanted with
  | zero =>
    refine iff_of_false List.not_mem_nil fun h => ?_
    omega
  | succ count ih =>
    have hnext : (start + 1).toNat = start.toNat + 1 := by
      rw [UInt32.toNat_add, UInt32.toNat_one]
      omega
    rw [collect_succ, List.mem_append, ih (hw.erase _) (by omega), hnext, hw.mem_erase_iff]
    constructor
    · rintro (h | ⟨⟨hle, hub⟩, ⟨hne, hmem⟩, hfirst⟩)
      · split at h
        · rename_i hin
          obtain rfl := List.mem_singleton.1 h
          exact ⟨⟨Nat.le_refl _, by omega⟩, hin, fun m h1 h2 => by omega⟩
        · cases h
      · refine ⟨⟨by omega, by omega⟩, hmem, fun m h1 h2 => ?_⟩
        by_cases hm : m = start
        · rw [hm]
          exact hne.symm
        · have : m.toNat ≠ start.toNat := fun e => hm (UInt32.toNat_inj.1 e)
          exact hfirst m (by omega) h2
    · rintro ⟨⟨hle, hub⟩, hmem, hfirst⟩
      by_cases hn : n = start
      · rw [hn] at hmem ⊢
        exact .inl (by rw [if_pos hmem]; exact List.mem_singleton.2 rfl)
      · have : n.toNat ≠ start.toNat := fun e => hn (UInt32.toNat_inj.1 e)
        have hne : g.edge n ≠ g.edge start :=
          (hfirst start (Nat.le_refl _) (by omega)).symm
        exact .inr ⟨⟨by omega, by omega⟩, ⟨hne, hmem⟩, fun m h1 h2 => hfirst m (by omega) h2⟩

theorem collect_ascends {count : Nat} {start : UInt32} {wanted : List Edge} (hw : wanted.Nodup)
    (hlt : start.toNat + count < 2 ^ 32) : (g.collect count start wanted).Pairwise (· < ·) := by
  induction count generalizing start wanted with
  | zero => exact .nil
  | succ count ih =>
    have hnext : (start + 1).toNat = start.toNat + 1 := by
      rw [UInt32.toNat_add, UInt32.toNat_one]
      omega
    rw [collect_succ, List.pairwise_append]
    refine ⟨?_, ih (hw.erase _) (by omega), fun n hn m hm => ?_⟩
    · split
      · exact List.pairwise_singleton _ _
      · exact .nil
    · obtain ⟨⟨hle, -⟩, -⟩ := (mem_collect (hw.erase _) (by omega)).1 hm
      split at hn
      · obtain rfl := List.mem_singleton.1 hn
        rw [UInt32.lt_iff_toNat_lt]
        omega
      · cases hn

end

section
variable (g : Graph) (easiness : UInt32) {wanted : List Edge} (hw : wanted.Nodup)
include hw

/-- of all nonces below the easiness those are collected that are the first of a wanted edge -/
theorem mem_collect_all (n : UInt32) :
    n ∈ g.collect easiness.toNat 0 wanted ↔
      n < easiness ∧ g.edge n ∈ wanted ∧ ∀ m < n, g.edge m ≠ g.edge n := by
  have hbound : (0 : UInt32).toNat + easiness.toNat < 2 ^ 32 := by
    have := easiness.toNat_lt
    rw [UInt32.toNat_zero]
    omega
  rw [mem_collect hw hbound, UInt32.toNat_zero, Nat.zero_add, and_iff_right (Nat.zero_le _),
    ← UInt32.lt_iff_toNat_lt]
  refine and_congr_right fun _ => and_congr_right fun _ => forall_congr' fun m => ?_
  rw [UInt32.lt_iff_toNat_lt]
  exact ⟨fun h => h (Nat.zero_le _), fun h _ => h⟩

theorem collect_all_ascends : (g.collect easiness.toNat 0 wanted).Pairwise (· < ·) := by
  have := easiness.toNat_lt
  exact collect_ascends hw (by rw [UInt32.toNat_zero]; omega)

end

end Graph

/-! ## edges read off a walk -/

/-- both ends of an edge, in no order -/
def Edge.ends (half : UInt32) (e : Edge) : Sym2 UInt32 := s(e.u, half + e.v)

theorem Graph.edge_eq (g : Graph) (n : UInt32) :
    (⟨g.address n .a, g.address n .b - g.params.half⟩ : Edge) = g.edge n := by
  have hb : g.address n .b - g.params.half = g.endpoint n .b := by
    show g.params.half + g.endpoint n .b - g.params.half = g.endpoint n .b
    rw [UInt32.add_comm, UInt32.add_sub_cancel]
  rw [hb]
  rfl

theorem eraseDups_of_nodup {es : List Edge} (h : es.Nodup) : es.eraseDups = es := by
  induction es with
  | nil => rfl
  | cons e es ih =>
    obtain ⟨hne, hes⟩ := List.nodup_cons.1 h
    have hkeep : es.filter (fun b => !b == e) = es := by
      refine List.filter_eq_self.2 fun b hb => ?_
      have : b ≠ e := fun heq => hne (heq ▸ hb)
      simpa using this
    rw [List.eraseDups_cons, hkeep, ih hes]

section
variable {g : Graph} {S : Set UInt32}

/-- the edges read off the nodes of a walk are edges of nonces, and those of the walk -/
theorem map_pathEdges {x y : UInt32} (w : (g.simple S).Walk x y) :
    ∃ ns : List UInt32, (∀ n ∈ ns, n ∈ S) ∧
      pathEdges g.params.half (decide (x < g.params.half)) w.support = ns.map g.edge ∧
      ns.map g.ends = w.edges := by
  induction w with
  | nil => exact ⟨[], by simp, rfl, rfl⟩
  | @cons x z y hadj p ih =>
    obtain ⟨ns, hns, hedges, hends⟩ := ih
    have hflip : decide (z < g.params.half) = !decide (x < g.params.half) := by
      rw [Bool.eq_not]
      intro e
      have := hadj.lt_half_iff
      rw [decide_eq_decide] at e
      tauto
    have hsupp : p.support = z :: p.support.tail := p.cons_tail_support.symm
    have hcons : pathEdges g.params.half (decide (x < g.params.half)) (x :: p.support)
        = (if decide (x < g.params.half) then ⟨x, z - g.params.half⟩
            else ⟨z, x - g.params.half⟩) ::
          pathEdges g.params.half (decide (z < g.params.half)) p.support := by
      rw [hflip]
      conv_lhs => rw [hsupp]
      conv_rhs => rw [hsupp]
      rfl
    obtain ⟨n, hn, ⟨rfl, rfl⟩ | ⟨rfl, rfl⟩⟩ := id hadj
    · refine ⟨n :: ns, List.forall_mem_cons.2 ⟨hn, hns⟩, ?_, ?_⟩
      · rw [SimpleGraph.Walk.support_cons, hcons, hedges,
          if_pos (decide_eq_true (g.address_a_lt n)), g.edge_eq, List.map_cons]
      · rw [SimpleGraph.Walk.edges_cons, List.map_cons, hends, Graph.ends]
    · refine ⟨n :: ns, List.forall_mem_cons.2 ⟨hn, hns⟩, ?_, ?_⟩
      · have hb : ¬ g.address n .b < g.params.half := UInt32.not_lt.2 (g.le_address_b n)
        rw [SimpleGraph.Walk.support_cons, hcons, hedges,
          if_neg (fun h => hb (of_decide_eq_true h)), g.edge_eq, List.map_cons]
      · rw [SimpleGraph.Walk.edges_cons, List.map_cons, hends, Graph.ends, Sym2.eq_swap]

/-- the edges wanted for a cycle that a nonce closes between two walks -/
theorem exists_cycleEdges {n x : UInt32} (hn : n ∈ S) (us : (g.simple S).Walk (g.address n .a) x)
    (vs : (g.simple S).Walk (g.address n .b) x)
    (hnd : (g.ends n :: us.edges ++ vs.edges).Nodup) :
    ∃ ns : List UInt32, (∀ k ∈ ns, k ∈ S) ∧
      cycleEdges g.params.half us.support vs.support = ns.map g.edge ∧
      ns.map g.ends = g.ends n :: us.edges ++ vs.edges := by
  obtain ⟨as, has, hedges, hends⟩ := map_pathEdges us
  obtain ⟨bs, hbs, hedges', hends'⟩ := map_pathEdges vs
  have hb : ¬ g.address n .b < g.params.half := UInt32.not_lt.2 (g.le_address_b n)
  rw [decide_eq_true (g.address_a_lt n)] at hedges
  rw [decide_eq_false hb] at hedges'
  have hmap : (n :: as ++ bs).map g.ends = g.ends n :: us.edges ++ vs.edges := by
    rw [List.map_append, List.map_cons, hends, hends']
  have hnodup : ((n :: as ++ bs).map g.edge).Nodup := by
    have : (((n :: as ++ bs).map g.edge).map (Edge.ends g.params.half)).Nodup := by
      rw [List.map_map]
      exact hmap ▸ hnd
    exact this.of_map _
  refine ⟨n :: as ++ bs, ?_, ?_, hmap⟩
  · intro k hk
    rcases List.mem_append.1 hk with hk | hk
    · rcases List.mem_cons.1 hk with rfl | hk
      · exact hn
      · exact has k hk
    · exact hbs k hk
  · have hraw : (⟨us.support.headD 0, vs.support.headD 0 - g.params.half⟩ ::
        pathEdges g.params.half true us.support ++ pathEdges g.params.half false vs.support)
          = (n :: as ++ bs).map g.edge := by
      rw [hedges, hedges', ← us.cons_tail_support, ← vs.cons_tail_support, List.headD_cons,
        List.headD_cons, g.edge_eq, List.map_append, List.map_cons]
    rw [cycleEdges, hraw, eraseDups_of_nodup hnodup]

end

/-! ## the whole recovery -/

/-- `s` lists the edges in `es`, each by its smallest nonce, ascending -/
structure IsListing (g : Graph) (easiness : UInt32) (es : List (Sym2 UInt32)) (s : List UInt32) :
    Prop where
  ascends : s.Pairwise (· < ·)
  mem_iff : ∀ n, n ∈ s ↔ n < easiness ∧ g.ends n ∈ es ∧ ∀ m < n, g.ends m ≠ g.ends n

section
variable {g : Graph} {easiness : UInt32} {es es' : List (Sym2 UInt32)} {s : List UInt32}

theorem IsListing.congr (h : IsListing g easiness es s) (he : ∀ e, e ∈ es ↔ e ∈ es') :
    IsListing g easiness es' s :=
  ⟨h.ascends, fun n => by rw [h.mem_iff, he]⟩

theorem exists_first {n : UInt32} (hn : n < easiness) :
    ∃ k < easiness, g.ends k = g.ends n ∧ ∀ m < k, g.ends m ≠ g.ends k := by
  induction h : n.toNat using Nat.strongRecOn generalizing n with
  | ind v ih =>
    subst h
    by_cases hfirst : ∃ m < n, g.ends m = g.ends n
    · obtain ⟨m, hm, e⟩ := hfirst
      obtain ⟨k, hk, he, hmin⟩ :=
        ih m.toNat (UInt32.lt_iff_toNat_lt.1 hm) (UInt32.lt_trans hm hn) rfl
      exact ⟨k, hk, he.trans e, hmin⟩
    · exact ⟨n, hn, rfl, fun m hm e => hfirst ⟨m, hm, e⟩⟩

/-- of two nonces with one edge the larger is not the first -/
theorem eq_of_first {α : Type} {f : UInt32 → α} {m n : UInt32} (hm : ∀ k < m, f k ≠ f m)
    (hn : ∀ k < n, f k ≠ f n) (e : f m = f n) : m = n := by
  rcases Nat.lt_trichotomy m.toNat n.toNat with hlt | heq | hlt
  · exact absurd e (hn m (UInt32.lt_iff_toNat_lt.2 hlt))
  · exact UInt32.toNat_inj.1 heq
  · exact absurd e.symm (hm n (UInt32.lt_iff_toNat_lt.2 hlt))

theorem IsListing.perm (h : IsListing g easiness es s) (hnd : es.Nodup)
    (hes : ∀ e ∈ es, ∃ n < easiness, g.ends n = e) : (s.map g.ends).Perm es := by
  have hs : s.Nodup := h.ascends.imp fun hlt => UInt32.ne_of_lt hlt
  have hinj : ∀ m ∈ s, ∀ n ∈ s, g.ends m = g.ends n → m = n := fun m hm n hn =>
    eq_of_first ((h.mem_iff m).1 hm).2.2 ((h.mem_iff n).1 hn).2.2
  refine (List.perm_ext_iff_of_nodup (hs.map_on hinj) hnd).2 fun e => ?_
  rw [List.mem_map]
  constructor
  · rintro ⟨n, hn, rfl⟩
    exact ((h.mem_iff n).1 hn).2.1
  · intro he
    obtain ⟨n, hn, rfl⟩ := hes e he
    obtain ⟨k, hk, hke, hmin⟩ := exists_first (g := g) hn
    exact ⟨k, (h.mem_iff k).2 ⟨hk, hke ▸ he, hmin⟩, hke⟩

theorem exists_nonce_of_mem_edges {S : Set UInt32} {x y : UInt32} (w : (g.simple S).Walk x y)
    (hS : ∀ n ∈ S, n < easiness) {e : Sym2 UInt32} (he : e ∈ w.edges) :
    ∃ n < easiness, g.ends n = e := by
  obtain ⟨u, v⟩ := e
  obtain ⟨n, hn, hne⟩ := Graph.joins_iff_ends.1 (w.adj_of_mem_edges he)
  exact ⟨n, hS n hn, hne⟩

/-- a listing of the edges of a cycle of the wanted size is a proof -/
theorem IsListing.isProof {S : Set UInt32} {x : UInt32} {c : (g.simple S).Walk x x}
    (h : IsListing g easiness c.edges s) (hc : c.IsCycle) (hS : ∀ n ∈ S, n < easiness)
    (hlen : c.length = g.params.proofSize) : g.IsProof easiness s := by
  have hperm := h.perm hc.isTrail.edges_nodup fun e he => exists_nonce_of_mem_edges c hS he
  refine ⟨?_, h.ascends, fun n hn => ((h.mem_iff n).1 hn).1, isSingleCycle_of_isCycle hc hperm⟩
  rw [← hlen, ← c.length_edges, ← hperm.length_eq, List.length_map]

/-- two walks that a nonce closes to a cycle of the wanted size are recovered as the listing of the
edges -/
theorem recover_of_walks {S : Set UInt32} {n x : UInt32} (hS : ∀ n ∈ S, n < easiness) (hn : n ∈ S)
    (us : (g.simple S).Walk (g.address n .a) x) (vs : (g.simple S).Walk (g.address n .b) x)
    (hnd : (g.ends n :: us.edges ++ vs.edges).Nodup)
    (hlen : us.length + vs.length + 1 = g.params.proofSize) :
    ∃ s, g.recover easiness us.support vs.support = some s ∧
      IsListing g easiness (g.ends n :: us.edges ++ vs.edges) s := by
  obtain ⟨ns, hns, hwanted, hends⟩ := exists_cycleEdges hn us vs hnd
  have hnodup : (ns.map g.edge).Nodup := by
    have : ((ns.map g.edge).map (Edge.ends g.params.half)).Nodup := by
      rw [List.map_map]
      exact hends.symm ▸ hnd
    exact this.of_map _
  have hmem : ∀ k, g.edge k ∈ ns.map g.edge ↔ g.ends k ∈ g.ends n :: us.edges ++ vs.edges := by
    intro k
    rw [← hends, List.mem_map, List.mem_map]
    exact exists_congr fun m => and_congr_right fun _ => Graph.ends_inj.symm
  have hlisting : IsListing g easiness (g.ends n :: us.edges ++ vs.edges)
      (g.collect easiness.toNat 0 (ns.map g.edge)) := by
    refine ⟨g.collect_all_ascends easiness hnodup, fun k => ?_⟩
    rw [g.mem_collect_all easiness hnodup, hmem]
    refine and_congr_right fun _ => and_congr_right fun _ => forall₂_congr fun m _ => ?_
    rw [Graph.ends_inj.ne]
  have hsize : (g.collect easiness.toNat 0 (ns.map g.edge)).length = g.params.proofSize := by
    have hperm := hlisting.perm hnd fun e he => by
      rw [← hends] at he
      obtain ⟨k, hk, rfl⟩ := List.mem_map.1 he
      exact ⟨k, hS k (hns k hk), rfl⟩
    have hcount := hperm.length_eq
    rw [List.length_map, List.length_append, List.length_cons, us.length_edges,
      vs.length_edges] at hcount
    omega
  refine ⟨_, ?_, hlisting⟩
  rw [Graph.recover, hwanted]
  exact if_pos hsize

end

end CycleMiner
