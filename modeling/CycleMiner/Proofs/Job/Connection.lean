import CycleMiner.Proofs.Job.Completeness
import CycleMiner.Proofs.Job.Relay
import CycleMiner.Proofs.Table.Connection

/-!
# No edge tried is forgotten, but for those of node 0

In a graph so small that no path is too long, workers one after the other keep all nodes connected
that the edges tried connect.  Node 0 of the first side is the exception: its number stands for no
link, so its edges may be lost.

* `Arena.keeps_connects`      the edge of every nonce preserves that;
* `links_connect_tried`       what the links connect before each turn of each worker, when an edge is
  passed over, and what an edge cannot disconnect;
* `edge_of_zero_is_forgotten` the first edge of a graph, lost because it comes from node 0.
-/

namespace CycleMiner

/-- a path has no more nodes than the graph -/
theorem IsForest.length_lt_maxPathLength {g : Graph} {S : Set UInt32} {t : Table}
    (h : IsForest g S t) (hbits : g.params.edgeBits ≤ 11) {x : UInt32} {p : List UInt32}
    (hp : t.IsPath (x :: p)) : p.length < Table.maxPathLength := by
  have hnodes : g.params.nodeCount.toNat ≤ 2 * 2 ^ 11 := by
    rw [g.params.toNat_nodeCount]
    exact Nat.mul_le_mul_left 2 (Nat.pow_le_pow_right (by decide) hbits)
  have hlen := h.length_lt hp
  rw [Table.maxPathLength]
  omega

theorem Arena.keeps_connects {a : Arena} (hbits : a.graph.params.edgeBits ≤ 11) :
    a.Keeps fun tried t => Connects a.graph {n | n ∈ tried} t := by
  intro tried t n _ h
  have hset : {m | m ∈ tried ++ [n]} = insert n {m | m ∈ tried} := by
    ext m
    simp [or_comm]
  rw [hset]
  exact (h.insert n fun x p hp => h.length_lt_maxPathLength hbits hp).1

theorem Connects.start (g : Graph) : Connects g {n | n ∈ []} (Table.empty g.params) := by
  have hempty : {n : UInt32 | n ∈ []} = ∅ := Set.eq_empty_of_forall_notMem fun n hn => by cases hn
  rw [hempty]
  exact Connects.empty g

/-- whatever has been done in a relay on a small graph, before each turn of each worker: nodes other
than 0 are connected by links exactly if the edges tried that avoid node 0 connect them, and all
nodes are so if no edge tried comes from node 0; an edge is passed over only if it was tried before,
or comes from node 0 and its other end has no link; and no edge disconnects nodes other than 0 -/
theorem links_connect_tried {params : Params} (hbits : params.edgeBits ≤ 11) (header : Bytes)
    (easiness : UInt32) (threads : UInt64) (work : Work) (headerNonce : UInt32)
    (counters : Counters) (acts : List Act) (index : UInt64) (k : Nat) :
    let g := Graph.keyed params header
    let job : Job := ⟨work, headerNonce, Arena.keyed params header easiness threads⟩
    let s := acts.foldl Relay.act (Relay.start job counters)
    let b := (Worker.turns s.job alone (Worker.start index) s.board k).2
    let tried := s.tried ++ Worker.tried s.job alone (Worker.start index) s.board k
    (∀ x y, x ≠ 0 → y ≠ 0 → (b.table.linkGraph.Reachable x y ↔
      (g.simple {n | n ∈ tried ∧ g.endpoint n .a ≠ 0}).Reachable x y)) ∧
    ((∀ n ∈ tried, g.endpoint n .a ≠ 0) → ∀ x y, b.table.linkGraph.Reachable x y ↔
      (g.simple {n | n ∈ tried}).Reachable x y) ∧
    (∀ n, b.table.plan Table.maxPathLength (g.address n .a) (g.address n .b) = .ok .present →
      (∃ m ∈ tried, g.edge m = g.edge n) ∨
        (g.endpoint n .a = 0 ∧ b.table.get (g.address n .b) = 0)) ∧
    ∀ n x y, x ≠ 0 → y ≠ 0 → b.table.linkGraph.Reachable x y →
      (insertNonce s.job n b).2.table.linkGraph.Reachable x y := by
  intro g job s b tried
  have hkeeps : job.arena.Keeps fun tried t => Connects g {n | n ∈ tried} t :=
    Arena.keeps_connects hbits
  obtain ⟨ha, hs⟩ : s.job.arena = job.arena ∧ Connects g {n | n ∈ s.tried} s.board.table :=
    Relay.acts_keep (s := Relay.start job counters) hkeeps rfl (Connects.start g) acts
  have hb : Connects g {n | n ∈ tried} b.table := by
    refine Worker.turns_keep (P := fun tried t => Connects g {n | n ∈ tried} t) ?_ hs k
    rw [ha]
    exact hkeeps
  refine ⟨fun x y hx hy => hb.reachable_iff hx hy, fun h0 x y => hb.reachable_iff_of_offZero h0,
    fun n hn => ?_, fun n x y hx hy hr => ?_⟩
  · apply hb.of_present
    rcases Table.plan_cases hb.acyclic Table.maxPathLength (g.address n .a) (g.address n .b) with
      ⟨-, hl⟩ | ⟨e, -⟩ | ⟨-, as, bs, z, m, -, e⟩ | ⟨z, p, w, -, -, e⟩
    · exact hl
    all_goals
      rw [hn] at e
      cases e
  · obtain ⟨hafter, hle⟩ := hb.insert n fun z p hp => hb.length_lt_maxPathLength hbits hp
    rw [insertNonce_table, ha]
    rw [← hb.acyclic.firm_reachable_iff hx hy] at hr
    exact (hafter.acyclic.firm_reachable_iff hx hy).1 (hr.mono hle)

/-- the first two edges of a graph, from nodes 1 and 2 to node 5, connect those -/
theorem links_connect_tried_square :
    Params.small.edgeBits ≤ 11 ∧
    let job : Job := ⟨.blank, 0, Arena.keyed .small [1, 47] 4 1⟩
    let s := [].foldl Relay.act (Relay.start job .zero)
    (Worker.turns s.job alone (Worker.start 0) s.board 2).2.table.linkGraph.Reachable 1 2 := by
  refine ⟨by decide, ?_⟩
  intro job s
  have htried : s.tried ++ Worker.tried s.job alone (Worker.start 0) s.board 2 = [0, 1] := by
    decide +kernel
  have hends : [0, 1].map Graph.square.edge = [⟨1, 1⟩, ⟨2, 1⟩] ∧
      [0, 1].map (Graph.square.address · .b) = [5, 5] := by
    decide +kernel
  have hbits : Params.small.edgeBits ≤ 11 := by decide
  have hlaw := (links_connect_tried hbits [1, 47] 4 1 .blank 0 .zero [] 0 2).1 1 2 (by decide)
    (by decide)
  refine hlaw.2 ?_
  rw [htried]
  simp only [List.map_cons, List.map_nil, List.cons.injEq, and_true, Graph.edge, Edge.mk.injEq]
    at hends
  obtain ⟨⟨⟨h1, -⟩, h2, -⟩, h15, h25⟩ := hends
  have join : ∀ n ∈ ([0, 1] : List UInt32), Graph.square.endpoint n .a ≠ 0 →
      (Graph.square.simple {n | n ∈ ([0, 1] : List UInt32) ∧ Graph.square.endpoint n .a ≠ 0}).Adj
        (Graph.square.endpoint n .a) (Graph.square.address n .b) :=
    fun n hn h0 => Graph.joins_address n ⟨hn, h0⟩
  have h0 := join 0 (by decide) (by rw [h1]; decide)
  have h1' := join 1 (by decide) (by rw [h2]; decide)
  rw [h1, h15] at h0
  rw [h2, h25] at h1'
  exact h0.reachable.trans h1'.reachable.symm

/-- the first edge of a graph joins nodes 0 and 7; it is taken for a link, and none is made -/
theorem edge_of_zero_is_forgotten :
    let g := Graph.keyed .small [16]
    let job : Job := ⟨.blank, 0, Arena.keyed .small [16] 1 1⟩
    let s := [].foldl Relay.act (Relay.start job .zero)
    let b := (Worker.turns s.job alone (Worker.start 0) s.board 1).2
    let tried := s.tried ++ Worker.tried s.job alone (Worker.start 0) s.board 1
    ¬ (∀ x y, b.table.linkGraph.Reachable x y ↔ (g.simple {n | n ∈ tried}).Reachable x y) ∧
    ¬ (s.board.table.plan Table.maxPathLength (g.address 0 .a) (g.address 0 .b) = .ok .present →
      ∃ m ∈ s.tried, g.edge m = g.edge 0) := by
  intro g job s b tried
  have htried : tried = [0] := by
    decide +kernel
  have hends : g.address 0 .a = 0 ∧ g.address 0 .b = 7 := by
    decide +kernel
  have htable : b.table = Table.empty .small := by
    decide +kernel
  have hplan : s.board.table.plan Table.maxPathLength (g.address 0 .a) (g.address 0 .b)
      = .ok .present := by
    rw [hends.1, hends.2]
    rfl
  refine ⟨fun hall => ?_, fun hno => ?_⟩
  · have hjoin : g.Joins {n | n ∈ tried} (g.address 0 .a) (g.address 0 .b) := by
      rw [htried]
      exact Graph.joins_address 0 (List.mem_singleton.2 rfl)
    rw [hends.1, hends.2] at hjoin
    have hadj : (g.simple {n | n ∈ tried}).Adj 0 7 := hjoin
    obtain ⟨w⟩ := (hall 0 7).2 hadj.reachable
    rw [htable] at w
    cases w with
    | cons hadj _ =>
      obtain ⟨-, hl | hl⟩ := hadj <;>
        · rw [Table.Link, Table.get_empty] at hl
          exact hl.2 hl.1.symm
  · obtain ⟨m, hm, -⟩ := hno hplan
    cases hm

end CycleMiner
