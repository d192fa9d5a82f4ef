import CycleMiner.Proofs.Cycle.Closing
import CycleMiner.Proofs.Job.Ending
import CycleMiner.Proofs.Target.Order

/-!
# Workers miss no cycle

In a sparse graph, workers that run one after the other find a cycle of the wanted size if there is
one.  What they have inserted spans its components and has no such cycle, until one of them closes
one and publishes it.

* `Job.Unsolved`, `Job.Solved`   the board before that, and after;
* `Job.Unsolved.insertNonce`     what one nonce makes of the first;
* `Job.Unsolved.turns`           and so many turns of a worker;
* `Job.Unsolved.run`             and a worker that is run to its end;
* `Worker.runAll`                workers one after the other;
* `Job.Unsolved.runAll`          what they make of it;
* `workers_find_cycle`           all of them together find a cycle exactly if there is one.
-/

namespace CycleMiner

/-- what the edges inserted leave on a board while no cycle of the wanted size is closed -/
structure Job.Unsolved (job : Job) (S : Set UInt32) (b : Board) : Prop where
  spans : Spans job.arena.graph S b.table
  below : ∀ n ∈ S, n < job.arena.easiness
  noCycle : ¬ HasCycle (job.arena.graph.simple S) job.arena.graph.params.proofSize
  running : b.stopped = false
  nothing : b.found = []

/-- the smallest nonces of a cycle of the wanted size are published, and the job is stopped -/
structure Job.Solved (job : Job) (s : Solution) (b : Board) : Prop where
  stopped : b.stopped = true
  found : b.found = [job.candidate s]
  cycle : ∃ x, ∃ c : (job.arena.graph.searched job.arena.easiness).Walk x x, c.IsCycle ∧
    c.length = job.arena.graph.params.proofSize ∧
    IsListing job.arena.graph job.arena.easiness c.edges s

section
variable {job : Job} (hs : Sparse job.arena.graph job.arena.easiness)
  (hmax : job.work.target = Target.max)
include hs hmax

/-- a nonce leaves a board unsolved, or it is solved -/
theorem Job.Unsolved.insertNonce {S : Set UInt32} {b : Board} (h : job.Unsolved S b) {n : UInt32}
    (hn : n < job.arena.easiness) :
    ((CycleMiner.insertNonce job n b).1 = .nothing ∧
      job.Unsolved (insert n S) (CycleMiner.insertNonce job n b).2) ∨
    ∃ s, (CycleMiner.insertNonce job n b).1 = .solved s ∧
      job.Solved s (CycleMiner.insertNonce job n b).2 := by
  rcases hs.step h.spans h.below h.noCycle hn with
    ⟨hno, hlen⟩ | ⟨us, vs, s, hplan, hlen, hr, hv, hcycle⟩
  · left
    rcases insertNonce_cases job n b with ⟨s, ⟨us, vs, hp, hl, -⟩, -⟩ | ⟨-, ha, hst, hf⟩
    · exact absurd hl (hlen us vs hp)
    · refine ⟨ha, ?_, ?_, hno, hst.trans h.running, hf.trans h.nothing⟩
      · rw [insertNonce_table]
        exact h.spans.insert (hs.nonzero n hn) fun _ _ hp => hs.length_lt h.below h.spans hp
      · rintro m (rfl | hm)
        · exact hn
        · exact h.below m hm
  · right
    have hmet : job.work.isMetBy s = true := by
      rw [Work.isMetBy, hmax]
      exact Target.isMetBy_max (Solution.hash s)
    have hsolves : job.Solves b n s := ⟨us, vs, hplan, hlen, h.running, hr, hv, hmet⟩
    rcases insertNonce_cases job n b with ⟨s', ⟨us', vs', hp, -, -, hr', -⟩, ha, hst, hf⟩ | ⟨hno, -⟩
    · rw [Arena.plan, hplan] at hp
      cases hp
      obtain rfl := Option.some.inj (hr.symm.trans hr')
      exact ⟨s, ha, hst, by rw [hf, h.nothing]; rfl, hcycle⟩
    · exact absurd hsolves (hno s)

theorem Job.Unsolved.step {tried : List UInt32} {w : Worker} {b : Board}
    (h : job.Unsolved {n | n ∈ tried} b) (hexit : w.exit = none ∨ w.exit = some .exhausted) :
    (((w.step job b).1.exit = none ∨ (w.step job b).1.exit = some .exhausted) ∧
      job.Unsolved {n | n ∈ tried ++ (w.nonce? job b).toList} (w.step job b).2) ∨
    ∃ s, (w.step job b).1.exit = some (.solved s) ∧ job.Solved s (w.step job b).2 := by
  cases hn : w.nonce? job b with
  | none =>
    left
    obtain ⟨ht, hst, hf⟩ := Worker.step_board_of_no_nonce hn
    rw [Option.toList_none, List.append_nil]
    refine ⟨.inr ?_, ht ▸ h.spans, h.below, h.noCycle, hst.trans h.running, hf.trans h.nothing⟩
    rcases hexit with hexit | hexit
    · rcases Worker.step_exit_of_no_nonce hn hexit with ⟨hstop, -⟩ | ⟨-, -, hx⟩
      · rw [h.running] at hstop
        cases hstop
      · exact hx
    · rw [Worker.step_of_exit (by rw [hexit]; rfl)]
      exact hexit
  | some n =>
    obtain ⟨ht, hst, hf⟩ := Worker.step_board_of_nonce hn
    have hset : {m | m ∈ tried ++ (some n).toList} = insert n {m | m ∈ tried} := by
      ext m
      simp [or_comm]
    rcases h.insertNonce hs hmax (Worker.lt_of_nonce? hn) with ⟨ha, hu⟩ | ⟨s, ha, hsolved⟩
    · left
      rw [hset]
      refine ⟨.inl ?_, ht ▸ hu.spans, hu.below, hu.noCycle, hst.trans hu.running,
        hf.trans hu.nothing⟩
      rcases Worker.step_exit_of_nonce hn with ⟨s, ha', -⟩ | ⟨-, hx, -⟩
      · rw [ha] at ha'
        cases ha'
      · exact hx
    · right
      refine ⟨s, ?_, hst.trans hsolved.stopped, hf.trans hsolved.found, hsolved.cycle⟩
      rcases Worker.step_exit_of_nonce hn with ⟨s', ha', hx⟩ | ⟨ha', -⟩
      · rw [ha] at ha'
        cases ha'
        exact hx
      · rw [ha] at ha'
        cases ha'

theorem Job.Unsolved.turns {before : List UInt32} {b : Board}
    (h : job.Unsolved {n | n ∈ before} b) (index : UInt64) (k : Nat) :
    (((Worker.turns job alone (.start index) b k).1.exit = none ∨
        (Worker.turns job alone (.start index) b k).1.exit = some .exhausted) ∧
      job.Unsolved {n | n ∈ before ++ Worker.tried job alone (.start index) b k}
        (Worker.turns job alone (.start index) b k).2) ∨
    ∃ s, (Worker.turns job alone (.start index) b k).1.exit = some (.solved s) ∧
      job.Solved s (Worker.turns job alone (.start index) b k).2 := by
  induction k with
  | zero =>
    refine .inl ⟨.inl rfl, ?_⟩
    rw [Worker.tried, List.append_nil]
    exact h
  | succ k ih =>
    rw [Worker.turns_alone_step, Worker.tried_alone_step, ← List.append_assoc]
    rcases ih with ⟨hexit, hu⟩ | ⟨s, hexit, hsolved⟩
    · exact hu.step hs hmax hexit
    · right
      rw [Worker.step_of_exit (by rw [hexit]; rfl)]
      exact ⟨s, hexit, hsolved⟩

/-- a worker that is run to its end runs out of nonces and has then tried all of its share, or the
board is solved -/
theorem Job.Unsolved.run {before : List UInt32} {b : Board}
    (h : job.Unsolved {n | n ∈ before} b) (index : UInt64)
    (hpos : 1 ≤ job.arena.stride.toNat) (hstride : job.arena.stride.toNat + 2 ^ 32 < 2 ^ 64) :
    ((Worker.run job index b).1.exit = some .exhausted ∧
      ∃ tried, job.Unsolved {n | n ∈ before ++ tried} (Worker.run job index b).2 ∧
        ∀ n < job.arena.easiness, n.toNat % job.arena.stride.toNat = index.toNat → n ∈ tried) ∨
    ∃ s, (Worker.run job index b).1.exit = some (.solved s) ∧
      job.Solved s (Worker.run job index b).2 := by
  have hended := Worker.exit_isSome_turns hpos alone index b
  rw [Worker.run_eq_turns hpos]
  rcases h.turns hs hmax index (job.arena.easiness.toNat + 1) with ⟨hexit, hu⟩ | hsolved
  · left
    have hexit : (Worker.turns job alone (.start index) b
        (job.arena.easiness.toNat + 1)).1.exit = some .exhausted := by
      refine hexit.resolve_left fun hnone => ?_
      rw [hnone] at hended
      cases hended
    exact ⟨hexit, _, hu, fun n hn hshare =>
      Worker.mem_tried_of_exhausted hstride hexit hn hshare⟩
  · exact .inr hsolved

end

namespace Worker

/-- workers run to their end one after the other: how each of them ends, and the board after -/
def runAll (job : Job) : List UInt64 → Board → List (Option Exit) × Board
  | [], b => ([], b)
  | index :: rest, b =>
    let first := run job index b
    let others := runAll job rest first.2
    (first.1.exit :: others.1, others.2)

section
variable (job : Job) {b : Board}

theorem runAll_of_stopped (h : b.stopped = true) (order : List UInt64) :
    (runAll job order b).1 = order.map (fun _ => some .stopped) ∧
      (runAll job order b).2.found = b.found := by
  induction order with
  | nil => exact ⟨rfl, rfl⟩
  | cons index rest ih =>
    obtain ⟨hexit, hsame⟩ := run_of_stopped job h index
    obtain ⟨hexits, hfound⟩ := ih
    rw [runAll, List.map_cons, hexit, hsame]
    exact ⟨congrArg _ hexits, hfound⟩

end

end Worker

section
variable {job : Job} (hs : Sparse job.arena.graph job.arena.easiness)
  (hmax : job.work.target = Target.max) (hpos : 1 ≤ job.arena.stride.toNat)
  (hstride : job.arena.stride.toNat + 2 ^ 32 < 2 ^ 64)
include hs hmax hpos hstride

/-- workers run to their end one after the other all run out of nonces, or one of them solves the
board and those after it are stopped -/
theorem Job.Unsolved.runAll {before : List UInt32} {b : Board}
    (h : job.Unsolved {n | n ∈ before} b) (order : List UInt64) :
    ((Worker.runAll job order b).1 = order.map (fun _ => some .exhausted) ∧
      ∃ tried, job.Unsolved {n | n ∈ before ++ tried} (Worker.runAll job order b).2 ∧
        ∀ index ∈ order, ∀ n < job.arena.easiness,
          n.toNat % job.arena.stride.toNat = index.toNat → n ∈ tried) ∨
    ∃ early index late s, order = early ++ index :: late ∧
      (Worker.runAll job order b).1 = early.map (fun _ => some .exhausted) ++
        some (.solved s) :: late.map (fun _ => some .stopped) ∧
      (Worker.runAll job order b).2.found = [job.candidate s] ∧
      ∃ x, ∃ c : (job.arena.graph.searched job.arena.easiness).Walk x x, c.IsCycle ∧
        c.length = job.arena.graph.params.proofSize ∧
        IsListing job.arena.graph job.arena.easiness c.edges s := by
  induction order generalizing before b with
  | nil => exact .inl ⟨rfl, [], by rwa [List.append_nil], fun _ hi => by cases hi⟩
  | cons index rest ih =>
    rcases h.run hs hmax index hpos hstride with ⟨hexit, tried, hu, hshare⟩ | ⟨s, hexit, hsolved⟩
    · rcases ih hu with ⟨hexits, tried', hu', hshare'⟩ |
        ⟨early, index', late, s, rfl, hexits, hfound, hcycle⟩
      · left
        refine ⟨by rw [Worker.runAll, hexit, hexits]; rfl, tried ++ tried', ?_, ?_⟩
        · rw [← List.append_assoc]
          exact hu'
        · intro i hi n hn hi'
          rcases List.mem_cons.1 hi with rfl | hi
          · exact List.mem_append_left _ (hshare n hn hi')
          · exact List.mem_append_right _ (hshare' i hi n hn hi')
      · right
        exact ⟨index :: early, index', late, s, rfl, by rw [Worker.runAll, hexit, hexits]; rfl,
          hfound, hcycle⟩
    · right
      obtain ⟨hexits, hfound⟩ := Worker.runAll_of_stopped job hsolved.stopped rest
      exact ⟨[], index, rest, s, rfl, by rw [Worker.runAll, hexit, hexits]; rfl,
        hfound.trans hsolved.found, hsolved.cycle⟩

end

theorem Job.Unsolved.fresh (job : Job) (counters : Counters) :
    job.Unsolved {n | n ∈ []} (Board.fresh job.arena.graph.params counters) where
  spans := by
    have hempty : {n : UInt32 | n ∈ []} = ∅ := Set.eq_empty_of_forall_notMem fun n hn => by cases hn
    rw [hempty]
    exact Spans.empty job.arena.graph
  below n hn := by cases hn
  noCycle := by
    rintro ⟨x, c, hc, -⟩
    cases c with
    | nil => exact hc.ne_nil rfl
    | cons hadj p =>
      obtain ⟨n, hn, -⟩ := hadj
      cases hn
  running := rfl
  nothing := rfl

/-- in a sparse graph, workers run one after the other in any order find a cycle of the wanted size
exactly if there is one -/
theorem workers_find_cycle {params : Params} {header : Bytes} {easiness : UInt32}
    (hs : Sparse (Graph.keyed params header) easiness) (work : Work) (headerNonce : UInt32)
    (counters : Counters) {threads : Nat} (hpos : 1 ≤ threads) (hfits : threads + 2 ^ 32 < 2 ^ 64)
    {order : List UInt64} (horder : order.Perm ((List.range threads).map UInt64.ofNat)) :
    let graph := (Graph.keyed params header).searched easiness
    let job : Job := ⟨work.withTarget Target.max, headerNonce,
      Arena.keyed params header easiness (UInt64.ofNat threads)⟩
    let result := Worker.runAll job order (Board.fresh params counters)
    (HasCycle graph params.proofSize → ∃ early index late s, order = early ++ index :: late ∧
      result.1 = early.map (fun _ => some .exhausted) ++ some (.solved s) ::
        late.map (fun _ => some .stopped) ∧
      result.2.found = [⟨work.withTarget Target.max, headerNonce, s⟩] ∧
      ∃ x, ∃ c : graph.Walk x x, c.IsCycle ∧ c.length = params.proofSize ∧
        IsListing (Graph.keyed params header) easiness c.edges s) ∧
    (¬ HasCycle graph params.proofSize →
      result.1 = order.map (fun _ => some .exhausted) ∧ result.2.found = []) := by
  intro graph job result
  have hnat : (UInt64.ofNat threads).toNat = threads := by
    rw [UInt64.toNat_ofNat']
    omega
  have hstride : job.arena.stride.toNat = threads := by
    show (if UInt64.ofNat threads ≤ 1 then 1 else UInt64.ofNat threads).toNat = threads
    split
    · rename_i hle
      rw [UInt64.le_iff_toNat_le, hnat, UInt64.toNat_one] at hle
      rw [UInt64.toNat_one]
      omega
    · exact hnat
  rcases (Job.Unsolved.fresh job counters).runAll hs rfl (by omega) (by omega) order with
    ⟨hexits, tried, hu, hshare⟩ | ⟨early, index, late, s, horder', hexits, hfound, x, c, hc, hlen, hl⟩
  · -- all nonces have been tried
    have hall : ∀ n < easiness, n ∈ tried := by
      intro n hn
      have hlt : n.toNat % threads < threads := Nat.mod_lt _ hpos
      have hmem : UInt64.ofNat (n.toNat % threads) ∈ order :=
        horder.symm.subset (List.mem_map_of_mem (List.mem_range.2 hlt))
      refine hshare _ hmem n hn ?_
      rw [hstride, UInt64.toNat_ofNat']
      omega
    have hle : graph ≤ (Graph.keyed params header).simple {n | n ∈ [] ++ tried} :=
      Graph.simple_mono hall
    have hno : ¬ HasCycle graph params.proofSize := fun hcycle => hu.noCycle (hcycle.mono hle)
    exact ⟨fun hcycle => absurd hcycle hno, fun _ => ⟨hexits, hu.nothing⟩⟩
  · have hcycle : HasCycle graph params.proofSize := ⟨x, c, hc, hlen⟩
    exact ⟨fun _ => ⟨early, index, late, s, horder', hexits, hfound, x, c, hc, hlen, hl⟩,
      fun hno => absurd hcycle hno⟩

/-- the graph of a header whose first four edges form a cycle -/
def Graph.square : Graph := Graph.keyed .small [1, 47]

def Work.blank : Work := ⟨default, Target.max, default, ⟨0, default, default, 0, 0⟩⟩

theorem edge_square :
    [0, 1, 2, 3].map Graph.square.edge = [⟨1, 1⟩, ⟨2, 1⟩, ⟨2, 0⟩, ⟨1, 0⟩] := by
  decide +kernel

/-- the ends of the first edge of the square -/
theorem address_square : Graph.square.address 0 .a = 1 ∧ Graph.square.address 0 .b = 5 := by
  have hedge := edge_square
  simp only [List.map_cons, List.map_nil, List.cons.injEq] at hedge
  have hu : Graph.square.address 0 .a = (Graph.square.edge 0).u := rfl
  have hv : Graph.square.address 0 .b = Params.small.half + (Graph.square.edge 0).v := rfl
  rw [hu, hv, hedge.1]
  exact ⟨rfl, by decide⟩

/-- the first four edges of a square, for one worker -/
def Job.square : Job := ⟨Work.blank, 0, ⟨Graph.square, 4, 1⟩⟩

/-- the first four edges in the order of their nonces -/
theorem hasCycle_square : HasCycle (Graph.square.searched 4) 4 := by
  have adj : ∀ n < (4 : UInt32), ∀ e, Graph.square.edge n = e →
      (Graph.square.searched 4).Adj e.u (4 + e.v) := by
    rintro n hn e rfl
    exact Graph.joins_address n hn
  have hedge := edge_square
  simp only [List.map_cons, List.map_nil, List.cons.injEq] at hedge
  have h0 := adj 0 (by decide) _ hedge.1
  have h1 := adj 1 (by decide) _ hedge.2.1
  have h2 := adj 2 (by decide) _ hedge.2.2.1
  have h3 := adj 3 (by decide) _ hedge.2.2.2.1
  refine ⟨1, .cons h0 (.cons h1.symm (.cons h2 (.cons h3.symm .nil))), ?_, rfl⟩
  rw [SimpleGraph.Walk.cons_isCycle_iff, SimpleGraph.Walk.isPath_def]
  simp only [SimpleGraph.Walk.support_cons, SimpleGraph.Walk.support_nil,
    SimpleGraph.Walk.edges_cons, SimpleGraph.Walk.edges_nil]
  decide

theorem sparse_square : Sparse Graph.square 4 := by
  refine sparse_of_le_four (by decide) fun n hn => ?_
  have hall : ∀ k ∈ [0, 1, 2, 3].map Graph.square.edge, k.u ≠ 0 := by
    rw [edge_square]
    decide
  refine hall _ (List.mem_map_of_mem ?_)
  have hlt : n.toNat < 4 := UInt32.lt_iff_toNat_lt.1 hn
  simp only [List.mem_cons, List.not_mem_nil, or_false, ← UInt32.toNat_inj]
  show n.toNat = 0 ∨ n.toNat = 1 ∨ n.toNat = 2 ∨ n.toNat = 3
  omega

/-- two workers, the second one first -/
theorem workers_find_cycle_square :
    Sparse Graph.square 4 ∧ HasCycle (Graph.square.searched 4) 4 ∧
    ∃ early index late s, ([1, 0] : List UInt64) = early ++ index :: late ∧
      (Worker.runAll ⟨Work.blank.withTarget Target.max, 0, Arena.keyed .small [1, 47] 4 2⟩ [1, 0]
          (Board.fresh .small .zero)).1
        = early.map (fun _ => some .exhausted) ++ some (.solved s) ::
          late.map (fun _ => some .stopped) ∧
      (Worker.runAll ⟨Work.blank.withTarget Target.max, 0, Arena.keyed .small [1, 47] 4 2⟩ [1, 0]
          (Board.fresh .small .zero)).2.found = [⟨Work.blank.withTarget Target.max, 0, s⟩] ∧
      ∃ x, ∃ c : (Graph.square.searched 4).Walk x x, c.IsCycle ∧ c.length = 4 ∧
        IsListing Graph.square 4 c.edges s :=
  ⟨sparse_square, hasCycle_square,
    (workers_find_cycle sparse_square Work.blank 0 .zero (show 1 ≤ 2 by decide) (by decide)
      (by decide)).1 hasCycle_square⟩

end CycleMiner
