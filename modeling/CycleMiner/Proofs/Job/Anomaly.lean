import CycleMiner.Proofs.Job.Buffers
import CycleMiner.Proofs.Job.Completeness

/-!
# A nonce that is skipped

A path that does not end, or is too long, makes a worker skip a nonce.  The table may hold anything
here, and others may change it between two turns.

* `Table.plan_of_fault`       an edge comes to nothing if the path of either end fails;
* `Table.endless_of_closed`   nodes whose links stay among them have no path;
* `Skips`                     a turn that leaves no trace but one more error;
* `SameSearch`                two runs that have come to the same;
* `anomaly_leaves_no_trace`   the turn of such a nonce skips it, and the rest of the run is the one
  over the progression without it.

An edge that is a link already is passed over before its paths are looked for, so it is no anomaly
whatever they are.
-/

namespace CycleMiner

namespace Table

section
variable {t : Table} {u v : UInt32} {bound : Nat}

theorem plan_of_fault (hnew : ¬ (t.get u = v ∨ t.get v = u))
    (h : (∃ f, t.path bound u = .error f) ∨ ∃ f, t.path bound v = .error f) :
    ∃ f, t.plan bound u v = .error f := by
  -- the second path is not looked for if the first one fails
  cases hu : t.path bound u with
  | error f => exact ⟨f, by rw [plan, if_neg hnew, hu]⟩
  | ok us =>
    rcases h with ⟨f, hf⟩ | ⟨f, hf⟩
    · rw [hu] at hf
      cases hf
    · exact ⟨f, by rw [plan, if_neg hnew, hu, hf]⟩

/-- no path leads out of nodes whose links stay among them -/
theorem endless_of_closed {S : List UInt32} (hS : ∀ x ∈ S, t.get x ≠ 0 ∧ t.get x ∈ S)
    {node : UInt32} (h : node ∈ S) : ∃ f, t.path bound node = .error f := by
  have hstay : ∀ k, t.hop node k ∈ S := by
    intro k
    induction k with
    | zero => exact h
    | succ k ih =>
      rw [hop_succ]
      exact (hS _ ih).2
  exact ⟨_, path_of_endless fun k _ => (hS _ (hstay k)).1⟩

end

end Table

/-- a turn that has left no trace on the board it met: an error is counted, and the worker goes on
with its next nonce -/
structure Skips (job : Job) (w : Worker) (met : Board) (after : Worker × Board) : Prop where
  table : after.2.table = met.table
  cycles : after.2.counters.cycles = met.counters.cycles
  solutions : after.2.counters.solutions = met.counters.solutions
  found : after.2.found = met.found
  stopped : after.2.stopped = met.stopped
  errors : after.2.counters.errors = met.counters.errors + 1
  exit : after.1.exit = none
  next : after.1.next = w.next + job.arena.stride

/-- two runs have come to the same: only the counts of edges and errors may differ, and how many
edges are not counted yet -/
structure SameSearch (x y : Worker × Board) : Prop where
  table : x.2.table = y.2.table
  exit : x.1.exit = y.1.exit
  found : x.2.found = y.2.found
  stopped : x.2.stopped = y.2.stopped
  cycles : x.2.counters.cycles = y.2.counters.cycles
  solutions : x.2.counters.solutions = y.2.counters.solutions

theorem SameSearch.of_bare {x y : Worker × Board} (hexit : x.1.exit = y.1.exit)
    (h : x.2.bare = y.2.bare) : SameSearch x y := by
  obtain ⟨htable, hstopped, hfound, hcycles, hsolutions⟩ := Board.eq_of_bare h
  exact ⟨htable, hexit, hfound, hstopped, hcycles, hsolutions⟩

theorem insertNonce_of_fault {job : Job} {n : UInt32} {b : Board} {f : PathFault}
    (h : job.arena.plan b.table n = .error f) :
    insertNonce job n b = (.nothing, b.count .addError) := by
  rw [Arena.plan] at h
  simp only [insertNonce, h]

namespace Worker

section
variable {job : Job} {w : Worker} {b : Board} {n : UInt32} {f : PathFault}

theorem tally_errors (w : Worker) (b : Board) :
    (w.tally b).2.counters.errors = b.counters.errors := by
  unfold tally
  split <;> rfl

theorem step_of_fault (hn : nonce? job w b = some n) (h : job.arena.plan b.table n = .error f) :
    step job w b = (onward job w).tally (b.count .addError) := by
  rw [step_of_nonce hn, insertNonce_of_fault h]

theorem step_bare_of_fault (hn : nonce? job w b = some n)
    (h : job.arena.plan b.table n = .error f) : (step job w b).2.bare = b.bare := by
  rw [step_of_fault hn h, bare_tally]
  rfl

theorem skips_of_fault (hn : nonce? job w b = some n) (h : job.arena.plan b.table n = .error f) :
    Skips job w b (step job w b) := by
  obtain ⟨hexit, -⟩ := nonce?_eq_some.1 hn
  obtain ⟨htable, hstopped, hfound, hcycles, hsolutions⟩ :=
    Board.eq_of_bare (step_bare_of_fault hn h)
  refine ⟨htable, hcycles, hsolutions, hfound, hstopped, ?_, ?_, ?_⟩
  · rw [step_of_fault hn h, tally_errors]
    rfl
  · rw [step_of_fault hn h, tally_exit]
    exact hexit
  · rw [step_of_fault hn h, tally_next]
    rfl

end

section
variable {job : Job} {others : Nat → Board → Board} {index : UInt64} {b : Board} {k m : Nat}

theorem exit_of_le (hkm : k ≤ m) (h : (turns job others (start index) b m).1.exit = none) :
    (turns job others (start index) b k).1.exit = none := by
  induction m, hkm using Nat.le_induction with
  | base => exact h
  | succ m _ ih =>
    rw [turns_succ] at h
    exact ih (exit_of_step h)

/-- a worker that goes on has turns left -/
theorem lt_of_exit_eq_none (hpos : 1 ≤ job.arena.stride.toNat)
    (h : (turns job others (start index) b k).1.exit = none) : k < job.arena.easiness.toNat + 1 := by
  by_contra hge
  have hgoes := exit_of_le (Nat.not_lt.1 hge) h
  have hended := exit_isSome_turns hpos others index b
  rw [hgoes] at hended
  cases hended

end

end Worker

/-- whatever a table in range holds, and whatever others do to the board between two turns as long
as they keep the table in range and do not look at the counts of edges and errors: if the edge of a
nonce is no link yet and the path of either of its ends fails, the turn changes nothing but that an
error is counted, and the worker goes on; after it, it always stands where it would stand after as
many further turns over its progression without that nonce, up to the end of the run; and this is so
with two buffers, whatever they held at first and whatever the skipped nonce has left in them -/
theorem anomaly_leaves_no_trace (job : Job) (others : Nat → Board → Board)
    (hkeeps : Keeps job.arena.graph.params others) (hblind : Blind others) (index : UInt64)
    (b : Board) (hb : b.table.InRange job.arena.graph.params) (k : Nat) (n : UInt32) :
    let nonces := Worker.progression job index
    let full := Worker.turns job others (.start index) b
    let less := Worker.follow job (inOne k others) (leaveOut k nonces) (.start index) b
    let met := others k (full k).2
    let u := job.arena.graph.address n .a
    let v := job.arena.graph.address n .b
    Worker.nonce? job (full k).1 met = some n →
    ¬ (met.table.get u = v ∨ met.table.get v = u) →
    ((∃ f, met.table.path Table.maxPathLength u = .error f) ∨
      ∃ f, met.table.path Table.maxPathLength v = .error f) →
    Skips job (full k).1 met (full (k + 1)) ∧
    nonces k = some n ∧
    (∀ m, SameSearch (full (k + 2 + m)) (less (k + 1 + m))) ∧
    (1 ≤ job.arena.stride.toNat → ∃ m, k + 2 + m = job.arena.easiness.toNat + 1 ∧
      (full (k + 2 + m)).1.exit.isSome = true ∧
      (others = alone → Worker.run job index b = full (k + 2 + m))) ∧
    ∀ s : Buffers, s.Sized → ∀ m,
      (∃ s', Worker.followIn? job others nonces (.start index) b s m = some (full m, s')) ∧
      ∃ s', Worker.followIn? job (inOne k others) (leaveOut k nonces) (.start index) b s m
        = some (less m, s') := by
  intro nonces full less met u v hn hnew hfail
  obtain ⟨f, hf⟩ : ∃ f, job.arena.plan met.table n = .error f := Table.plan_of_fault hnew hfail
  obtain ⟨hexit, -, hlt, hword⟩ := Worker.nonce?_eq_some.1 hn
  have hskips : Skips job (full k).1 met (full (k + 1)) := Worker.skips_of_fault hn hf
  have hbare : (full (k + 1)).2.bare = met.bare := Worker.step_bare_of_fault hn hf
  have hfull : ∀ j, full j = Worker.follow job others nonces (.start index) b j :=
    Worker.turns_eq_follow index
  refine ⟨hskips, ?_, fun m => ?_, fun hpos => ?_, fun s hs m => ?_⟩
  · have hnext : (full k).1.next = index + UInt64.ofNat k * job.arena.stride :=
      Worker.next_turns hexit
    show Worker.progression job index k = some n
    rw [Worker.progression, ← hnext, if_neg (UInt64.not_le.2 hlt), hword]
  · -- the turn has changed neither the exit nor, but for its errors, the board that it met
    have hexit' : (Worker.follow job others nonces (.start index) b (k + 1)).1.exit
        = (Worker.follow job others nonces (.start index) b k).1.exit := by
      rw [← hfull, ← hfull]
      exact hskips.exit.trans hexit.symm
    have hbare' : (Worker.follow job others nonces (.start index) b (k + 1)).2.bare
        = (others k (Worker.follow job others nonces (.start index) b k).2).bare := by
      rw [← hfull, ← hfull]
      exact hbare
    obtain ⟨he, hrest⟩ := Worker.follow_leaveOut hblind hexit' hbare' m
    rw [← hfull] at he hrest
    exact .of_bare he hrest
  · have hbefore := Worker.lt_of_exit_eq_none hpos hskips.exit
    obtain ⟨m, hm⟩ : ∃ m, job.arena.easiness.toNat + 1 = k + 2 + m :=
      Nat.exists_eq_add_of_le (by omega)
    refine ⟨m, hm.symm, ?_, ?_⟩
    · rw [← hm]
      exact Worker.exit_isSome_turns hpos others index b
    · rintro rfl
      rw [← hm]
      exact Worker.run_eq_turns hpos index b
  · obtain ⟨s₁, e₁, -⟩ := Worker.followIn?_eq hkeeps hb hs m
    obtain ⟨s₂, e₂, -⟩ := Worker.followIn?_eq (keeps_inOne hkeeps k) hb hs m
    refine ⟨⟨s₁, ?_⟩, s₂, e₂⟩
    rw [hfull]
    exact e₁

/-- a table in which node 5 and the spare node are linked to each other -/
def Table.spun : Table := ⟨#[0, 0, 0, 0, 0, 8, 0, 0, 5]⟩

theorem Table.inRange_spun : spun.InRange .small := ⟨by decide, by simp [spun]; decide⟩

def Board.spun : Board := ⟨Table.spun, false, .zero, []⟩

/-- the first edge of the square ends at node 5, and its other end has a path -/
theorem anomaly_leaves_no_trace_spun :
    let full := Worker.turns Job.square alone (.start 0) Board.spun
    let less := Worker.follow Job.square (inOne 0 alone)
      (leaveOut 0 (Worker.progression Job.square 0)) (.start 0) Board.spun
    Table.spun.path Table.maxPathLength 1 = .ok [1] ∧
    Skips Job.square (full 0).1 (full 0).2 (full (0 + 1)) ∧
    (∀ m, SameSearch (full (0 + 2 + m)) (less (0 + 1 + m))) ∧
    ∃ m, Worker.run Job.square 0 Board.spun = full (0 + 2 + m) := by
  intro full less
  have hclosed : ∀ x ∈ [(5 : UInt32), 8],
      Table.spun.get x ≠ 0 ∧ Table.spun.get x ∈ [(5 : UInt32), 8] := by
    intro x hx
    rcases List.mem_pair.1 hx with rfl | rfl <;> decide
  obtain ⟨hu, hv⟩ := address_square
  have hnonce : Worker.nonce? Job.square (.start 0) Board.spun = some 0 :=
    Worker.nonce?_eq_some.2 ⟨rfl, rfl, by decide, rfl⟩
  have hnew : ¬ (Table.spun.get (Graph.square.address 0 .a) = Graph.square.address 0 .b ∨
      Table.spun.get (Graph.square.address 0 .b) = Graph.square.address 0 .a) := by
    rw [hu, hv]
    decide
  have hfail : ∃ f, Table.spun.path Table.maxPathLength (Graph.square.address 0 .b)
      = .error f := by
    rw [hv]
    exact Table.endless_of_closed hclosed (by decide)
  obtain ⟨hskips, -, hrest, hend, -⟩ := anomaly_leaves_no_trace Job.square alone (keeps_alone _)
    blind_alone 0 Board.spun Table.inRange_spun 0 0 hnonce hnew (.inr hfail)
  obtain ⟨m, -, -, hrun⟩ := hend (by decide)
  have hone : Table.spun.path Table.maxPathLength 1 = .ok [1] :=
    Table.path_of_isPath (show Table.spun.IsPath [1] from rfl) _
  exact ⟨hone, hskips, hrest, m, hrun rfl⟩

end CycleMiner
