import CycleMiner.Proofs.Job.Progression
import CycleMiner.Proofs.Job.Trials

/-!
# Counts balance

Here the table may hold anything, so a trial may meet an anomaly of either kind, and a cycle that
closes need not be recovered.  Others may change the table and the flag between two turns.  Still,
what a worker adds to the counts fits together.

* `Gain`, `Counters.plus`, `Counters.gain`   how much the counts of a search grow;
* `Balanced`                 what the counts have to do with each other;
* `Trial.balanced`           one trial, counted as an edge unless it solves the job;
* `Worker.settled`           the counts, once the pending edges of a worker are counted;
* `Worker.act_settled`, `Worker.step_balanced`   one turn;
* `Worker.turns_balanced`    so many turns;
* `Worker.ended_balanced`    all turns of a worker.

Edges are counted in batches, so the count itself does not grow by one with each trial; with the
pending edges of the worker added it does.
-/

namespace CycleMiner

structure Gain where
  edges : Nat
  cycles : Nat
  solutions : Nat
  errors : Nat

def Gain.add (g h : Gain) : Gain :=
  ⟨g.edges + h.edges, g.cycles + h.cycles, g.solutions + h.solutions, g.errors + h.errors⟩

namespace Counters

def plus (c : Counters) (g : Gain) : Counters :=
  { c with
    edges := c.edges + UInt64.ofNat g.edges
    cycles := c.cycles + UInt64.ofNat g.cycles
    solutions := c.solutions + UInt64.ofNat g.solutions
    errors := c.errors + UInt64.ofNat g.errors }

/-- how much the counts have grown from the first to the second; they wrap -/
def gain (c c' : Counters) : Gain where
  edges := (c'.edges - c.edges).toNat
  cycles := (c'.cycles - c.cycles).toNat
  solutions := (c'.solutions - c.solutions).toNat
  errors := (c'.errors - c.errors).toNat

section
variable (c : Counters) (g h : Gain) (m n : UInt64)

theorem plus_zero : c.plus ⟨0, 0, 0, 0⟩ = c := by
  simp [plus]

theorem plus_add : c.plus (g.add h) = (c.plus g).plus h := by
  simp [plus, Gain.add, UInt64.ofNat_add, UInt64.add_assoc]

theorem addEdges_zero : c.addEdges 0 = c := by
  rw [addEdges, UInt64.add_zero]

theorem addEdges_addEdges : (c.addEdges m).addEdges n = c.addEdges (m + n) := by
  simp only [addEdges, UInt64.add_assoc]

theorem plus_addEdges : (c.plus g).addEdges n = (c.addEdges n).plus g := by
  simp only [plus, addEdges, UInt64.add_assoc, UInt64.add_comm n]

end

theorem toNat_add_sub {a : UInt64} {n : Nat} (h : n < 2 ^ 64) :
    (a + UInt64.ofNat n - a).toNat = n := by
  rw [UInt64.add_comm, UInt64.add_sub_cancel, UInt64.toNat_ofNat_of_lt' h]

end Counters

/-- a search that tries this many nonces, meets this many anomalies and is solved this many times
adds no more than it should -/
structure Balanced (tried anomalies solved : Nat) (g : Gain) : Prop where
  edges : g.edges + solved = tried
  errors : g.errors + solved = anomalies + g.solutions
  solutions_le : g.solutions ≤ g.cycles
  cycles_le : g.cycles ≤ tried

namespace Balanced

section
variable {m n a a' s s' : Nat} {g h : Gain}

theorem zero : Balanced 0 0 0 ⟨0, 0, 0, 0⟩ := ⟨rfl, rfl, Nat.le_refl 0, Nat.le_refl 0⟩

theorem add (hg : Balanced m a s g) (hh : Balanced n a' s' h) :
    Balanced (m + n) (a + a') (s + s') (g.add h) := by
  obtain ⟨e, f, p, q⟩ := hg
  obtain ⟨e', f', p', q'⟩ := hh
  constructor <;> dsimp only [Gain.add] <;> omega

/-- counts that grow by less than they can hold have grown by so much -/
theorem gain_plus (hg : Balanced m a s g) (hm : m < 2 ^ 63) (ha : a ≤ m) (c : Counters) :
    c.gain (c.plus g) = g := by
  obtain ⟨e, f, p, q⟩ := hg
  rw [Counters.gain, Counters.plus]
  dsimp only
  rw [Counters.toNat_add_sub (by omega), Counters.toNat_add_sub (by omega),
    Counters.toNat_add_sub (by omega), Counters.toNat_add_sub (by omega)]

end

end Balanced

/-! ## one trial -/

def Attempt.hits : Attempt → Nat
  | .solved _ => 1
  | .nothing => 0

/-- what comes of a cycle that is offered, and what is counted for it -/
theorem offer_balanced (job : Job) (us vs : List UInt32) (b : Board) :
    ∃ g, (offer job us vs (b.count .addCycle)).2.counters.addEdges
        (UInt64.ofNat (1 - (offer job us vs (b.count .addCycle)).1.hits)) = b.counters.plus g ∧
      Balanced 1 0 (offer job us vs (b.count .addCycle)).1.hits g := by
  cases hr : job.arena.graph.recover job.arena.easiness us vs with
  | none =>
    refine ⟨⟨1, 1, 0, 0⟩, ?_⟩
    rw [offer, hr]
    refine ⟨?_, ⟨rfl, rfl, Nat.zero_le 1, Nat.le_refl 1⟩⟩
    simp [Counters.plus, Counters.addEdges, Counters.addCycle, Board.count, Attempt.hits]
  | some s =>
    rw [offer, hr]
    dsimp only
    split
    · split
      · -- the nonce that solves the job is not counted
        refine ⟨⟨0, 1, 1, 0⟩, ?_, ⟨rfl, rfl, Nat.le_refl 1, Nat.le_refl 1⟩⟩
        simp [Counters.plus, Counters.addEdges, Counters.addCycle, Counters.addSolution,
          Board.count, Attempt.hits]
      · refine ⟨⟨1, 1, 1, 1⟩, ?_, ⟨rfl, rfl, Nat.le_refl 1, Nat.le_refl 1⟩⟩
        simp [Counters.plus, Counters.addEdges, Counters.addCycle, Counters.addSolution,
          Counters.addError, Board.count, Attempt.hits]
    · refine ⟨⟨1, 1, 1, 1⟩, ?_, ⟨rfl, rfl, Nat.le_refl 1, Nat.le_refl 1⟩⟩
      simp [Counters.plus, Counters.addEdges, Counters.addCycle, Counters.addSolution,
        Counters.addError, Board.count, Attempt.hits]

namespace Trial

def attempt (x : Trial) : Attempt := (insertNonce x.job x.nonce x.board).1

/-- no path leads from an end of the edge to a root -/
def isAnomaly (x : Trial) : Bool :=
  match x.plan with
  | .error _ => true
  | .ok _ => false

section
variable {x : Trial}

theorem isAnomaly_of_ok {p : Insertion} (h : x.plan = .ok p) : x.isAnomaly = false := by
  rw [isAnomaly, h]

theorem isAnomaly_of_error {f : PathFault} (h : x.plan = .error f) : x.isAnomaly = true := by
  rw [isAnomaly, h]

end

/-- what one trial adds, when it is counted as an edge unless it solves the job -/
theorem balanced (x : Trial) :
    ∃ g, x.after.counters.addEdges (UInt64.ofNat (1 - x.attempt.hits)) = x.board.counters.plus g ∧
      Balanced 1 x.isAnomaly.toNat x.attempt.hits g := by
  have hplan : x.board.table.plan Table.maxPathLength (x.job.arena.graph.address x.nonce .a)
      (x.job.arena.graph.address x.nonce .b) = x.plan := rfl
  rw [after, attempt, insertNonce, hplan]
  cases hp : x.plan with
  | error f =>
    refine ⟨⟨1, 0, 0, 1⟩, ?_, ?_⟩
    · simp [Counters.plus, Counters.addEdges, Counters.addError, Board.count, Attempt.hits]
    · rw [isAnomaly_of_error hp]
      exact ⟨rfl, rfl, Nat.le_refl 0, Nat.zero_le 1⟩
  | ok p =>
    rw [isAnomaly_of_ok hp]
    cases p with
    | present =>
      refine ⟨⟨1, 0, 0, 0⟩, ?_, ⟨rfl, rfl, Nat.le_refl 0, Nat.zero_le 1⟩⟩
      simp [Counters.plus, Counters.addEdges, Attempt.hits]
    | join path partner =>
      refine ⟨⟨1, 0, 0, 0⟩, ?_, ⟨rfl, rfl, Nat.le_refl 0, Nat.zero_le 1⟩⟩
      simp [Counters.plus, Counters.addEdges, Attempt.hits]
    | close us vs =>
      dsimp only
      rw [closeCycle]
      split
      · exact offer_balanced x.job us vs x.board
      · refine ⟨⟨1, 1, 0, 0⟩, ?_, ⟨rfl, rfl, Nat.zero_le 1, Nat.le_refl 1⟩⟩
        simp [Counters.plus, Counters.addEdges, Counters.addCycle, Board.count, Attempt.hits]

end Trial

/-! ## turns -/

namespace Worker

def hits (w : Worker) : Nat :=
  match w.exit with
  | some (.solved _) => 1
  | _ => 0

def settled (w : Worker) (b : Board) : Counters := b.counters.addEdges w.pending

section
variable {job : Job} {w : Worker} {b : Board}

theorem finish_settled (e : Exit) : (w.finish e b).1.settled (w.finish e b).2 = w.settled b :=
  Counters.addEdges_zero _

theorem tally_settled :
    (w.tally b).1.settled (w.tally b).2 = (w.settled b).addEdges 1 := by
  unfold tally
  split
  · show (b.counters.addEdges (w.pending + 1)).addEdges 0
      = (b.counters.addEdges w.pending).addEdges 1
    rw [Counters.addEdges_zero, Counters.addEdges_addEdges]
  · show b.counters.addEdges (w.pending + 1) = (b.counters.addEdges w.pending).addEdges 1
    rw [Counters.addEdges_addEdges]

/-- what a turn with a nonce adds is what the trial adds -/
theorem attempt_settled (w : Worker) {n : UInt32} {g : Gain}
    (hg : (Trial.after ⟨job, b, n⟩).counters.addEdges
      (UInt64.ofNat (1 - (Trial.attempt ⟨job, b, n⟩).hits)) = b.counters.plus g) :
    let turn := match insertNonce job n b with
      | (.solved s, b') => (onward job w).finish (.solved s) b'
      | (.nothing, b') => (onward job w).tally b'
    turn.1.settled turn.2 = (w.settled b).plus g := by
  have hbefore : (w.settled b).plus g = (b.counters.plus g).addEdges w.pending :=
    (Counters.plus_addEdges _ _ _).symm
  dsimp only
  rw [hbefore, ← hg, Trial.after, Trial.attempt]
  split
  case h_1 s b' e =>
    rw [e, finish_settled]
    show b'.counters.addEdges w.pending = (b'.counters.addEdges 0).addEdges w.pending
    rw [Counters.addEdges_zero]
  case h_2 b' e =>
    rw [e, tally_settled]
    show (b'.counters.addEdges w.pending).addEdges 1
      = (b'.counters.addEdges 1).addEdges w.pending
    rw [Counters.addEdges_addEdges, Counters.addEdges_addEdges, UInt64.add_comm]

/-- whatever a turn adds, it adds to the counts of a search -/
theorem act_settled (job : Job) (told : Bool) (w : Worker) (b : Board) :
    ∃ g, (act job told w b).1.settled (act job told w b).2 = (w.settled b).plus g := by
  have hnothing : ∃ g, w.settled b = (w.settled b).plus g :=
    ⟨⟨0, 0, 0, 0⟩, (Counters.plus_zero _).symm⟩
  unfold act
  split
  · exact hnothing
  split
  · rw [finish_settled]
    exact hnothing
  split
  · rw [finish_settled]
    exact hnothing
  · obtain ⟨g, hg, -⟩ := Trial.balanced ⟨job, b, w.next.toUInt32⟩
    exact ⟨g, attempt_settled w hg⟩

/-- what a turn adds is what its trial adds -/
theorem step_balanced (job : Job) (w : Worker) (b : Board) :
    ∃ g hits, (step job w b).1.settled (step job w b).2 = (w.settled b).plus g ∧
      (step job w b).1.hits = w.hits + hits ∧
      Balanced (trial? job w b).toList.length ((trial? job w b).toList.countP (·.isAnomaly))
        hits g := by
  cases hn : nonce? job w b with
  | none =>
    refine ⟨⟨0, 0, 0, 0⟩, 0, ?_, ?_, ?_⟩
    · rw [Counters.plus_zero, step_of_no_nonce hn]
      split
      · rfl
      · exact finish_settled _
    · rw [step_of_no_nonce hn]
      split
      · rfl
      case isFalse hrunning =>
        have hzero : w.hits = 0 := by rw [hits, Option.not_isSome_iff_eq_none.1 hrunning]
        rw [hzero]
        by_cases hstop : b.stopped = true
        · rw [if_pos hstop]
          rfl
        · rw [if_neg hstop]
          rfl
    · rw [trial?, hn]
      exact Balanced.zero
  | some n =>
    obtain ⟨hexit, -⟩ := nonce?_eq_some.1 hn
    have hzero : w.hits = 0 := by rw [hits, hexit]
    obtain ⟨g, hg, hb⟩ := Trial.balanced ⟨job, b, n⟩
    refine ⟨g, (Trial.attempt ⟨job, b, n⟩).hits, ?_, ?_, ?_⟩
    · rw [step_of_nonce hn]
      exact attempt_settled w hg
    · rw [hzero, Nat.zero_add, step_of_nonce hn, Trial.attempt]
      dsimp only
      split
      case h_1 s b' e =>
        rw [e]
        rfl
      case h_2 b' e =>
        rw [e, hits, tally_exit]
        show (match w.exit with | some (.solved _) => 1 | _ => 0) = 0
        rw [hexit]
    · rw [trial?, hn, Option.map_some, Option.toList_some, List.countP_singleton,
        ← Bool.cond_eq_ite]
      exact hb

end

section
variable (job : Job) (others : Nat → Board → Board) (w : Worker) (b : Board)

theorem length_trialsAmong_le (k : Nat) : (trialsAmong job others w b k).length ≤ k := by
  induction k with
  | zero => exact Nat.le_refl 0
  | succ k ih =>
    rw [trialsAmong, List.length_append]
    have hone : (trial? job (turns job others w b k).1
        (others k (turns job others w b k).2)).toList.length ≤ 1 := Option.length_toList_le
    omega

end

section
variable {job : Job} {others : Nat → Board → Board}

/-- a worker that has ended has counted all its edges -/
theorem pending_of_exit {index : UInt64} {b : Board} {k : Nat}
    (h : (turns job others (start index) b k).1.exit.isSome = true) :
    (turns job others (start index) b k).1.pending = 0 := by
  induction k with
  | zero => cases h
  | succ k ih =>
    rw [turns_succ] at h ⊢
    generalize others k (turns job others (start index) b k).2 = met at h ⊢
    generalize (turns job others (start index) b k).1 = w at h ih ⊢
    cases hn : nonce? job w met with
    | none =>
      rw [step_of_no_nonce hn]
      split
      case isTrue hended => exact ih hended
      case isFalse => rfl
    | some n =>
      obtain ⟨hexit, -⟩ := nonce?_eq_some.1 hn
      rw [step_of_nonce hn] at h ⊢
      split at h
      case h_1 => rfl
      case h_2 =>
        rw [tally_exit, onward, hexit] at h
        cases h

variable (hothers : ∀ i b, (others i b).counters = b.counters)
include hothers

/-- what so many turns add is what their trials add, if others leave the counts alone -/
theorem turns_balanced (index : UInt64) (b : Board) (k : Nat) :
    ∃ g, (turns job others (start index) b k).1.settled (turns job others (start index) b k).2
        = b.counters.plus g ∧
      Balanced (trialsAmong job others (start index) b k).length
        ((trialsAmong job others (start index) b k).countP (·.isAnomaly))
        (turns job others (start index) b k).1.hits g := by
  induction k with
  | zero =>
    refine ⟨⟨0, 0, 0, 0⟩, ?_, Balanced.zero⟩
    rw [Counters.plus_zero]
    exact Counters.addEdges_zero _
  | succ k ih =>
    -- what others do in between leaves the counts alone, and so what is settled
    obtain ⟨g, hg, hb⟩ := ih
    obtain ⟨g', hits, hg', hhits, hb'⟩ := step_balanced job
      (turns job others (start index) b k).1 (others k (turns job others (start index) b k).2)
    refine ⟨g.add g', ?_, ?_⟩
    · rw [turns_succ, hg', settled, hothers]
      rw [settled] at hg
      rw [hg, Counters.plus_add]
    · rw [turns_succ, hhits, trialsAmong, List.length_append, List.countP_append]
      exact hb.add hb'

/-- the counts of a worker balance once it has ended -/
theorem ended_balanced (hpos : 1 ≤ job.arena.stride.toNat) (index : UInt64) (b : Board) :
    let turns := job.arena.easiness.toNat + 1
    let ended := Worker.turns job others (start index) b turns
    Balanced (trialsAmong job others (start index) b turns).length
      ((trialsAmong job others (start index) b turns).countP (·.isAnomaly)) ended.1.hits
      (b.counters.gain ended.2.counters) := by
  intro turns ended
  obtain ⟨g, hg, hb⟩ := turns_balanced hothers index b turns
  have hended := exit_isSome_turns hpos others index b
  rw [settled, pending_of_exit hended, Counters.addEdges_zero] at hg
  have hlen : (trialsAmong job others (start index) b turns).length ≤ turns :=
    length_trialsAmong_le job others (start index) b turns
  have hbound : turns ≤ 2 ^ 32 := job.arena.easiness.toNat_lt
  rw [hg, hb.gain_plus (by omega) List.countP_le_length]
  exact hb

end

end Worker

end CycleMiner
