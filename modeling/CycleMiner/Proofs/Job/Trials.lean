import CycleMiner.Proofs.Job.Completeness
import CycleMiner.Proofs.Job.Relay

/-!
# What is counted

Each nonce that a worker tries is a trial: the job, the board that the nonce meets, and the nonce.
In a relay every trial meets a forest.  So a cycle of the wanted size that closes is recovered and
accepted, and the counts of solutions and errors can be read off the trials.

* `Trial.closed?`, `Trial.recovered?`   the cycle that closes, and the nonces recovered from it;
* `Trial.isTooLong`, `Trial.misses`     the two things that are counted as errors;
* `Trial.Fits`                          a trial on a forest, while the job is not stopped;
* `Counted`                             counts that differ by what some trials add;
* `Trial.Fits.counted`                  what one trial adds;
* `Worker.trials`, `Relay.trials`       the trials of turns, and of whatever is done;
* `Worker.trialsAmong`                  the trials of turns while others change the board;
* `closed_cycles_are_solutions`         what the counts of a relay are.
-/

namespace CycleMiner

/-- a nonce that a worker tries, with the board that it meets -/
structure Trial where
  job : Job
  board : Board
  nonce : UInt32

namespace Trial

def plan (x : Trial) : Except PathFault Insertion := x.job.arena.plan x.board.table x.nonce

/-- the paths of the ends, if the edge closes a cycle of the wanted size with them -/
def closed? (x : Trial) : Option (List UInt32 × List UInt32) :=
  match x.plan with
  | .ok (.close us vs) =>
    if Insertion.cycleLength us vs = x.job.arena.graph.params.proofSize then some (us, vs) else none
  | _ => none

def recovered? (x : Trial) : Option Solution :=
  x.closed?.bind fun c => x.job.arena.graph.recover x.job.arena.easiness c.1 c.2

def verifies (x : Trial) (s : Solution) : Bool := x.job.arena.graph.verify x.job.arena.easiness s

/-- the path of an end has more nodes than a path may have -/
def isTooLong (x : Trial) : Bool :=
  match x.plan with
  | .error (.tooLong _) => true
  | _ => false

/-- the nonces recovered are accepted, but they miss the target -/
def misses (x : Trial) : Bool := x.recovered?.any fun s => x.verifies s && !x.job.work.isMetBy s

def after (x : Trial) : Board := (insertNonce x.job x.nonce x.board).2

/-- the trial meets a forest of edges searched, and a job that is not stopped -/
structure Fits (x : Trial) : Prop where
  isForest : ∃ S, IsForest x.job.arena.graph S x.board.table ∧ ∀ n ∈ S, n < x.job.arena.easiness
  lt_easiness : x.nonce < x.job.arena.easiness
  running : x.board.stopped = false

end Trial

/-- the solutions and errors counted have grown by what these trials add -/
structure Counted (xs : List Trial) (c c' : Counters) : Prop where
  solutions : c'.solutions = c.solutions + UInt64.ofNat (xs.countP (·.closed?.isSome))
  errors : c'.errors = c.errors + UInt64.ofNat (xs.countP (·.isTooLong) + xs.countP (·.misses))

namespace Counted

section
variable {xs ys : List Trial} {c c' c'' : Counters}

theorem nil (hs : c'.solutions = c.solutions) (he : c'.errors = c.errors) : Counted [] c c' where
  solutions := by
    rw [hs]
    exact (UInt64.add_zero _).symm
  errors := by
    rw [he]
    exact (UInt64.add_zero _).symm

theorem append (h : Counted xs c c') (h' : Counted ys c' c'') : Counted (xs ++ ys) c c'' where
  solutions := by
    rw [h'.solutions, h.solutions, List.countP_append, UInt64.ofNat_add, UInt64.add_assoc]
  errors := by
    rw [h'.errors, h.errors, UInt64.add_assoc, ← UInt64.ofNat_add, List.countP_append,
      List.countP_append]
    congr 2
    omega

variable {x : Trial}

theorem single (hs : c'.solutions = c.solutions + UInt64.ofNat x.closed?.isSome.toNat)
    (he : c'.errors = c.errors + UInt64.ofNat (x.isTooLong.toNat + x.misses.toNat)) :
    Counted [x] c c' where
  solutions := by rw [hs, List.countP_singleton, Bool.toNat, Bool.cond_eq_ite]
  errors := by
    rw [he, List.countP_singleton, List.countP_singleton, Bool.toNat, Bool.toNat,
      Bool.cond_eq_ite, Bool.cond_eq_ite]

theorem of_not_closed (h : x.closed? = none) (hs : c'.solutions = c.solutions)
    (he : c'.errors = c.errors + UInt64.ofNat x.isTooLong.toNat) : Counted [x] c c' := by
  apply single
  · rw [hs, h]
    exact (UInt64.add_zero _).symm
  · rw [he, Trial.misses, Trial.recovered?, h]
    rfl

end

end Counted

namespace Trial

section
variable {x : Trial} {us vs : List UInt32}

theorem closed?_of_close (h : x.plan = .ok (.close us vs)) :
    x.closed? = if Insertion.cycleLength us vs = x.job.arena.graph.params.proofSize
      then some (us, vs) else none := by
  rw [closed?, h]

theorem after_of_close (h : x.plan = .ok (.close us vs)) :
    x.after = (closeCycle x.job us vs x.board).2 := by
  rw [plan, Arena.plan] at h
  simp only [after, insertNonce, h]

theorem counted_of_present (h : x.plan = .ok .present) :
    Counted [x] x.board.counters x.after.counters := by
  have hclosed : x.closed? = none := by rw [closed?, h]
  have hlong : x.isTooLong = false := by rw [isTooLong, h]
  rw [plan, Arena.plan] at h
  have hafter : x.after = x.board := by simp only [after, insertNonce, h]
  apply Counted.of_not_closed hclosed
  · rw [hafter]
  · rw [hafter, hlong]
    exact (UInt64.add_zero _).symm

theorem counted_of_join {path : List UInt32} {partner : UInt32}
    (h : x.plan = .ok (.join path partner)) :
    Counted [x] x.board.counters x.after.counters := by
  have hclosed : x.closed? = none := by rw [closed?, h]
  have hlong : x.isTooLong = false := by rw [isTooLong, h]
  rw [plan, Arena.plan] at h
  have hafter : x.after.counters = x.board.counters := by simp only [after, insertNonce, h]
  apply Counted.of_not_closed hclosed
  · rw [hafter]
  · rw [hafter, hlong]
    exact (UInt64.add_zero _).symm

theorem counted_of_tooLong {bound : Nat} (h : x.plan = .error (.tooLong bound)) :
    Counted [x] x.board.counters x.after.counters := by
  have hclosed : x.closed? = none := by rw [closed?, h]
  have hlong : x.isTooLong = true := by rw [isTooLong, h]
  rw [plan, Arena.plan] at h
  have hafter : x.after = x.board.count .addError := by simp only [after, insertNonce, h]
  apply Counted.of_not_closed hclosed
  · rw [hafter]
    rfl
  · rw [hafter, hlong]
    rfl

end

end Trial

namespace Trial.Fits

section
variable {x : Trial} (h : x.Fits) {us vs : List UInt32}
include h

/-- a cycle of the wanted size that a trial closes is recovered and accepted -/
theorem recovers (hp : x.plan = .ok (.close us vs))
    (hlen : Insertion.cycleLength us vs = x.job.arena.graph.params.proofSize) :
    ∃ s, x.job.arena.graph.recover x.job.arena.easiness us vs = some s ∧ x.verifies s = true := by
  obtain ⟨S, hf, hS⟩ := h.isForest
  exact exists_solution_of_isForest hf hS h.lt_easiness hp hlen

theorem counted_of_close (hp : x.plan = .ok (.close us vs)) :
    Counted [x] x.board.counters x.after.counters := by
  have hlong : x.isTooLong = false := by rw [isTooLong, hp]
  rw [after_of_close hp]
  by_cases hlen : Insertion.cycleLength us vs = x.job.arena.graph.params.proofSize
  · have hclosed : x.closed? = some (us, vs) := by rw [closed?_of_close hp, if_pos hlen]
    obtain ⟨s, hr, hv⟩ := h.recovers hp hlen
    have hmiss : x.misses = !x.job.work.isMetBy s := by
      rw [misses, recovered?, hclosed, Option.bind_some, hr, Option.any_some, hv, Bool.true_and]
    have hoffer : closeCycle x.job us vs x.board
        = offer x.job us vs (x.board.count .addCycle) := by
      rw [closeCycle]
      exact if_pos ⟨hlen, by rw [Board.count, h.running]; rfl⟩
    rw [verifies] at hv
    rw [hoffer, offer, hr]
    dsimp only
    rw [if_pos hv]
    -- the solution is counted either way; only one that misses the target is an error as well
    cases hm : x.job.work.isMetBy s with
    | true =>
      apply Counted.single
      · rw [hclosed]
        rfl
      · rw [hlong, hmiss, hm]
        exact (UInt64.add_zero _).symm
    | false =>
      apply Counted.single
      · rw [hclosed]
        rfl
      · rw [hlong, hmiss, hm]
        rfl
  · have hclosed : x.closed? = none := by rw [closed?_of_close hp, if_neg hlen]
    have hnothing : closeCycle x.job us vs x.board = (.nothing, x.board.count .addCycle) := by
      rw [closeCycle]
      exact if_neg fun hc => hlen hc.1
    rw [hnothing]
    apply Counted.of_not_closed hclosed
    · rfl
    · rw [hlong]
      exact (UInt64.add_zero _).symm

/-- what a trial adds: a solution if it closes a cycle of the wanted size, and an error if a path is
too long or the cycle misses the target -/
theorem counted : Counted [x] x.board.counters x.after.counters := by
  obtain ⟨S, hf, -⟩ := h.isForest
  rcases Table.plan_cases hf.acyclic Table.maxPathLength (x.job.arena.graph.address x.nonce .a)
    (x.job.arena.graph.address x.nonce .b) with
    ⟨e, -⟩ | ⟨e, -⟩ | ⟨-, as, bs, y, m, -, e⟩ | ⟨y, p, z, -, -, e⟩
  · exact counted_of_present e
  · exact counted_of_tooLong e
  · exact h.counted_of_close e
  · exact counted_of_join e

end

end Trial.Fits

/-! ## turns -/

namespace Worker

section
variable (job : Job) (w : Worker) (b : Board)

def trial? : Option Trial := (nonce? job w b).map (Trial.mk job b)

/-- the trials of so many turns with nobody in between, the first one first -/
def trials : Nat → List Trial
  | 0 => []
  | k + 1 =>
    trials k ++ (trial? job (turns job alone w b k).1 (turns job alone w b k).2).toList

end

section
variable (job : Job) (others : Nat → Board → Board) (w : Worker) (b : Board)

/-- the trials of so many turns while others change the board, the first one first -/
def trialsAmong : Nat → List Trial
  | 0 => []
  | k + 1 =>
    trialsAmong k ++ (trial? job (turns job others w b k).1
      (others k (turns job others w b k).2)).toList

theorem trials_eq_trialsAmong (k : Nat) : trials job w b k = trialsAmong job alone w b k := by
  induction k with
  | zero => rfl
  | succ k ih =>
    rw [trials, ih]
    rfl

end

section
variable {job : Job} {w : Worker} {b : Board}

theorem map_nonce_trialsAmong (others : Nat → Board → Board) (k : Nat) :
    (trialsAmong job others w b k).map Trial.nonce = tried job others w b k := by
  induction k with
  | zero => rfl
  | succ k ih =>
    rw [trialsAmong, List.map_append, ih, tried, trial?, ← Option.toList_map, Option.map_map]
    congr 2
    exact congrFun Option.map_id _

theorem map_nonce_trials (k : Nat) :
    (trials job w b k).map Trial.nonce = tried job alone w b k := by
  rw [trials_eq_trialsAmong, map_nonce_trialsAmong]

theorem finish_counted (e : Exit) : Counted [] b.counters (w.finish e b).2.counters :=
  Counted.nil rfl rfl

theorem tally_counted : Counted [] b.counters (w.tally b).2.counters := by
  unfold tally
  split
  · exact Counted.nil rfl rfl
  · exact Counted.nil rfl rfl

/-- what a turn adds is what its trial adds -/
theorem step_counted (hfits : ∀ x ∈ trial? job w b, x.Fits) :
    Counted (trial? job w b).toList b.counters (step job w b).2.counters := by
  cases hn : nonce? job w b with
  | none =>
    rw [trial?, hn, step_of_no_nonce hn]
    split
    · exact Counted.nil rfl rfl
    · exact finish_counted _
  | some n =>
    have hx : trial? job w b = some ⟨job, b, n⟩ := by
      rw [trial?, hn]
      rfl
    have hc : Counted [⟨job, b, n⟩] b.counters (insertNonce job n b).2.counters :=
      (hfits _ hx).counted
    rw [hx, Option.toList_some, step_of_nonce hn]
    split
    · rename_i s b' e
      rw [e] at hc
      exact hc.append (finish_counted _)
    · rename_i b' e
      rw [e] at hc
      exact hc.append tally_counted

/-- the trials of a run of turns fit, and they are what is counted -/
theorem turns_counted {before : List UInt32}
    (h : IsForest job.arena.graph {n | n ∈ before} b.table ∧ ∀ n ∈ before, n < job.arena.easiness)
    (k : Nat) :
    (∀ x ∈ trials job w b k, x.Fits) ∧
      Counted (trials job w b k) b.counters (turns job alone w b k).2.counters := by
  induction k with
  | zero => exact ⟨fun x hx => (List.not_mem_nil hx).elim, Counted.nil rfl rfl⟩
  | succ k ih =>
    obtain ⟨hfits, hc⟩ := ih
    have hforest := turns_keep (w := w) (Relay.keeps_isForest job.arena) h k
    have hnext : ∀ x ∈ trial? job (turns job alone w b k).1 (turns job alone w b k).2, x.Fits := by
      intro x hx
      obtain ⟨n, hn, rfl⟩ := Option.map_eq_some_iff.1 hx
      exact ⟨⟨_, hforest⟩, lt_of_nonce? hn, (nonce?_eq_some.1 hn).2.1⟩
    rw [trials, turns_alone_step]
    refine ⟨fun x hx => ?_, hc.append (step_counted hnext)⟩
    rcases List.mem_append.1 hx with hx | hx
    · exact hfits x hx
    · exact hnext x (Option.mem_toList.1 hx)

end

end Worker

/-! ## relays -/

namespace Relay

def actTrials (s : Relay) : Act → List Trial
  | .run index => Worker.trials s.job (Worker.start index) s.board (s.job.arena.easiness.toNat + 1)
  | _ => []

def trials : Relay → List Act → List Trial
  | _, [] => []
  | s, what :: acts => s.actTrials what ++ (s.act what).trials acts

section
variable {a : Arena} {s : Relay}

theorem Holds.act_counted (h : Holds a s) (what : Act) :
    (∀ x ∈ s.actTrials what, x.Fits) ∧
      Counted (s.actTrials what) s.board.counters (s.act what).board.counters := by
  obtain ⟨rfl, hf, hlt⟩ := h
  cases what with
  | run index =>
    obtain ⟨hfits, hc⟩ := Worker.turns_counted (w := .start index) ⟨hf, hlt⟩
      (s.job.arena.easiness.toNat + 1)
    refine ⟨hfits, ?_⟩
    show Counted _ _ (Worker.run s.job index s.board).2.counters
    rw [Worker.run_eq]
    dsimp only
    split
    · exact hc
    · rw [← List.append_nil (actTrials _ _)]
      exact hc.append (Worker.finish_counted _)
  | stop => exact ⟨fun x hx => (List.not_mem_nil hx).elim, Counted.nil rfl rfl⟩
  | begin work headerNonce => exact ⟨fun x hx => (List.not_mem_nil hx).elim, Counted.nil rfl rfl⟩

theorem Holds.acts_counted (h : Holds a s) (acts : List Act) :
    (∀ x ∈ s.trials acts, x.Fits) ∧
      Counted (s.trials acts) s.board.counters (acts.foldl act s).board.counters := by
  induction acts generalizing s with
  | nil => exact ⟨fun x hx => (List.not_mem_nil hx).elim, Counted.nil rfl rfl⟩
  | cons what acts ih =>
    obtain ⟨hfits, hc⟩ := h.act_counted what
    obtain ⟨hfits', hc'⟩ := ih (h.acts [what])
    refine ⟨fun x hx => ?_, hc.append hc'⟩
    rcases List.mem_append.1 hx with hx | hx
    · exact hfits x hx
    · exact hfits' x hx

theorem map_nonce_trials (s : Relay) (acts : List Act) :
    s.tried ++ (s.trials acts).map Trial.nonce = (acts.foldl act s).tried := by
  induction acts generalizing s with
  | nil => exact List.append_nil _
  | cons what acts ih =>
    rw [List.foldl_cons, ← ih, trials, List.map_append, ← List.append_assoc]
    congr 1
    cases what with
    | run index =>
      rw [actTrials, Worker.map_nonce_trials]
      rfl
    | stop => exact List.append_nil _
    | begin work headerNonce => exact List.append_nil _

end

end Relay

/-- whatever has been done in a relay, and after any number of turns of one more worker: every cycle
of the wanted size that an edge has closed was recovered and accepted; as many solutions are counted
as such cycles were closed, and an error for each path too long and for each of these cycles that
missed the target -/
theorem closed_cycles_are_solutions (params : Params) (header : Bytes) (easiness : UInt32)
    (threads : UInt64) (work : Work) (headerNonce : UInt32) (counters : Counters)
    (acts : List Act) (index : UInt64) (k : Nat) :
    let s₀ := Relay.start ⟨work, headerNonce, Arena.keyed params header easiness threads⟩ counters
    let s := acts.foldl Relay.act s₀
    let b := (Worker.turns s.job alone (Worker.start index) s.board k).2
    let xs := s₀.trials acts ++ Worker.trials s.job (Worker.start index) s.board k
    xs.map Trial.nonce = s.tried ++ Worker.tried s.job alone (Worker.start index) s.board k ∧
    (∀ x ∈ xs, x.board.stopped = false ∧ ∀ us vs, x.plan = .ok (.close us vs) →
      Insertion.cycleLength us vs = x.job.arena.graph.params.proofSize →
        ∃ s, x.job.arena.graph.recover x.job.arena.easiness us vs = some s ∧
          x.job.arena.graph.verify x.job.arena.easiness s = true) ∧
    b.counters.solutions
      = counters.solutions + UInt64.ofNat (xs.countP (·.closed?.isSome)) ∧
    b.counters.errors
      = counters.errors + UInt64.ofNat (xs.countP (·.isTooLong) + xs.countP (·.misses)) := by
  intro s₀ s b xs
  have hs₀ := Relay.holds_start ⟨work, headerNonce, Arena.keyed params header easiness threads⟩
    counters
  have hs := hs₀.acts acts
  obtain ⟨hfits, hc⟩ := hs₀.acts_counted acts
  have hforest : IsForest s.job.arena.graph {n | n ∈ s.tried} s.board.table ∧
      ∀ n ∈ s.tried, n < s.job.arena.easiness := by
    rw [hs.arena_eq]
    exact ⟨hs.isForest, hs.lt_easiness⟩
  obtain ⟨hfits', hc'⟩ := Worker.turns_counted (w := .start index) hforest k
  have hall := hc.append hc'
  refine ⟨?_, fun x hx => ?_, hall.solutions, hall.errors⟩
  · rw [List.map_append, Worker.map_nonce_trials, ← Relay.map_nonce_trials s₀ acts]
    rfl
  · have hx : x.Fits := by
      rcases List.mem_append.1 hx with hx | hx
      · exact hfits x hx
      · exact hfits' x hx
    exact ⟨hx.running, fun us vs hp hlen => hx.recovers hp hlen⟩

/-- a relay on the square, for a target that nothing meets -/
def Relay.square : Relay :=
  .start ⟨Work.blank.withTarget default, 0, Arena.keyed .small [1, 47] 4 1⟩ .zero

theorem trials_square :
    let xs := Relay.square.trials [] ++ Worker.trials Relay.square.job (Worker.start 0)
      Relay.square.board 5
    xs.map Trial.nonce = [0, 1, 2, 3] ∧ xs.countP (·.closed?.isSome) = 1 ∧
      xs.countP (·.isTooLong) = 0 ∧ xs.countP (·.misses) = 1 := by
  decide +kernel

/-- a worker closes the square; it is counted as a solution, and as an error -/
theorem closed_cycles_of_square :
    let b := (Worker.turns Relay.square.job alone (Worker.start 0) Relay.square.board 5).2
    let xs := Relay.square.trials [] ++ Worker.trials Relay.square.job (Worker.start 0)
      Relay.square.board 5
    xs.map Trial.nonce = [0, 1, 2, 3] ∧ xs.countP (·.closed?.isSome) = 1 ∧
    (∀ x ∈ xs, ∀ us vs, x.plan = .ok (.close us vs) →
      Insertion.cycleLength us vs = x.job.arena.graph.params.proofSize →
        ∃ s, x.job.arena.graph.recover x.job.arena.easiness us vs = some s ∧
          x.job.arena.graph.verify x.job.arena.easiness s = true) ∧
    b.counters.solutions = 1 ∧ b.counters.errors = 1 := by
  have hall := closed_cycles_are_solutions .small [1, 47] 4 1 (Work.blank.withTarget default) 0
    .zero [] 0 5
  have htrials := trials_square
  rw [← Relay.square] at hall
  dsimp only [List.foldl_nil] at hall htrials ⊢
  obtain ⟨-, hrecovers, hsolutions, herrors⟩ := hall
  obtain ⟨hnonces, hclosed, hlong, hmisses⟩ := htrials
  rw [hclosed] at hsolutions
  rw [hlong, hmisses] at herrors
  exact ⟨hnonces, hclosed, fun x hx => (hrecovers x hx).2, hsolutions, herrors⟩

end CycleMiner
