import CycleMiner.Proofs.Job.Progression

/-!
# A job publishes once

Workers of one job are run to their end one after the other, in any order and as often as one likes,
and the job may be told to stop in between.  The table may hold anything at the beginning.

* `Worker.run_cases`        a run ends with a solution, publishes it and raises the flag, or it does
  none of these;
* `Worker.run_of_stopped`   once the flag is raised a run changes nothing;
* `Job.Call`, `Job.call`    what is done with a job, and the board after it;
* `Job.Once`                what therefore holds before and after whatever is done;
* `job_publishes_once`      how every run of a job ends, and how often the job publishes.
-/

namespace CycleMiner

theorem Arena.one_le_stride (params : Params) (header : Bytes) (easiness : UInt32)
    (threads : UInt64) : 1 ≤ (Arena.keyed params header easiness threads).stride.toNat := by
  show 1 ≤ (if threads ≤ 1 then 1 else threads).toNat
  split
  case isTrue => decide
  case isFalse h =>
    have hlt : (1 : UInt64).toNat < threads.toNat := UInt64.lt_iff_toNat_lt.1 (UInt64.not_le.1 h)
    exact Nat.le_of_lt hlt

namespace Worker

theorem turns_cases (job : Job) (index : UInt64) (b : Board) (k : Nat) :
    (∃ s, (turns job alone (start index) b k).1.exit = some (.solved s) ∧ b.stopped = false ∧
      (turns job alone (start index) b k).2.stopped = true ∧
      (turns job alone (start index) b k).2.found = b.found ++ [job.candidate s]) ∨
    ((∀ s, (turns job alone (start index) b k).1.exit ≠ some (.solved s)) ∧
      (turns job alone (start index) b k).2.stopped = b.stopped ∧
      (turns job alone (start index) b k).2.found = b.found) := by
  induction k with
  | zero => exact .inr ⟨nofun, rfl, rfl⟩
  | succ k ih =>
    rw [turns_alone_step]
    generalize turns job alone (start index) b k = now at ih ⊢
    obtain ⟨w, b'⟩ := now
    dsimp only at ih ⊢
    rcases ih with ⟨s, hexit, rest⟩ | ⟨hno, hstop, hfound⟩
    · -- a worker that has ended does nothing more
      have hdone : w.exit.isSome = true := by rw [hexit, Option.isSome_some]
      rw [step_of_exit hdone]
      exact .inl ⟨s, hexit, rest⟩
    · rcases step_cases job w b' with ⟨s, -, hlow, hx, hs, hf⟩ | ⟨hx, hs, hf⟩
      · exact .inl ⟨s, hx, hstop.symm.trans hlow, hs, by rw [hf, hfound]⟩
      · exact .inr ⟨fun s h => hno s ((hx s).1 h), hs.trans hstop, hf.trans hfound⟩

theorem run_cases {job : Job} (hpos : 1 ≤ job.arena.stride.toNat) (index : UInt64) (b : Board) :
    (∃ s, (run job index b).1.exit = some (.solved s) ∧ b.stopped = false ∧
      (run job index b).2.stopped = true ∧
      (run job index b).2.found = b.found ++ [job.candidate s]) ∨
    (((run job index b).1.exit = some .exhausted ∨ (run job index b).1.exit = some .stopped) ∧
      (run job index b).2.stopped = b.stopped ∧ (run job index b).2.found = b.found) := by
  have hended := exit_isSome_turns hpos alone index b
  rw [run_eq_turns hpos]
  refine (turns_cases job index b _).imp_right fun ⟨hno, rest⟩ => ⟨?_, rest⟩
  obtain ⟨exit, hexit⟩ := Option.isSome_iff_exists.1 hended
  rw [hexit]
  cases exit with
  | solved s => exact absurd hexit (hno s)
  | stopped => exact .inr rfl
  | exhausted => exact .inl rfl

theorem run_of_stopped (job : Job) {b : Board} (h : b.stopped = true) (index : UInt64) :
    (run job index b).1.exit = some .stopped ∧ (run job index b).2 = b := by
  have hn : nonce? job (start index) b = none := by
    rw [nonce?, if_pos (.inr (.inl h))]
  have hstep : step job (start index) b = (start index).finish .stopped b := by
    rw [step_of_no_nonce hn, h]
    rfl
  have hrun : run job index b = (start index).finish .stopped b := by
    rw [run_eq]
    dsimp only
    rw [turns_alone_succ, hstep, turns_of_exit rfl]
    rfl
  have hcounts : b.counters.addEdges 0 = b.counters := by
    rw [Counters.addEdges, UInt64.add_zero]
  rw [hrun]
  refine ⟨rfl, ?_⟩
  show { b with counters := b.counters.addEdges 0 } = b
  rw [hcounts]

end Worker

namespace Job

inductive Call where
  /-- a worker is run to its end -/
  | run (index : UInt64)
  /-- the job is told to stop -/
  | stop

def call (job : Job) (b : Board) : Call → Board
  | .run index => (Worker.run job index b).2
  | .stop => b.stop

/-- nothing has been published while the flag is lowered, and never more than one block -/
structure Once (b : Board) : Prop where
  lowered : b.stopped = false → b.found = []
  le_one : b.found.length ≤ 1

section
variable {job : Job} {b : Board}

theorem Once.call (hpos : 1 ≤ job.arena.stride.toNat) (h : Once b) (what : Call) :
    Once (job.call b what) := by
  cases what with
  | stop => exact ⟨nofun, h.le_one⟩
  | run index =>
    show Once (Worker.run job index b).2
    rcases Worker.run_cases hpos index b with ⟨s, -, hlow, hstop, hfound⟩ | ⟨-, hstop, hfound⟩
    · have hone : (Worker.run job index b).2.found = [job.candidate s] := by
        rw [hfound, h.lowered hlow, List.nil_append]
      refine ⟨fun hlow' => ?_, ?_⟩
      · rw [hstop] at hlow'
        cases hlow'
      · exact Nat.le_of_eq (congrArg List.length hone)
    · refine ⟨fun hlow => ?_, ?_⟩
      · rw [hfound]
        exact h.lowered (hstop.symm.trans hlow)
      · rw [hfound]
        exact h.le_one

theorem Once.calls (hpos : 1 ≤ job.arena.stride.toNat) (h : Once b) (calls : List Call) :
    Once (calls.foldl job.call b) := by
  induction calls generalizing b with
  | nil => exact h
  | cons what calls ih => exact ih (h.call hpos what)

/-- once the flag is raised, whatever is done changes nothing -/
theorem calls_of_stopped (h : b.stopped = true) (calls : List Call) :
    calls.foldl job.call b = b := by
  induction calls with
  | nil => rfl
  | cons what calls ih =>
    have hsame : job.call b what = b := by
      cases what with
      | run index => exact (Worker.run_of_stopped job h index).2
      | stop =>
        show { b with stopped := true } = b
        rw [← h]
    rw [List.foldl_cons, hsame, ih]

end

end Job

/-- whatever has been done with a job, on whatever table: the next run ends with a solution exactly
if it finds the flag lowered, raises it, and publishes that solution and nothing else; in the two
other ways to end it publishes nothing and leaves the flag; once the flag is raised every run is
stopped and nothing changes any more; and no more than one block has been published -/
theorem job_publishes_once (params : Params) (header : Bytes) (easiness : UInt32)
    (threads : UInt64) (work : Work) (headerNonce : UInt32) (table : Table) (counters : Counters)
    (calls : List Job.Call) (index : UInt64) :
    let job : Job := ⟨work, headerNonce, Arena.keyed params header easiness threads⟩
    let b := calls.foldl job.call ⟨table, false, counters, []⟩
    let ended := Worker.run job index b
    (∀ s, ended.1.exit = some (.solved s) ↔ b.stopped = false ∧ ended.2.stopped = true ∧
      ended.2.found = b.found ++ [⟨work, headerNonce, s⟩]) ∧
    (ended.1.exit = some .exhausted ∨ ended.1.exit = some .stopped →
      ended.2.stopped = b.stopped ∧ ended.2.found = b.found) ∧
    ((∃ s, ended.1.exit = some (.solved s)) ∨ ended.1.exit = some .exhausted ∨
      ended.1.exit = some .stopped) ∧
    (b.stopped = true →
      ended.1.exit = some .stopped ∧ ∀ later : List Job.Call, later.foldl job.call b = b) ∧
    b.found.length ≤ 1 := by
  intro job b ended
  have hpos : 1 ≤ job.arena.stride.toNat := Arena.one_le_stride params header easiness threads
  have hfresh : Job.Once ⟨table, false, counters, []⟩ := ⟨fun _ => rfl, Nat.zero_le 1⟩
  have honce : Job.Once b := hfresh.calls hpos calls
  have hfrozen : b.stopped = true →
      ended.1.exit = some .stopped ∧ ∀ later : List Job.Call, later.foldl job.call b = b := fun h =>
    ⟨(Worker.run_of_stopped job h index).1, Job.calls_of_stopped h⟩
  have hcases := Worker.run_cases hpos index b
  change (∃ s, ended.1.exit = some (.solved s) ∧ b.stopped = false ∧ ended.2.stopped = true ∧
    ended.2.found = b.found ++ [job.candidate s]) ∨ ((ended.1.exit = some .exhausted ∨
    ended.1.exit = some .stopped) ∧ ended.2.stopped = b.stopped ∧ ended.2.found = b.found) at hcases
  rcases hcases with ⟨s, hexit, hlow, hstop, hfound⟩ | ⟨hexit, hstop, hfound⟩
  · refine ⟨fun s' => ⟨fun h => ?_, fun ⟨_, _, h⟩ => ?_⟩, fun h => ?_, .inl ⟨s, hexit⟩, hfrozen,
      honce.le_one⟩
    · obtain rfl : s = s' := Exit.solved.inj (Option.some.inj (hexit.symm.trans h))
      exact ⟨hlow, hstop, hfound⟩
    · have hsame := List.append_cancel_left (hfound.symm.trans h)
      obtain rfl : s = s' := congrArg Candidate.solution (List.singleton_inj.1 hsame)
      exact hexit
    · rw [hexit] at h
      rcases h with h | h <;> cases h
  · refine ⟨fun s' => ⟨fun h => ?_, fun ⟨_, _, h⟩ => ?_⟩, fun _ => ⟨hstop, hfound⟩, .inr hexit,
      hfrozen, honce.le_one⟩
    · rw [h] at hexit
      rcases hexit with hexit | hexit <;> cases hexit
    · rw [hfound] at h
      have hlen := congrArg List.length h
      rw [List.length_append, List.length_singleton] at hlen
      omega

end CycleMiner
