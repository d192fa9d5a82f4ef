import CycleMiner.Proofs.Job.Attempt

/-!
# Turns one after another

A worker takes its turns while others change the board in between.  What others do is a function of
the number of the turn and of the board, and it may be anything.

* `Worker.turns`       a worker and the board after so many turns;
* `Worker.published`   what the worker has published in them;
* `Worker.tried`       the nonces it has tried in them;
* `Worker.run_eq`      a run is a number of turns with nobody in between.
-/

namespace CycleMiner

def alone : Nat → Board → Board := fun _ b => b

namespace Worker

section
variable (job : Job) (others : Nat → Board → Board) (w : Worker) (b : Board)

/-- a worker and the board after `k` turns; before turn `i` others do `others i` to the board -/
def turns : Nat → Worker × Board
  | 0 => (w, b)
  | k + 1 => (turns k).1.step job (others k (turns k).2)

def published : Nat → List Candidate
  | 0 => []
  | k + 1 =>
    let met := others k (turns job others w b k).2
    published k ++ ((turns job others w b k).1.step job met).2.found.drop met.found.length

def tried : Nat → List UInt32
  | 0 => []
  | k + 1 =>
    tried k ++ (nonce? job (turns job others w b k).1 (others k (turns job others w b k).2)).toList

end

section
variable {job : Job} {others : Nat → Board → Board} {w : Worker} {b : Board}

@[simp] theorem turns_zero : turns job others w b 0 = (w, b) := rfl

theorem turns_succ (k : Nat) : turns job others w b (k + 1)
    = (turns job others w b k).1.step job (others k (turns job others w b k).2) := rfl

/-- whoever publishes, only solutions that the job accepts are published -/
theorem accepts_of_mem_published {k : Nat} {c : Candidate} (h : c ∈ published job others w b k) :
    ∃ s, job.Accepts s ∧ c = job.candidate s := by
  induction k with
  | zero => cases h
  | succ k ih =>
    rcases List.mem_append.1 h with h | h
    · exact ih h
    · rcases step_found job (turns job others w b k).1
        (others k (turns job others w b k).2) with e | ⟨s, ha, e⟩
      · rw [e, List.drop_length] at h
        cases h
      · rw [e, List.drop_left] at h
        exact ⟨s, ha, List.mem_singleton.1 h⟩

/-! ## nobody in between -/

theorem turns_alone_step (k : Nat) : turns job alone w b (k + 1)
    = (turns job alone w b k).1.step job (turns job alone w b k).2 := rfl

theorem tried_alone_step (k : Nat) : tried job alone w b (k + 1) = tried job alone w b k ++
    (nonce? job (turns job alone w b k).1 (turns job alone w b k).2).toList := rfl

/-- a turn first and then the others, or the others first and then a turn -/
theorem turns_alone_succ (k : Nat) : turns job alone w b (k + 1)
    = turns job alone (w.step job b).1 (w.step job b).2 k := by
  induction k with
  | zero => rfl
  | succ k ih =>
    rw [turns_succ, ih, turns_succ]
    rfl

theorem step_of_exit (h : w.exit.isSome = true) : w.step job b = (w, b) := by
  rw [step, act, if_pos h]

theorem turns_of_exit (h : w.exit.isSome = true) (k : Nat) :
    turns job alone w b k = (w, b) := by
  induction k with
  | zero => rfl
  | succ k ih => rw [turns_alone_succ, step_of_exit h, ih]

theorem runFor_eq (n : Nat) (w : Worker) (b : Board) :
    runFor job n w b = if (turns job alone w b n).1.exit.isSome then turns job alone w b n
      else (turns job alone w b n).1.finish .exhausted (turns job alone w b n).2 := by
  induction n generalizing w b with
  | zero => rfl
  | succ n ih =>
    rw [runFor]
    by_cases h : w.exit.isSome = true
    · rw [if_pos h, turns_of_exit h, if_pos h]
    · rw [if_neg h, turns_alone_succ]
      exact ih _ _

/-- a run is a number of turns with nobody in between -/
theorem run_eq (job : Job) (index : UInt64) (b : Board) :
    run job index b =
      let s := turns job alone (start index) b (job.arena.easiness.toNat + 1)
      if s.1.exit.isSome then s else s.1.finish .exhausted s.2 :=
  runFor_eq _ _ _

theorem run_table (index : UInt64) :
    (run job index b).2.table
      = (turns job alone (start index) b (job.arena.easiness.toNat + 1)).2.table := by
  rw [run_eq]
  dsimp only
  split <;> rfl

end

end Worker

end CycleMiner
