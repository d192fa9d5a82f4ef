import CycleMiner.Job.Worker
import CycleMiner.Proofs.Table.Plan

/-!
# What a turn of a worker does

Once for all, what one nonce and one turn of a worker can do to a board.

* `insertNonce_table`    a nonce changes the table as its edge does, and in no other way;
* `insertNonce_cases`    either a good solution is published and the job is stopped, or the flag and
  the published candidates stay as they are;
* `Worker.nonce?`        the nonce that a turn tries, if it tries one;
* `Worker.step_of_nonce`, `Worker.step_of_no_nonce`   a turn with a nonce, and one without.
-/

namespace CycleMiner

/-- a solution that a worker of the job publishes -/
structure Job.Accepts (job : Job) (s : Solution) : Prop where
  verified : job.arena.graph.verify job.arena.easiness s = true
  met : job.work.isMetBy s = true

def Job.candidate (job : Job) (s : Solution) : Candidate := ⟨job.work, job.headerNonce, s⟩

section
variable (job : Job) (nonce : UInt32) (b : Board)

/-! ## a closed cycle -/

theorem offer_table (us vs : List UInt32) : (offer job us vs b).2.table = b.table := by
  unfold offer
  split
  · rfl
  · dsimp only
    split
    · split <;> rfl
    · rfl

/-- a cycle that is offered is published, or nothing but the counts changes -/
theorem offer_cases (us vs : List UInt32) :
    (∃ s, job.arena.graph.recover job.arena.easiness us vs = some s ∧ job.Accepts s ∧
      (offer job us vs b).1 = .solved s ∧ (offer job us vs b).2.stopped = true ∧
      (offer job us vs b).2.found = b.found ++ [job.candidate s]) ∨
    ((∀ s, job.arena.graph.recover job.arena.easiness us vs = some s → ¬ job.Accepts s) ∧
      (offer job us vs b).1 = .nothing ∧ (offer job us vs b).2.stopped = b.stopped ∧
      (offer job us vs b).2.found = b.found) := by
  cases hr : job.arena.graph.recover job.arena.easiness us vs with
  | none =>
    right
    simp [offer, hr]
  | some s =>
    cases hv : job.arena.graph.verify job.arena.easiness s with
    | false =>
      right
      refine ⟨fun s' e h => ?_, by simp [offer, hr, hv, Board.count]⟩
      obtain rfl := Option.some.inj e
      exact absurd h.verified (by simp [hv])
    | true =>
      cases hm : job.work.isMetBy s with
      | false =>
        right
        refine ⟨fun s' e h => ?_, by simp [offer, hr, hv, hm, Board.count]⟩
        obtain rfl := Option.some.inj e
        exact absurd h.met (by simp [hm])
      | true =>
        left
        exact ⟨s, rfl, ⟨hv, hm⟩, by simp [offer, hr, hv, hm, Board.count, Job.candidate]⟩

theorem closeCycle_table (us vs : List UInt32) : (closeCycle job us vs b).2.table = b.table := by
  unfold closeCycle
  dsimp only
  split
  · rw [offer_table]
    rfl
  · rfl

/-! ## one nonce -/

def Arena.plan (a : Arena) (t : Table) (nonce : UInt32) : Except PathFault Insertion :=
  t.plan Table.maxPathLength (a.graph.address nonce .a) (a.graph.address nonce .b)

/-- a nonce changes the table as its edge does, and in no other way -/
theorem insertNonce_table :
    (insertNonce job nonce b).2.table
      = b.table.insert (job.arena.graph.address nonce .a) (job.arena.graph.address nonce .b) := by
  unfold insertNonce Table.insert
  dsimp only
  split
  · rename_i f e
    rw [e]
    rfl
  · rename_i e
    rw [e]
    rfl
  · rename_i us vs e
    rw [e]
    exact closeCycle_table job b us vs
  · rename_i path partner e
    rw [e]
    rfl

/-- the edge of a nonce closes a cycle of the wanted size while the job is not stopped, and the
cycle is good enough -/
def Job.Solves (job : Job) (b : Board) (nonce : UInt32) (s : Solution) : Prop :=
  ∃ us vs, job.arena.plan b.table nonce = .ok (.close us vs) ∧
    Insertion.cycleLength us vs = job.arena.graph.params.proofSize ∧ b.stopped = false ∧
    job.arena.graph.recover job.arena.easiness us vs = some s ∧ job.Accepts s

/-- a nonce publishes a good solution and stops the job, or leaves the flag and what has been
published alone -/
theorem insertNonce_cases :
    (∃ s, job.Solves b nonce s ∧ (insertNonce job nonce b).1 = .solved s ∧
      (insertNonce job nonce b).2.stopped = true ∧
      (insertNonce job nonce b).2.found = b.found ++ [job.candidate s]) ∨
    ((∀ s, ¬ job.Solves b nonce s) ∧ (insertNonce job nonce b).1 = .nothing ∧
      (insertNonce job nonce b).2.stopped = b.stopped ∧
      (insertNonce job nonce b).2.found = b.found) := by
  cases hp : job.arena.plan b.table nonce with
  | error f =>
    right
    refine ⟨fun s h => ?_, ?_⟩
    · obtain ⟨us, vs, h, -⟩ := h
      rw [hp] at h
      cases h
    rw [Arena.plan] at hp
    simp [insertNonce, hp, Board.count]
  | ok p =>
    cases p with
    | present =>
      right
      refine ⟨fun s h => ?_, ?_⟩
      · obtain ⟨us, vs, h, -⟩ := h
        rw [hp] at h
        cases h
      rw [Arena.plan] at hp
      simp [insertNonce, hp]
    | join path partner =>
      right
      refine ⟨fun s h => ?_, ?_⟩
      · obtain ⟨us, vs, h, -⟩ := h
        rw [hp] at h
        cases h
      rw [Arena.plan] at hp
      simp [insertNonce, hp]
    | close us vs =>
      have hclose : insertNonce job nonce b = closeCycle job us vs b := by
        rw [Arena.plan] at hp
        simp [insertNonce, hp]
      have inv : ∀ {s}, job.Solves b nonce s →
          Insertion.cycleLength us vs = job.arena.graph.params.proofSize ∧ b.stopped = false ∧
            job.arena.graph.recover job.arena.easiness us vs = some s ∧ job.Accepts s := by
        rintro s ⟨us', vs', h, rest⟩
        rw [hp] at h
        cases h
        exact rest
      rw [hclose]
      by_cases hc : Insertion.cycleLength us vs = job.arena.graph.params.proofSize ∧
          b.stopped = false
      · have hoffer : closeCycle job us vs b = offer job us vs (b.count .addCycle) := by
          unfold closeCycle
          exact if_pos (by simpa [Board.count] using hc)
        rw [hoffer]
        rcases offer_cases job (b.count .addCycle) us vs with ⟨s, hr, ha, rest⟩ | ⟨hno, rest⟩
        · exact .inl ⟨s, ⟨us, vs, hp, hc.1, hc.2, hr, ha⟩, rest⟩
        · refine .inr ⟨fun s h => ?_, rest⟩
          obtain ⟨-, -, hr, ha⟩ := inv h
          exact hno s hr ha
      · have hnothing : closeCycle job us vs b = (.nothing, b.count .addCycle) := by
          unfold closeCycle
          exact if_neg (by simpa [Board.count] using hc)
        rw [hnothing]
        refine .inr ⟨fun s h => ?_, rfl, rfl, rfl⟩
        obtain ⟨hl, hs, -, -⟩ := inv h
        exact hc ⟨hl, hs⟩

end

/-! ## one turn -/

namespace Worker

def nonce? (job : Job) (w : Worker) (b : Board) : Option UInt32 :=
  if w.exit.isSome ∨ b.stopped ∨ job.arena.easiness.toUInt64 ≤ w.next then none
  else some w.next.toUInt32

section
variable {job : Job} {w : Worker} {b : Board}

theorem nonce?_eq_some {n : UInt32} :
    nonce? job w b = some n ↔ w.exit = none ∧ b.stopped = false ∧
      w.next < job.arena.easiness.toUInt64 ∧ n = w.next.toUInt32 := by
  unfold nonce?
  constructor
  · intro e
    split at e
    · cases e
    · rename_i h
      rw [not_or, not_or] at h
      exact ⟨by simpa using h.1, by simpa using h.2.1, UInt64.not_le.1 h.2.2,
        (Option.some.inj e).symm⟩
  · rintro ⟨h1, h2, h3, rfl⟩
    rw [if_neg (by simp [h1, h2, UInt64.not_le.2 h3])]

theorem lt_of_nonce? {n : UInt32} (h : nonce? job w b = some n) : n < job.arena.easiness := by
  obtain ⟨-, -, hlt, rfl⟩ := nonce?_eq_some.1 h
  rw [UInt64.lt_iff_toNat_lt] at hlt
  rw [UInt32.lt_iff_toNat_lt, UInt64.toNat_toUInt32]
  exact Nat.lt_of_le_of_lt (Nat.mod_le _ _) hlt

def onward (job : Job) (w : Worker) : Worker := { w with next := w.next + job.arena.stride }

theorem step_of_nonce {n : UInt32} (h : nonce? job w b = some n) :
    step job w b = match insertNonce job n b with
      | (.solved s, b') => (onward job w).finish (.solved s) b'
      | (.nothing, b') => (onward job w).tally b' := by
  obtain ⟨h1, h2, h3, rfl⟩ := nonce?_eq_some.1 h
  unfold step act
  rw [if_neg (by simp [h1]), if_neg (by simp [h2]), if_neg (UInt64.not_le.2 h3)]
  rfl

/-- a turn without a nonce: a worker that has ended stays so, and one that has not ends now -/
theorem step_of_no_nonce (h : nonce? job w b = none) :
    step job w b = if w.exit.isSome then (w, b)
      else w.finish (if b.stopped then .stopped else .exhausted) b := by
  by_cases he : w.exit.isSome
  · rw [step, act, if_pos he, if_pos he]
  · rw [step, act, if_neg he, if_neg he]
    by_cases hs : b.stopped
    · rw [if_pos hs, if_pos hs]
    · have hlast : job.arena.easiness.toUInt64 ≤ w.next := by
        by_contra hlt
        rw [nonce?, if_neg (by simp [he, hs, hlt])] at h
        cases h
      rw [if_neg hs, if_neg hs, if_pos hlast]

@[simp] theorem finish_table (e : Exit) : (w.finish e b).2.table = b.table := rfl

@[simp] theorem finish_stopped (e : Exit) : (w.finish e b).2.stopped = b.stopped := rfl

@[simp] theorem finish_found (e : Exit) : (w.finish e b).2.found = b.found := rfl

@[simp] theorem finish_exit (e : Exit) : (w.finish e b).1.exit = some e := rfl

@[simp] theorem tally_table : (w.tally b).2.table = b.table := by
  unfold tally
  split <;> rfl

@[simp] theorem tally_stopped : (w.tally b).2.stopped = b.stopped := by
  unfold tally
  split <;> rfl

@[simp] theorem tally_found : (w.tally b).2.found = b.found := by
  unfold tally
  split <;> rfl

@[simp] theorem tally_exit : (w.tally b).1.exit = w.exit := by
  unfold tally
  split <;> rfl

@[simp] theorem tally_next : (w.tally b).1.next = w.next := by
  unfold tally
  split <;> rfl

theorem step_board_of_nonce {n : UInt32} (h : nonce? job w b = some n) :
    (step job w b).2.table = (insertNonce job n b).2.table ∧
      (step job w b).2.stopped = (insertNonce job n b).2.stopped ∧
      (step job w b).2.found = (insertNonce job n b).2.found := by
  rw [step_of_nonce h]
  split <;> rename_i e <;> simp [e]

theorem step_board_of_no_nonce (h : nonce? job w b = none) :
    (step job w b).2.table = b.table ∧ (step job w b).2.stopped = b.stopped ∧
      (step job w b).2.found = b.found := by
  rw [step_of_no_nonce h]
  split <;> simp

/-- a turn publishes at most one solution, and only one that the job accepts -/
theorem step_found (job : Job) (w : Worker) (b : Board) :
    (step job w b).2.found = b.found ∨
      ∃ s, job.Accepts s ∧ (step job w b).2.found = b.found ++ [job.candidate s] := by
  cases hn : nonce? job w b with
  | none => exact .inl (step_board_of_no_nonce hn).2.2
  | some n =>
    rw [(step_board_of_nonce hn).2.2]
    rcases insertNonce_cases job n b with ⟨s, ⟨_, _, _, _, _, _, ha⟩, -, -, hf⟩ | ⟨-, -, -, hf⟩
    · exact .inr ⟨s, ha, hf⟩
    · exact .inl hf

end

end Worker

end CycleMiner
