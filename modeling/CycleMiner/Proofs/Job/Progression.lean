import CycleMiner.Proofs.Job.Turns
import Mathlib.Algebra.Group.Nat.Defs

/-!
# Which nonces a worker tries

A lone worker tries its index and then every nonce one stride further on, until it ends.

* `Worker.step_exit_of_nonce`    how a turn with a nonce ends;
* `Worker.act_cases`, `Worker.stepAt_cases`   a turn publishes a solution exactly if it ends the
  worker with it;
* `Worker.exit_isSome_turns`     a worker ends within as many turns as there are nonces, and one,
  also if its nonces wrap;
* `Worker.run_eq_turns`          so that many turns are its run;
* `Worker.tried_of_running`      what has been tried by a worker that goes on;
* `Worker.tried_of_turns`        and by one that may have ended;
* `Worker.mem_tried_of_exhausted`   one that has run out of nonces has tried all of its share.
-/

namespace CycleMiner

namespace Worker

/-- a turn with a nonce ends the worker with a solution, or it goes on one stride further -/
theorem step_exit_of_nonce {job : Job} {w : Worker} {b : Board} {n : UInt32}
    (h : nonce? job w b = some n) :
    (∃ s, (insertNonce job n b).1 = .solved s ∧ (step job w b).1.exit = some (.solved s)) ∨
    ((insertNonce job n b).1 = .nothing ∧ (step job w b).1.exit = none ∧
      (step job w b).1.next = w.next + job.arena.stride) := by
  obtain ⟨hexit, -⟩ := nonce?_eq_some.1 h
  rw [step_of_nonce h]
  obtain ⟨attempt, b', e⟩ : ∃ attempt b', insertNonce job n b = (attempt, b') := ⟨_, _, rfl⟩
  rw [e]
  cases attempt with
  | solved s => exact .inl ⟨s, rfl, rfl⟩
  | nothing =>
    refine .inr ⟨rfl, ?_, ?_⟩
    · rw [tally_exit]
      exact hexit
    · rw [tally_next]
      rfl

theorem step_exit_of_no_nonce {job : Job} {w : Worker} {b : Board} (h : nonce? job w b = none)
    (hexit : w.exit = none) :
    (b.stopped = true ∧ (step job w b).1.exit = some .stopped) ∨
    (b.stopped = false ∧ job.arena.easiness.toUInt64 ≤ w.next ∧
      (step job w b).1.exit = some .exhausted) := by
  rw [step_of_no_nonce h, hexit]
  cases hs : b.stopped with
  | true => exact .inl ⟨rfl, rfl⟩
  | false =>
    refine .inr ⟨rfl, ?_, rfl⟩
    by_contra hlt
    rw [nonce?, if_neg (by simp [hexit, hs, hlt])] at h
    cases h

/-- a turn ends the worker with a solution and publishes it, or it does neither -/
theorem act_cases (job : Job) (told : Bool) (w : Worker) (b : Board) :
    (∃ s, w.exit = none ∧ told = false ∧ b.stopped = false ∧
      (act job told w b).1.exit = some (.solved s) ∧ (act job told w b).2.stopped = true ∧
      (act job told w b).2.found = b.found ++ [job.candidate s]) ∨
    ((∀ s, (act job told w b).1.exit = some (.solved s) ↔ w.exit = some (.solved s)) ∧
      (act job told w b).2.stopped = b.stopped ∧ (act job told w b).2.found = b.found) := by
  unfold act
  by_cases hended : w.exit.isSome = true
  · rw [if_pos hended]
    exact .inr ⟨fun s => Iff.rfl, rfl, rfl⟩
  rw [if_neg hended]
  have hexit : w.exit = none := Option.not_isSome_iff_eq_none.1 hended
  cases told with
  | true => exact .inr ⟨fun s => by rw [hexit]; exact iff_of_false nofun nofun, rfl, rfl⟩
  | false =>
    rw [if_neg Bool.false_ne_true]
    by_cases hlast : job.arena.easiness.toUInt64 ≤ w.next
    · rw [if_pos hlast]
      exact .inr ⟨fun s => by rw [hexit]; exact iff_of_false nofun nofun, rfl, rfl⟩
    rw [if_neg hlast]
    dsimp only
    -- what comes of the nonce is what comes of the turn
    obtain ⟨attempt, b', e⟩ : ∃ attempt b', insertNonce job w.next.toUInt32 b = (attempt, b') :=
      ⟨_, _, rfl⟩
    have hcases := insertNonce_cases job w.next.toUInt32 b
    rw [e] at hcases ⊢
    rcases hcases with ⟨s, ⟨us, vs, -, -, hlow, -⟩, rfl, hs, hf⟩ | ⟨-, rfl, hs, hf⟩
    · exact .inl ⟨s, hexit, rfl, hlow, rfl, hs, hf⟩
    · refine .inr ⟨fun s => ?_, ?_, ?_⟩
      · rw [tally_exit]
      · rw [tally_stopped]
        exact hs
      · rw [tally_found]
        exact hf

theorem step_cases (job : Job) (w : Worker) (b : Board) :
    (∃ s, w.exit = none ∧ b.stopped = false ∧ (step job w b).1.exit = some (.solved s) ∧
      (step job w b).2.stopped = true ∧
      (step job w b).2.found = b.found ++ [job.candidate s]) ∨
    ((∀ s, (step job w b).1.exit = some (.solved s) ↔ w.exit = some (.solved s)) ∧
      (step job w b).2.stopped = b.stopped ∧ (step job w b).2.found = b.found) :=
  (act_cases job b.stopped w b).imp_left fun ⟨s, hexit, _, rest⟩ => ⟨s, hexit, rest⟩

/-- also a turn during which the worker may be told to stop -/
theorem stepAt_cases (job : Job) (t : Timing) (w : Worker) (b : Board) :
    (∃ s, w.exit = none ∧ (stepAt job t w b).1.exit = some (.solved s) ∧
      (stepAt job t w b).2.found = b.found ++ [job.candidate s]) ∨
    ((∀ s, (stepAt job t w b).1.exit = some (.solved s) ↔ w.exit = some (.solved s)) ∧
      (stepAt job t w b).2.found = b.found) := by
  have hact : ∀ told (b' : Board), b'.found = b.found →
      (∃ s, w.exit = none ∧ (act job told w b').1.exit = some (.solved s) ∧
        (act job told w b').2.found = b.found ++ [job.candidate s]) ∨
      ((∀ s, (act job told w b').1.exit = some (.solved s) ↔ w.exit = some (.solved s)) ∧
        (act job told w b').2.found = b.found) := by
    intro told b' hfound
    rw [← hfound]
    rcases act_cases job told w b' with ⟨s, hexit, -, -, hx, -, hf⟩ | ⟨hx, -, hf⟩
    · exact .inl ⟨s, hexit, hx, hf⟩
    · exact .inr ⟨hx, hf⟩
  cases t with
  | prompt => exact hact b.stopped b rfl
  | late => exact hact false b rfl
  | overdue => exact hact false { b with stopped := false } rfl

theorem stepAt_of_exit {job : Job} {w : Worker} (h : w.exit.isSome = true) (t : Timing)
    (b : Board) : (stepAt job t w b).1 = w ∧ (stepAt job t w b).2.found = b.found := by
  have hact : ∀ told b', act job told w b' = (w, b') := fun _ _ => if_pos h
  cases t <;> rw [stepAt, hact] <;> exact ⟨rfl, rfl⟩

/-! ## every run ends -/

/-- where a worker stands that has not ended after so many turns: a short stride has taken it up by
at least one nonce in each, and a long one round the words and down by at least one -/
def Underway (job : Job) (k : Nat) (next : UInt64) : Prop :=
  job.arena.stride.toNat < 2 ^ 63 ∧ k ≤ next.toNat ∨
    2 ^ 63 ≤ job.arena.stride.toNat ∧
      (job.arena.easiness.toNat ≤ next.toNat ∨ next.toNat + k < job.arena.easiness.toNat)

section
variable {job : Job} {b : Board}

theorem exit_of_step {w : Worker} (h : (step job w b).1.exit = none) : w.exit = none := by
  by_contra hne
  rw [step_of_exit (Option.isSome_iff_ne_none.2 hne)] at h
  exact hne h

/-- a turn after which a worker goes on has tried a nonce -/
theorem exists_nonce_of_step {w : Worker} (h : (step job w b).1.exit = none) :
    ∃ n, nonce? job w b = some n ∧ (step job w b).1.next = w.next + job.arena.stride := by
  cases hn : nonce? job w b with
  | none =>
    rcases step_exit_of_no_nonce hn (exit_of_step h) with ⟨-, hx⟩ | ⟨-, -, hx⟩ <;>
      · rw [hx] at h
        cases h
  | some n =>
    rcases step_exit_of_nonce hn with ⟨s, -, hx⟩ | ⟨-, -, hnext⟩
    · rw [hx] at h
      cases h
    · exact ⟨n, rfl, hnext⟩

theorem Underway.add {k : Nat} {next : UInt64} (hpos : 1 ≤ job.arena.stride.toNat)
    (h : Underway job k next) (hlt : next.toNat < job.arena.easiness.toNat) :
    Underway job (k + 1) (next + job.arena.stride) := by
  have hbound := job.arena.easiness.toNat_lt
  have hstride := job.arena.stride.toNat_lt
  rw [Underway, UInt64.toNat_add]
  rcases h with ⟨hshort, hk⟩ | ⟨hlong, hk⟩
  · rw [Nat.mod_eq_of_lt (by omega)]
    omega
  · refine .inr ⟨hlong, ?_⟩
    by_cases hround : next.toNat + job.arena.stride.toNat < 2 ^ 64
    · rw [Nat.mod_eq_of_lt hround]
      omega
    · rw [Nat.mod_eq_sub_mod (Nat.not_lt.1 hround), Nat.mod_eq_of_lt (by omega)]
      omega

theorem underway_of_running (hpos : 1 ≤ job.arena.stride.toNat) {others : Nat → Board → Board}
    {index : UInt64} {k : Nat} (h : (turns job others (start index) b k).1.exit = none) :
    Underway job k (turns job others (start index) b k).1.next := by
  induction k with
  | zero =>
    rw [Underway, turns_zero]
    omega
  | succ k ih =>
    rw [turns_succ] at h ⊢
    obtain ⟨n, hn, hnext⟩ := exists_nonce_of_step h
    obtain ⟨hexit, -, hlt, -⟩ := nonce?_eq_some.1 hn
    rw [hnext]
    exact (ih hexit).add hpos (UInt64.lt_iff_toNat_lt.1 hlt)

/-- a worker ends within as many turns as there are nonces, and one, whatever others do -/
theorem exit_isSome_turns (hpos : 1 ≤ job.arena.stride.toNat) (others : Nat → Board → Board)
    (index : UInt64) (b : Board) :
    (turns job others (start index) b (job.arena.easiness.toNat + 1)).1.exit.isSome = true := by
  by_contra hne
  have hnone : (turns job others (start index) b (job.arena.easiness.toNat + 1)).1.exit = none :=
    Option.not_isSome_iff_eq_none.1 hne
  rw [turns_succ] at hnone
  obtain ⟨n, hn, -⟩ := exists_nonce_of_step hnone
  obtain ⟨hexit, -, hlt, -⟩ := nonce?_eq_some.1 hn
  have hway := underway_of_running hpos hexit
  have := UInt64.lt_iff_toNat_lt.1 hlt
  rw [UInt32.toNat_toUInt64] at this
  rw [Underway] at hway
  omega

/-- so a run is no more and no less than these turns with nobody in between -/
theorem run_eq_turns (hpos : 1 ≤ job.arena.stride.toNat) (index : UInt64) (b : Board) :
    run job index b = turns job alone (start index) b (job.arena.easiness.toNat + 1) := by
  rw [run_eq]
  exact if_pos (exit_isSome_turns hpos alone index b)

end

/-! ## the share of a worker -/

section
variable {job : Job} {index : UInt64} {b : Board}

/-- one nonce more, one stride further on -/
theorem tried_of_nonce {k : Nat} {n : UInt32}
    (hnext : (turns job alone (start index) b k).1.next.toNat
      = index.toNat + k * job.arena.stride.toNat)
    (hall : tried job alone (start index) b k
      = (List.range k).map (fun j => UInt32.ofNat (index.toNat + j * job.arena.stride.toNat)))
    (hn : nonce? job (turns job alone (start index) b k).1 (turns job alone (start index) b k).2
      = some n) :
    index.toNat + k * job.arena.stride.toNat < job.arena.easiness.toNat ∧
      tried job alone (start index) b (k + 1)
        = (List.range (k + 1)).map
          (fun j => UInt32.ofNat (index.toNat + j * job.arena.stride.toNat)) := by
  obtain ⟨-, -, hlt, rfl⟩ := nonce?_eq_some.1 hn
  have hlast : (turns job alone (start index) b k).1.next.toUInt32
      = UInt32.ofNat (index.toNat + k * job.arena.stride.toNat) := by
    rw [← hnext, ← UInt32.toNat_inj, UInt64.toNat_toUInt32, UInt32.toNat_ofNat']
  refine ⟨?_, ?_⟩
  · rw [← hnext]
    exact UInt64.lt_iff_toNat_lt.1 hlt
  · rw [tried_alone_step, hn, hall, List.range_succ, List.map_append, hlast]
    rfl

section
variable (hstride : job.arena.stride.toNat + 2 ^ 32 < 2 ^ 64)
include hstride

/-- a worker that has not ended has tried its index and every nonce one stride further on -/
theorem tried_of_running {k : Nat} (h : (turns job alone (start index) b k).1.exit = none) :
    (turns job alone (start index) b k).1.next.toNat
        = index.toNat + k * job.arena.stride.toNat ∧
      tried job alone (start index) b k
        = (List.range k).map (fun j => UInt32.ofNat (index.toNat + j * job.arena.stride.toNat)) ∧
      ∀ j < k, index.toNat + j * job.arena.stride.toNat < job.arena.easiness.toNat := by
  induction k with
  | zero => exact ⟨by simp [start], rfl, fun j hj => absurd hj (Nat.not_lt_zero j)⟩
  | succ k ih =>
    rw [turns_alone_step] at h ⊢
    obtain ⟨hnext, hall, hbelow⟩ := ih (exit_of_step h)
    obtain ⟨n, hn, hon⟩ := exists_nonce_of_step h
    obtain ⟨hlt, hall'⟩ := tried_of_nonce hnext hall hn
    have hbound := job.arena.easiness.toNat_lt
    refine ⟨?_, hall', fun j hj => ?_⟩
    · rw [hon, UInt64.toNat_add, Nat.mod_eq_of_lt (by omega), hnext, Nat.succ_mul]
      omega
    · rcases Nat.lt_succ_iff_lt_or_eq.1 hj with hj | rfl
      · exact hbelow j hj
      · exact hlt

/-- a worker tries a part of its share, from the first nonce on, and all of it if it runs out of
nonces -/
theorem tried_of_turns (index : UInt64) (b : Board) (k : Nat) :
    ∃ m, tried job alone (start index) b k
        = (List.range m).map (fun j => UInt32.ofNat (index.toNat + j * job.arena.stride.toNat)) ∧
      (∀ j < m, index.toNat + j * job.arena.stride.toNat < job.arena.easiness.toNat) ∧
      ((turns job alone (start index) b k).1.exit = some .exhausted →
        job.arena.easiness.toNat ≤ index.toNat + m * job.arena.stride.toNat) := by
  induction k with
  | zero => exact ⟨0, rfl, fun j hj => absurd hj (Nat.not_lt_zero j), nofun⟩
  | succ k ih =>
    cases hexit : (turns job alone (start index) b k).1.exit with
    | some e =>
      have hdone := Option.isSome_of_eq_some hexit
      have hn : nonce? job (turns job alone (start index) b k).1
          (turns job alone (start index) b k).2 = none := if_pos (.inl hdone)
      rw [turns_alone_step, step_of_exit hdone, tried_alone_step, hn, Option.toList_none,
        List.append_nil]
      exact ih
    | none =>
      obtain ⟨hnext, hall, hbelow⟩ := tried_of_running hstride hexit
      rw [turns_alone_step]
      cases hn : nonce? job (turns job alone (start index) b k).1
        (turns job alone (start index) b k).2 with
      | none =>
        refine ⟨k, ?_, hbelow, fun h => ?_⟩
        · rw [tried_alone_step, hn, Option.toList_none, List.append_nil, hall]
        · rcases step_exit_of_no_nonce hn hexit with ⟨-, hx⟩ | ⟨-, hlast, -⟩
          · rw [hx] at h
            cases h
          · rw [← hnext]
            exact UInt64.le_iff_toNat_le.1 hlast
      | some n =>
        obtain ⟨hlt, hall'⟩ := tried_of_nonce hnext hall hn
        refine ⟨k + 1, hall', fun j hj => ?_, fun h => ?_⟩
        · rcases Nat.lt_succ_iff_lt_or_eq.1 hj with hj | rfl
          · exact hbelow j hj
          · exact hlt
        · rcases step_exit_of_nonce hn with ⟨s, -, hx⟩ | ⟨-, hx, -⟩ <;>
            · rw [hx] at h
              cases h

/-- a worker that has run out of nonces has tried all of its share -/
theorem mem_tried_of_exhausted {k : Nat}
    (h : (turns job alone (start index) b k).1.exit = some .exhausted) {n : UInt32}
    (hn : n < job.arena.easiness) (hshare : n.toNat % job.arena.stride.toNat = index.toNat) :
    n ∈ tried job alone (start index) b k := by
  obtain ⟨m, hall, -, hlast⟩ := tried_of_turns hstride index b k
  have hlast := hlast h
  have hlt := UInt32.lt_iff_toNat_lt.1 hn
  have hdiv := Nat.div_add_mod' n.toNat job.arena.stride.toNat
  have hj : n.toNat / job.arena.stride.toNat < m := by
    by_contra hge
    have := Nat.mul_le_mul_right job.arena.stride.toNat (Nat.not_lt.1 hge)
    omega
  rw [hall]
  refine List.mem_map.2 ⟨n.toNat / job.arena.stride.toNat, List.mem_range.2 hj, ?_⟩
  rw [Nat.add_comm, ← hshare, hdiv, UInt32.ofNat_toNat]

end

end

end Worker

end CycleMiner
