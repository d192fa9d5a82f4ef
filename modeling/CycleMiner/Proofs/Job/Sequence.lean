import CycleMiner.Proofs.Job.Progression

/-!
# Nonces from a sequence

The nonces of a worker are a progression that ends at the easiness.  Here a worker is given its
nonces one by one, from any sequence, so that one of them can be left out.

* `Worker.take`            one turn of a worker that is given its nonce;
* `Worker.follow`          so many turns, each with the next nonce of a sequence;
* `Worker.progression`     the nonces of the worker of an index;
* `turns_eq_follow`        the turns of a worker follow its progression;
* `leaveOut`, `inOne`      a sequence without one place, and what others do if a turn is left out;
* `Board.bare`             a board without its counts of edges and errors;
* `Blind`                  others who do not look at these counts;
* `Worker.take_alike`      what a turn does to the rest does not depend on them;
* `Worker.follow_leaveOut` so a turn that changes nothing else can be left out.
-/

namespace CycleMiner

/-- a sequence without its place `k` -/
def leaveOut {α : Type} (k : Nat) (xs : Nat → α) (i : Nat) : α := if i < k then xs i else xs (i + 1)

/-- what others do before each turn if turn `k` is left out: what they did before it and after it
they now do in one -/
def inOne (k : Nat) (others : Nat → Board → Board) (i : Nat) (b : Board) : Board :=
  if i = k then others (k + 1) (others k b) else leaveOut k others i b

namespace Worker

/-- one turn of a worker that is given its nonce, or has none left -/
def take (job : Job) (nonce : Option UInt32) (w : Worker) (b : Board) : Worker × Board :=
  if w.exit.isSome then (w, b)
  else if b.stopped then w.finish .stopped b
  else
    match nonce with
    | none => w.finish .exhausted b
    | some n =>
      match insertNonce job n b with
      | (.solved s, b) => (onward job w).finish (.solved s) b
      | (.nothing, b) => (onward job w).tally b

/-- a worker and the board after `k` turns; before turn `i` others do `others i` to the board, and
then the worker is given the nonce at place `i` -/
def follow (job : Job) (others : Nat → Board → Board) (nonces : Nat → Option UInt32) (w : Worker)
    (b : Board) : Nat → Worker × Board
  | 0 => (w, b)
  | k + 1 =>
    take job (nonces k) (follow job others nonces w b k).1
      (others k (follow job others nonces w b k).2)

/-- the nonces of the worker of an index, as long as they are below the easiness -/
def progression (job : Job) (index : UInt64) (i : Nat) : Option UInt32 :=
  let next := index + UInt64.ofNat i * job.arena.stride
  if job.arena.easiness.toUInt64 ≤ next then none else some next.toUInt32

/-! ## the progression of a worker -/

section
variable {job : Job} {others : Nat → Board → Board} {nonces : Nat → Option UInt32} {w : Worker}
  {b : Board}

theorem follow_succ (k : Nat) : follow job others nonces w b (k + 1)
    = take job (nonces k) (follow job others nonces w b k).1
      (others k (follow job others nonces w b k).2) := rfl

theorem take_of_exit (h : w.exit.isSome = true) (nonce : Option UInt32) :
    take job nonce w b = (w, b) := if_pos h

theorem take_of_stopped (hexit : w.exit = none) (h : b.stopped = true) (nonce : Option UInt32) :
    take job nonce w b = w.finish .stopped b := by
  unfold take
  rw [if_neg (by rw [hexit]; decide), if_pos h]

theorem take_none (hexit : w.exit = none) (h : b.stopped = false) :
    take job none w b = w.finish .exhausted b := by
  unfold take
  rw [if_neg (by rw [hexit]; decide), if_neg (by rw [h]; decide)]

theorem take_some (hexit : w.exit = none) (h : b.stopped = false) (n : UInt32) :
    take job (some n) w b = match insertNonce job n b with
      | (.solved s, b) => (onward job w).finish (.solved s) b
      | (.nothing, b) => (onward job w).tally b := by
  unfold take
  rw [if_neg (by rw [hexit]; decide), if_neg (by rw [h]; decide)]

theorem step_eq_take (w : Worker) (b : Board) : step job w b = take job
    (if job.arena.easiness.toUInt64 ≤ w.next then none else some w.next.toUInt32) w b := by
  unfold step act take
  split
  · rfl
  · split
    · rfl
    · split <;> rfl

/-- a worker that goes on has come as many strides further as it took turns -/
theorem next_turns {index : UInt64} {k : Nat}
    (h : (turns job others (start index) b k).1.exit = none) :
    (turns job others (start index) b k).1.next = index + UInt64.ofNat k * job.arena.stride := by
  induction k with
  | zero => simp [start]
  | succ k ih =>
    rw [turns_succ] at h ⊢
    obtain ⟨n, hn, hnext⟩ := exists_nonce_of_step h
    obtain ⟨hexit, -⟩ := nonce?_eq_some.1 hn
    rw [hnext, ih hexit, UInt64.ofNat_add, UInt64.add_mul, UInt64.add_assoc]
    simp

theorem turns_eq_follow (index : UInt64) (k : Nat) : turns job others (start index) b k
    = follow job others (progression job index) (start index) b k := by
  induction k with
  | zero => rfl
  | succ k ih =>
    rw [turns_succ, follow_succ, ← ih]
    cases hexit : (turns job others (start index) b k).1.exit with
    | some e =>
      have hended := Option.isSome_of_eq_some hexit
      rw [step_of_exit hended, take_of_exit hended]
    | none =>
      rw [step_eq_take, next_turns hexit]
      rfl

end

end Worker

/-! ## counts that nobody looks at -/

def Board.bare (b : Board) : Board := b.count fun c => { c with edges := 0, errors := 0 }

theorem Board.eq_of_bare {b b' : Board} (h : b.bare = b'.bare) :
    b.table = b'.table ∧ b.stopped = b'.stopped ∧ b.found = b'.found ∧
      b.counters.cycles = b'.counters.cycles ∧ b.counters.solutions = b'.counters.solutions := by
  obtain ⟨htable, hstopped, hcounters, hfound⟩ := Board.mk.inj h
  obtain ⟨-, hcycles, hsolutions, -⟩ := Counters.mk.inj hcounters
  exact ⟨htable, hstopped, hfound, hcycles, hsolutions⟩

/-- what others do to the rest of a board does not depend on these counts -/
def Blind (others : Nat → Board → Board) : Prop :=
  ∀ i b b', b.bare = b'.bare → (others i b).bare = (others i b').bare

theorem blind_alone : Blind alone := fun _ _ _ h => h

/-- what has come of something, and a board, are the same but for these counts -/
def Alike {α : Type} (x y : α × Board) : Prop := x.1 = y.1 ∧ x.2.bare = y.2.bare

section
variable (job : Job) (b : Board)

theorem offer_bare (us vs : List UInt32) : Alike (offer job us vs b.bare) (offer job us vs b) := by
  unfold offer
  split
  · exact ⟨rfl, rfl⟩
  · dsimp only
    split
    · split <;> exact ⟨rfl, rfl⟩
    · exact ⟨rfl, rfl⟩

theorem closeCycle_bare (us vs : List UInt32) :
    Alike (closeCycle job us vs b.bare) (closeCycle job us vs b) := by
  by_cases h : Insertion.cycleLength us vs = job.arena.graph.params.proofSize ∧ !b.stopped
  · have hbare : closeCycle job us vs b.bare = offer job us vs (b.count .addCycle).bare := if_pos h
    have hfull : closeCycle job us vs b = offer job us vs (b.count .addCycle) := if_pos h
    rw [hbare, hfull]
    exact offer_bare job _ us vs
  · have hbare : closeCycle job us vs b.bare = (.nothing, (b.count .addCycle).bare) := if_neg h
    have hfull : closeCycle job us vs b = (.nothing, b.count .addCycle) := if_neg h
    rw [hbare, hfull]
    exact ⟨rfl, rfl⟩

theorem insertNonce_bare (n : UInt32) : Alike (insertNonce job n b.bare) (insertNonce job n b) := by
  have htable : b.bare.table = b.table := rfl
  unfold insertNonce
  dsimp only
  rw [htable]
  split
  · exact ⟨rfl, rfl⟩
  · exact ⟨rfl, rfl⟩
  · exact closeCycle_bare job b _ _
  · exact ⟨rfl, rfl⟩

theorem insertNonce_alike {b b' : Board} (h : b.bare = b'.bare) (n : UInt32) :
    Alike (insertNonce job n b) (insertNonce job n b') := by
  obtain ⟨e, f⟩ := insertNonce_bare job b n
  obtain ⟨e', f'⟩ := insertNonce_bare job b' n
  rw [h] at e f
  exact ⟨e.symm.trans e', f.symm.trans f'⟩

end

namespace Worker

section
variable {job : Job} {w w' : Worker} {b b' : Board}

theorem bare_tally (w : Worker) (b : Board) : (w.tally b).2.bare = b.bare := by
  unfold tally
  split <;> rfl

theorem take_alike (hexit : w.exit = w'.exit) (h : b.bare = b'.bare) (nonce : Option UInt32) :
    (take job nonce w b).1.exit = (take job nonce w' b').1.exit ∧
      (take job nonce w b).2.bare = (take job nonce w' b').2.bare := by
  obtain ⟨-, hstop, -⟩ := Board.eq_of_bare h
  cases he : w'.exit with
  | some e =>
    rw [he] at hexit
    rw [take_of_exit (Option.isSome_of_eq_some hexit), take_of_exit (Option.isSome_of_eq_some he)]
    exact ⟨hexit.trans he.symm, h⟩
  | none =>
    -- both look at the flag first, and then at the nonce
    rw [he] at hexit
    cases hs : b'.stopped with
    | true =>
      rw [take_of_stopped hexit (hstop.trans hs), take_of_stopped he hs]
      exact ⟨rfl, h⟩
    | false =>
      cases nonce with
      | none =>
        rw [take_none hexit (hstop.trans hs), take_none he hs]
        exact ⟨rfl, h⟩
      | some n =>
        rw [take_some hexit (hstop.trans hs), take_some he hs]
        obtain ⟨hattempt, hboard⟩ := insertNonce_alike job h n
        generalize insertNonce job n b = x at hattempt hboard ⊢
        generalize insertNonce job n b' = y at hattempt hboard ⊢
        obtain ⟨attempt, board⟩ := x
        obtain ⟨attempt', board'⟩ := y
        obtain rfl : attempt = attempt' := hattempt
        cases attempt with
        | solved s => exact ⟨rfl, hboard⟩
        | nothing =>
          dsimp only
          rw [tally_exit, tally_exit, bare_tally, bare_tally]
          exact ⟨hexit.trans he.symm, hboard⟩

end

/-! ## a turn left out -/

section
variable {job : Job} {others : Nat → Board → Board} {nonces : Nat → Option UInt32} {w : Worker}
  {b : Board}

theorem follow_congr {others' : Nat → Board → Board} {nonces' : Nat → Option UInt32} {k : Nat}
    (ho : ∀ i < k, others i = others' i) (hn : ∀ i < k, nonces i = nonces' i) :
    follow job others nonces w b k = follow job others' nonces' w b k := by
  induction k with
  | zero => rfl
  | succ k ih =>
    rw [follow_succ, follow_succ, ho k (Nat.lt_succ_self k), hn k (Nat.lt_succ_self k),
      ih (fun i hi => ho i (Nat.lt_succ_of_lt hi)) fun i hi => hn i (Nat.lt_succ_of_lt hi)]

/-- a turn that changes nothing but these counts can be left out -/
theorem follow_leaveOut (hothers : Blind others) {k : Nat}
    (hexit : (follow job others nonces w b (k + 1)).1.exit
      = (follow job others nonces w b k).1.exit)
    (hboard : (follow job others nonces w b (k + 1)).2.bare
      = (others k (follow job others nonces w b k).2).bare) (m : Nat) :
    (follow job others nonces w b (k + 2 + m)).1.exit
        = (follow job (inOne k others) (leaveOut k nonces) w b (k + 1 + m)).1.exit ∧
      (follow job others nonces w b (k + 2 + m)).2.bare
        = (follow job (inOne k others) (leaveOut k nonces) w b (k + 1 + m)).2.bare := by
  -- behind the turn left out both boards and exits are alike, and then the same turns follow
  induction m with
  | zero =>
    have hbefore : follow job (inOne k others) (leaveOut k nonces) w b k
        = follow job others nonces w b k := by
      refine follow_congr (fun i hi => funext fun b => ?_) fun i hi => if_pos hi
      rw [inOne, if_neg (Nat.ne_of_lt hi), leaveOut, if_pos hi]
    have hless : follow job (inOne k others) (leaveOut k nonces) w b (k + 1)
        = take job (nonces (k + 1)) (follow job others nonces w b k).1
          (others (k + 1) (others k (follow job others nonces w b k).2)) := by
      rw [follow_succ, hbefore, inOne, if_pos rfl, leaveOut, if_neg (Nat.lt_irrefl k)]
    rw [Nat.add_zero, Nat.add_zero, hless]
    exact take_alike hexit (hothers (k + 1) _ _ hboard) _
  | succ m ih =>
    obtain ⟨he, hb⟩ := ih
    have hlater : ¬ k + 1 + m < k := by omega
    have hplace : k + 1 + m + 1 = k + 2 + m := by omega
    have hnonce : leaveOut k nonces (k + 1 + m) = nonces (k + 2 + m) := by
      rw [leaveOut, if_neg hlater, hplace]
    rw [← Nat.add_assoc, ← Nat.add_assoc, follow_succ, follow_succ (k + 1 + m), hnonce, inOne,
      if_neg (by omega), leaveOut, if_neg hlater, hplace]
    exact take_alike he (hothers (k + 2 + m) _ _ hb) _

end

end Worker

end CycleMiner
