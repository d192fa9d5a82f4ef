import CycleMiner.Node.Submitter
import CycleMiner.Proofs.Job.Completeness
import CycleMiner.Proofs.Node.Results
import CycleMiner.Proofs.Scheduler.Tally
import Mathlib.Data.List.Induction

/-!
# One verdict for each block

Every block that is put into the queue is handed in once, in the order in which the blocks came, and
has one verdict.  A block is accepted exactly if it can be written out and the reply to its request
has `null` for its result.  No verdict ends the work.

* `Delivery.Accepts`, `verdictOf_accepted_iff`   what becomes of a request accepts its block;
* `AcceptedAfter`, `Judged`, `submitAll_judged`   the verdicts for blocks, one after the other;
* `Submitter.sent`, `Submitter.handedIn`, `Submitter.pending`   the blocks that come, that are handed
  in, and that wait;
* `Submitter.Effect`      what a move can do; `Submitter.effect_step` says that it does nothing else;
* `Submitter.pending_run`, `Submitter.done_run`   no block is lost, doubled or overtaken, and what is
  done is what has come of those handed in;
* `Submitter.rank`, `Submitter.run_advance`   what is pending is handed in, and then the work ends if
  nobody is left;
* `one_verdict_for_each`   what therefore becomes of all blocks.
-/

namespace CycleMiner

/-! ## one block -/

/-- a node accepts a block by what becomes of the request: by a reply under a status that lets its
text count, with no error and with `null` for its result -/
def Delivery.Accepts (d : Delivery) : Prop := ∃ status text members, d = .reply status text ∧
  status ≠ 401 ∧ status ≠ 403 ∧ text.bind Json.parse? = some (.object members) ∧
  ¬ (Json.object members).ReportsError ∧ (Json.object members).member? "result" = some .null

def Candidate.isWritable (c : Candidate) : Bool := c.hex.isOk

section
variable {d : Delivery}

theorem verdictOf_accepted_iff : verdictOf d = .ok .accepted ↔ d.Accepts := by
  have hresult : verdictOf d = .ok .accepted ↔ resultOf "submitblock" d = .ok .null := by
    unfold verdictOf
    split
    · rename_i f h
      rw [h]
      exact iff_of_false nofun nofun
    · rename_i h
      rw [h]
      exact iff_of_true rfl rfl
    · rename_i h
      rw [h]
      exact iff_of_false nofun nofun
    · rename_i other hnull hstring h
      rw [h]
      exact iff_of_false nofun fun e => hnull (Except.ok.inj e)
  rw [hresult, resultOf_eq_ok_iff]
  constructor
  · rintro ⟨v, hv, hreports, hmember⟩
    obtain ⟨status, text, rfl, h401, h403, htext⟩ := json?_eq_some_iff.1 hv
    obtain ⟨members, rfl⟩ := Json.eq_object_of_member? hmember
    exact ⟨status, text, members, rfl, h401, h403, htext, hreports, hmember⟩
  · rintro ⟨status, text, members, rfl, h401, h403, htext, hreports, hmember⟩
    exact ⟨_, json?_eq_some_iff.2 ⟨status, text, rfl, h401, h403, htext⟩, hreports, hmember⟩

theorem Event.ofVerdict_cases (r : Except Fault Verdict) :
    r = .ok .accepted ∧ ofVerdict r = .blockAccepted ∨
      r ≠ .ok .accepted ∧ ofVerdict r = .blockRejected := by
  rcases r with f | (_ | reason)
  · exact .inr ⟨nofun, rfl⟩
  · exact .inl ⟨rfl, rfl⟩
  · exact .inr ⟨nofun, rfl⟩

end

/-! ## blocks one after the other -/

section
variable {node : Nat → Delivery} {client : Client} {cs : List Candidate} {c : Candidate}

/-- the node accepts a block that is handed in after others -/
def AcceptedAfter (node : Nat → Delivery) (before : List Candidate) (c : Candidate) : Prop :=
  ∃ block, c.hex = .ok block ∧ (node (before.countP (·.isWritable))).Accepts

/-- what has come of handing blocks in: one verdict for each, and one request for each that can be
written out -/
structure Judged (node : Nat → Delivery) (cs : List Candidate) (s : Submission) : Prop where
  length : s.events.length = cs.length
  verdict : ∀ before c after, cs = before ++ c :: after →
    AcceptedAfter node before c ∧ s.events[before.length]? = some .blockAccepted ∨
      ¬ AcceptedAfter node before c ∧ s.events[before.length]? = some .blockRejected
  requests : s.requests.length = cs.countP (·.isWritable)
  parameters : s.requests.map (·.parameter) = (cs.filterMap (·.hex.toOption)).map .string

theorem Judged.nil (client : Client) : Judged node [] ⟨client, [], []⟩ where
  length := rfl
  verdict _ _ _ h :=
    absurd h.symm (List.append_ne_nil_of_right_ne_nil _ (List.cons_ne_nil _ _))
  requests := rfl
  parameters := rfl

/-- one more block gets one more verdict -/
theorem submit_events {s : Submission} (h : Judged node cs s) (c : Candidate) :
    ∃ e, (submit node s c).events = s.events ++ [e] ∧
      (AcceptedAfter node cs c ∧ e = .blockAccepted ∨
        ¬ AcceptedAfter node cs c ∧ e = .blockRejected) := by
  unfold submit
  cases hex : c.hex with
  | error f =>
    refine ⟨.blockRejected, rfl, .inr ⟨?_, rfl⟩⟩
    rintro ⟨block, hblock, -⟩
    rw [hex] at hblock
    cases hblock
  | ok block =>
    refine ⟨_, rfl, ?_⟩
    have hiff : AcceptedAfter node cs c ↔ verdictOf (node s.requests.length) = .ok .accepted := by
      rw [verdictOf_accepted_iff, h.requests]
      constructor
      · rintro ⟨-, -, haccepts⟩
        exact haccepts
      · exact fun haccepts => ⟨block, hex, haccepts⟩
    rw [hiff]
    exact Event.ofVerdict_cases _

theorem Judged.submit {s : Submission} (h : Judged node cs s) (c : Candidate) :
    Judged node (cs ++ [c]) (submit node s c) := by
  obtain ⟨e, hevents, he⟩ := submit_events h c
  refine ⟨?_, fun before c' after hsplit => ?_, ?_, ?_⟩
  · rw [hevents, List.length_append, List.length_append, h.length]
    rfl
  · rw [hevents]
    rcases List.eq_nil_or_concat after with rfl | ⟨after, last, rfl⟩
    · obtain ⟨rfl, hc⟩ := List.append_inj' hsplit rfl
      obtain rfl := List.singleton_inj.1 hc
      rw [← h.length, List.getElem?_concat_length, Option.some.injEq, Option.some.injEq]
      exact he
    · rw [List.concat_eq_append, ← List.cons_append, ← List.append_assoc] at hsplit
      obtain ⟨rfl, -⟩ := List.append_inj' hsplit rfl
      have hlt : before.length < s.events.length := by
        rw [h.length, List.length_append, List.length_cons]
        omega
      rw [List.getElem?_append_left hlt]
      exact h.verdict before c' after rfl
  · rw [List.countP_append, ← h.requests]
    unfold CycleMiner.submit
    cases hex : c.hex with
    | error f => simp [Candidate.isWritable, hex, Except.isOk, Except.toBool]
    | ok block => simp [Candidate.isWritable, hex, Except.isOk, Except.toBool]
  · rw [List.filterMap_append, List.map_append, ← h.parameters]
    unfold CycleMiner.submit
    cases hex : c.hex with
    | error f => simp [hex, Except.toOption]
    | ok block => simp [hex, Except.toOption, Client.handIn]

/-- whatever the node replies, all blocks handed in are judged -/
theorem submitAll_judged (node : Nat → Delivery) (client : Client) (cs : List Candidate) :
    Judged node cs (submitAll node client cs) := by
  induction cs using List.reverseRecOn with
  | nil => exact .nil client
  | append_singleton cs c ih =>
    rw [submitAll, List.foldl_concat]
    exact ih.submit c

end

/-! ## blocks as they come -/

namespace Submitter

def puts? (s : Submitter) : SubmitMove → Option Candidate
  | .send c => if s.isOpen then some c else none
  | _ => none

def handsIn? (s : Submitter) : SubmitMove → Option Candidate
  | .advance =>
    match s.phase with
    | .holding c => some c
    | _ => none
  | _ => none

/-- the blocks that are put into the queue by moves, the oldest first -/
def sent (node : Nat → Delivery) : Submitter → List SubmitMove → List Candidate
  | _, [] => []
  | s, x :: xs => (s.puts? x).toList ++ sent node (s.step node x) xs

def handedIn (node : Nat → Delivery) : Submitter → List SubmitMove → List Candidate
  | _, [] => []
  | s, x :: xs => (s.handsIn? x).toList ++ handedIn node (s.step node x) xs

/-- the blocks that have come and were not handed in, the oldest first -/
def pending (s : Submitter) : List Candidate :=
  match s.phase with
  | .holding c => c :: s.queue
  | _ => s.queue

/-- what a move can do, with the block that it puts into the queue and the one that it hands in -/
inductive Effect (node : Nat → Delivery) (s : Submitter) :
    SubmitMove → Option Candidate → Option Candidate → Submitter → Prop
  | nothing {x : SubmitMove} : Effect node s x none none s
  | comes {c : Candidate} (hopen : s.isOpen = true) :
      Effect node s (.send c) (some c) none { s with queue := s.queue ++ [c] }
  /-- others come or go, and nobody comes when nobody is there -/
  | shifts {x : SubmitMove} {senders : Nat} (h : s.senders = 0 → senders = 0) :
      Effect node s x none none { s with senders := senders }
  | breaks {text : String} (hphase : s.phase = .waiting) : Effect node s (.breakDown text) none none
      { s with phase := .ended (.error (brokenFault text)) }
  | takes {c : Candidate} {rest : List Candidate} (hphase : s.phase = .waiting)
      (hqueue : s.queue = c :: rest) :
      Effect node s .advance none none { s with queue := rest, phase := .holding c }
  | closes (hphase : s.phase = .waiting) (hqueue : s.queue = []) (hsenders : s.senders = 0) :
      Effect node s .advance none none { s with phase := .ended (.ok ()) }
  | handsIn {c : Candidate} (hphase : s.phase = .holding c) : Effect node s .advance none (some c)
      { s with phase := .waiting, done := submit node s.done c }

/-- a submitter that has come to its end unbroken had nobody left to put a block in, and no block
left to hand in -/
def Fair (s : Submitter) : Prop := s.phase = .ended (.ok ()) → s.senders = 0 ∧ s.queue = []

/-- no wait has broken down -/
def Unbroken (s : Submitter) : Prop := ∀ f, s.phase ≠ .ended (.error f)

section
variable {node : Nat → Delivery} {s s' : Submitter} {x : SubmitMove} {moves : List SubmitMove}
  {put handed : Option Candidate}

theorem run_append (s : Submitter) (xs ys : List SubmitMove) :
    s.run node (xs ++ ys) = (s.run node xs).run node ys := List.foldl_append

/-! ### one move -/

theorem effect_advance (node : Nat → Delivery) (s : Submitter) :
    Effect node s .advance none (s.handsIn? .advance) (s.advance node) := by
  obtain ⟨queue, senders, phase, done⟩ := s
  cases phase with
  | waiting =>
    cases queue with
    | nil =>
      rw [advance]
      dsimp only
      split
      · rename_i hsenders
        exact .closes rfl rfl hsenders
      · exact .nothing
    | cons c rest => exact .takes rfl rfl
  | holding c => exact .handsIn rfl
  | ended result => exact .nothing

/-- a move does one of these things -/
theorem effect_step (node : Nat → Delivery) (s : Submitter) (x : SubmitMove) :
    Effect node s x (s.puts? x) (s.handsIn? x) (s.step node x) := by
  cases x with
  | send c =>
    rw [step, puts?]
    split
    · rename_i hopen
      exact .comes hopen
    · exact .nothing
  | join =>
    rw [step]
    split
    · exact .nothing
    · rename_i hsome
      exact .shifts fun hnone => absurd hnone hsome
  | leave => exact .shifts fun hnone => by rw [hnone]
  | breakDown text =>
    rw [step]
    split
    · rename_i hphase
      exact .breaks hphase
    · exact .nothing
  | advance => exact effect_advance node s

/-- what is handed in and what is pending afterwards is what was pending and what came -/
theorem Effect.pending (h : Effect node s x put handed s') :
    handed.toList ++ s'.pending = s.pending ++ put.toList := by
  obtain ⟨queue, senders, phase, done⟩ := s
  cases h with
  | comes hopen => cases phase <;> rfl
  | breaks hphase =>
    obtain rfl := hphase
    exact (List.append_nil _).symm
  | takes hphase hqueue =>
    obtain rfl := hphase
    obtain rfl := hqueue
    exact (List.append_nil _).symm
  | closes hphase =>
    obtain rfl := hphase
    exact (List.append_nil _).symm
  | handsIn hphase =>
    obtain rfl := hphase
    exact (List.append_nil _).symm
  | _ => exact (List.append_nil _).symm

theorem Effect.done (h : Effect node s x put handed s') :
    s'.done = handed.toList.foldl (submit node) s.done := by
  cases h <;> rfl

theorem Effect.fair (h : Effect node s x put handed s') (hs : s.Fair) : s'.Fair := by
  intro hended
  cases h with
  | nothing => exact hs hended
  | comes hopen =>
    have hclosed : s.isOpen = false := by
      rw [isOpen, hended]
    rw [hclosed] at hopen
    cases hopen
  | shifts hsenders =>
    obtain ⟨hnone, hqueue⟩ := hs hended
    exact ⟨hsenders hnone, hqueue⟩
  | closes hphase hqueue hsenders => exact ⟨hsenders, hqueue⟩
  | _ => cases hended

/-- a submitter that has broken down was broken before, or does so by this move -/
theorem Effect.broken {f : Fault} (h : Effect node s x put handed s')
    (hended : s'.phase = .ended (.error f)) :
    s.phase = .ended (.error f) ∨ ∃ text, x = .breakDown text ∧ f = brokenFault text := by
  cases h with
  | breaks hphase =>
    cases hended
    exact .inr ⟨_, rfl, rfl⟩
  | takes => cases hended
  | closes => cases hended
  | handsIn => cases hended
  | _ => exact .inl hended

/-! ### moves one after the other -/

theorem pending_run (node : Nat → Delivery) (s : Submitter) (moves : List SubmitMove) :
    s.handedIn node moves ++ (s.run node moves).pending = s.pending ++ s.sent node moves := by
  induction moves generalizing s with
  | nil => exact (List.append_nil _).symm
  | cons x moves ih =>
    calc s.handedIn node (x :: moves) ++ (s.run node (x :: moves)).pending
        = (s.handsIn? x).toList ++ ((s.step node x).handedIn node moves
            ++ ((s.step node x).run node moves).pending) := List.append_assoc ..
      _ = (s.handsIn? x).toList ++ ((s.step node x).pending
            ++ (s.step node x).sent node moves) := by rw [ih]
      _ = s.pending ++ s.sent node (x :: moves) := by
          rw [← List.append_assoc, (effect_step node s x).pending, List.append_assoc, sent]

theorem done_run (node : Nat → Delivery) (s : Submitter) (moves : List SubmitMove) :
    (s.run node moves).done = (s.handedIn node moves).foldl (submit node) s.done := by
  induction moves generalizing s with
  | nil => rfl
  | cons x moves ih =>
    show ((s.step node x).run node moves).done = _
    rw [ih, (effect_step node s x).done, handedIn, List.foldl_append]

theorem fair_run (hs : s.Fair) (moves : List SubmitMove) : (s.run node moves).Fair := by
  induction moves generalizing s with
  | nil => exact hs
  | cons x moves ih => exact ih ((effect_step node s x).fair hs)

/-- what ends the work with a fault is that a wait breaks down -/
theorem broken_run {f : Fault} (h : (s.run node moves).phase = .ended (.error f)) :
    s.phase = .ended (.error f) ∨ ∃ text, .breakDown text ∈ moves ∧ f = brokenFault text := by
  induction moves generalizing s with
  | nil => exact .inl h
  | cons x moves ih =>
    rcases ih h with hended | ⟨text, hmem, hf⟩
    · rcases (effect_step node s x).broken hended with hbefore | ⟨text, rfl, hf⟩
      · exact .inl hbefore
      · exact .inr ⟨text, List.mem_cons_self, hf⟩
    · exact .inr ⟨text, List.mem_cons_of_mem _ hmem, hf⟩

/-! ### left to itself -/

/-- how many moves it takes until no block is pending -/
def rank (s : Submitter) : Nat :=
  match s.phase with
  | .holding _ => 2 * s.queue.length + 1
  | _ => 2 * s.queue.length

theorem rank_le (s : Submitter) : s.rank ≤ 2 * s.pending.length := by
  unfold rank Submitter.pending
  cases s.phase with
  | holding c =>
    dsimp only
    rw [List.length_cons]
    omega
  | _ => exact Nat.le_refl _

theorem pending_of_rank (h : s.rank = 0) : s.pending = [] := by
  unfold rank at h
  unfold Submitter.pending
  split at h
  · cases h
  · exact List.length_eq_zero_iff.1 ((Nat.mul_eq_zero.1 h).resolve_left nofun)

theorem senders_advance (node : Nat → Delivery) (s : Submitter) :
    (s.advance node).senders = s.senders := by
  unfold advance
  split
  · rfl
  · split <;> rfl
  · rfl
  · rfl

/-- every move of a submitter that is not broken brings it one nearer -/
theorem rank_advance (node : Nat → Delivery) (hfair : s.Fair) (hworks : s.Unbroken) :
    (s.advance node).rank = s.rank - 1 := by
  obtain ⟨queue, senders, phase, done⟩ := s
  cases phase with
  | waiting =>
    cases queue with
    | nil =>
      rw [advance]
      dsimp only
      split <;> rfl
    | cons c rest => rfl
  | holding c => rfl
  | ended result =>
    cases result with
    | error f => exact absurd rfl (hworks f)
    | ok _ =>
      obtain ⟨-, hqueue⟩ := hfair rfl
      obtain rfl := hqueue
      rfl

/-- a submitter with nothing pending ends if nobody is left to put a block in -/
theorem phase_advance (hsenders : s.senders = 0) (hrank : s.rank = 0) (hworks : s.Unbroken) :
    (s.advance node).phase = .ended (.ok ()) := by
  obtain ⟨queue, senders, phase, done⟩ := s
  cases phase with
  | waiting =>
    obtain rfl : queue = [] := pending_of_rank hrank
    exact congrArg Submitter.phase (if_pos hsenders)
  | holding c => cases hrank
  | ended result =>
    cases result with
    | error f => exact absurd rfl (hworks f)
    | ok _ => rfl

theorem Unbroken.run (hworks : s.Unbroken) (h : ∀ text, .breakDown text ∉ moves) :
    (s.run node moves).Unbroken := by
  intro f hended
  rcases broken_run hended with hbefore | ⟨text, hmem, -⟩
  · exact hworks f hbefore
  · exact h text hmem

theorem Unbroken.run_replicate (hworks : s.Unbroken) (n : Nat) :
    (s.run node (List.replicate n .advance)).Unbroken :=
  hworks.run fun _ hmem => nomatch List.eq_of_mem_replicate hmem

theorem rank_replicate (node : Nat → Delivery) (hfair : s.Fair) (hworks : s.Unbroken) (n : Nat) :
    (s.run node (List.replicate n .advance)).rank = s.rank - n ∧
      (s.run node (List.replicate n .advance)).senders = s.senders := by
  induction n with
  | zero => exact ⟨rfl, rfl⟩
  | succ n ih =>
    obtain ⟨hrank, hsenders⟩ := ih
    have hlast : s.run node (List.replicate (n + 1) .advance)
        = (s.run node (List.replicate n .advance)).advance node := by
      rw [List.replicate_succ', run_append]
      rfl
    rw [hlast, rank_advance node (fair_run hfair _) (hworks.run_replicate n), senders_advance, hrank]
    exact ⟨Nat.sub_sub _ _ _, hsenders⟩

/-- a submitter that is not broken and is left to itself hands in what is pending, and then ends if
nobody is left to put more in -/
theorem run_advance (hfair : s.Fair) (hworks : s.Unbroken) {n : Nat} (hn : s.rank ≤ n) :
    (s.run node (List.replicate n .advance)).pending = [] ∧
      (s.senders = 0 →
        (s.run node (List.replicate (n + 1) .advance)).phase = .ended (.ok ())) := by
  obtain ⟨hrank, hsenders⟩ := rank_replicate node hfair hworks n
  rw [Nat.sub_eq_zero_of_le hn] at hrank
  refine ⟨pending_of_rank hrank, fun hnone => ?_⟩
  rw [List.replicate_succ', run_append]
  exact phase_advance (hsenders.trans hnone) hrank (hworks.run_replicate n)

end

end Submitter

/-- Whatever blocks come, whatever becomes of the requests, and whoever comes and goes: the blocks
handed in are the first of those that came, and what is left is pending.  Each of them has one
verdict, in the order in which they came, and each that can be written out made one request.  The
work ends with a fault only if a wait breaks down, and otherwise only when nobody is left to put
blocks in and none is pending; left to itself it comes to that.  A scheduler that handles these
verdicts has counted them. -/
theorem one_verdict_for_each (node : Nat → Delivery) (client : Client) (senders : Nat)
    (moves : List SubmitMove) :
    let first := Submitter.make client senders
    let s := first.run node moves
    ∃ blocks, first.sent node moves = blocks ++ s.pending ∧
      s.done.events.length = blocks.length ∧
      (∀ before c after, blocks = before ++ c :: after →
        AcceptedAfter node before c ∧ s.done.events[before.length]? = some .blockAccepted ∨
          ¬ AcceptedAfter node before c ∧ s.done.events[before.length]? = some .blockRejected) ∧
      s.done.requests.map (·.parameter) = (blocks.filterMap (·.hex.toOption)).map .string ∧
      (s.phase = .ended (.ok ()) → s.senders = 0 ∧ s.pending = []) ∧
      (∀ f, s.phase = .ended (.error f) →
        ∃ text, .breakDown text ∈ moves ∧ f = Submitter.brokenFault text) ∧
      ((∀ text, .breakDown text ∉ moves) → ∀ n, 2 * s.pending.length ≤ n →
        (s.run node (List.replicate n .advance)).pending = [] ∧
        (s.senders = 0 →
          (s.run node (List.replicate (n + 1) .advance)).phase = .ended (.ok ()))) ∧
      ∀ (m : Machine) (xs : List Move), (m.handled xs).filter (·.isVerdict) = s.done.events →
        (m.run xs).scheduler.counters.attempted
            = m.scheduler.counters.attempted + UInt64.ofNat blocks.length ∧
          (m.run xs).scheduler.counters.accepted
            = m.scheduler.counters.accepted + UInt64.ofNat (s.done.events.count .blockAccepted) := by
  intro first s
  have hwaits : ∀ result, first.phase ≠ .ended result := fun _ h => SubmitPhase.noConfusion h
  have hfair : s.Fair := Submitter.fair_run (fun h => absurd h (hwaits _)) moves
  have hdone : s.done = submitAll node client (first.handedIn node moves) :=
    Submitter.done_run node first moves
  have hjudged : Judged node (first.handedIn node moves) s.done := by
    rw [hdone]
    exact submitAll_judged node client _
  refine ⟨first.handedIn node moves, (Submitter.pending_run node first moves).symm, hjudged.length,
    hjudged.verdict, hjudged.parameters, fun hended => ?_, fun f hended => ?_,
    fun hworks n hn => ?_, fun m xs hhandled => ?_⟩
  · obtain ⟨hsenders, hqueue⟩ := hfair hended
    refine ⟨hsenders, ?_⟩
    rw [Submitter.pending, hended]
    exact hqueue
  · exact (Submitter.broken_run hended).resolve_left (hwaits _)
  · have hunbroken : s.Unbroken := Submitter.Unbroken.run (fun _ => hwaits _) hworks
    exact Submitter.run_advance hfair hunbroken (Nat.le_trans (Submitter.rank_le s) hn)
  · have htallied := m.tallied_run xs
    have hall : (m.handled xs).countP (·.isVerdict) = (first.handedIn node moves).length := by
      rw [List.countP_eq_length_filter, hhandled, hjudged.length]
    have haccepted : (m.handled xs).count .blockAccepted = s.done.events.count .blockAccepted := by
      rw [← hhandled, List.count_filter rfl]
    rw [htallied.attempted, htallied.accepted, hall, haccepted]
    exact ⟨rfl, rfl⟩

def Candidate.blank : Candidate := ⟨Work.blank, 0, []⟩

/-- what becomes of requests to a node that accepts one block and then cannot be reached -/
def Delivery.once : Nat → Delivery
  | 0 => .reply 500 (some "\x7b\"error\": null, \"result\": null\x7d")
  | _ => .unreachable ""

/-- two blocks come before nobody is left who could put one in -/
def SubmitMove.twice : List SubmitMove :=
  [.send .blank, .send .blank, .leave] ++ List.replicate 5 .advance

/-- a scheduler that two verdicts wait for -/
def Machine.toJudge : Machine :=
  ⟨⟨.small, 8, 1, none, 0, true, .zero, ⟨true, []⟩, []⟩, [.blockAccepted, .blockRejected],
    .draining, none⟩

/-- both blocks are handed in before the work ends, and both verdicts are counted -/
theorem verdicts_for_two :
    let s := (Submitter.make default 1).run Delivery.once SubmitMove.twice
    s.phase = .ended (.ok ()) ∧ s.pending = [] ∧
    s.done.events = [.blockAccepted, .blockRejected] ∧
    (Machine.toJudge.run [.advance, .advance]).scheduler.counters.attempted = 2 ∧
    (Machine.toJudge.run [.advance, .advance]).scheduler.counters.accepted = 1 := by
  intro s
  have hevents : s.done.events = [.blockAccepted, .blockRejected] := by decide +kernel
  have hended : s.phase = .ended (.ok ()) := rfl
  obtain ⟨blocks, -, hlength, -, -, hpending, -, -, hcounts⟩ :=
    one_verdict_for_each Delivery.once default 1 SubmitMove.twice
  obtain ⟨hattempted, haccepted⟩ := hcounts .toJudge [.advance, .advance] hevents.symm
  have htwo : blocks.length = 2 := hlength.symm.trans (congrArg List.length hevents)
  refine ⟨hended, (hpending hended).2, hevents, ?_, ?_⟩
  · rw [hattempted, htwo]
    rfl
  · rw [haccepted]
    show _ + UInt64.ofNat (s.done.events.count .blockAccepted) = 1
    rw [hevents]
    decide

end CycleMiner
