import CycleMiner.Poller.Loop
import CycleMiner.Proofs.Poller.Requests

/-!
# The loop and the timeline

A poller for which no wake-up is kept goes through its loop as its timeline has it.  A shutdown only
wakes it, but it has set where the poller stands by then, so the next look ends the run.

* `Lap.run`, `Turn.run`     the run that a lap leads to, in the loop and on the timeline;
* `PollLoop.run_of_stopped`, `PollLoop.run_of_live`   the look that begins a lap;
* `PollLoop.pause_run`, `PollLoop.answered_run`, `PollLoop.request_run`   a lap is a turn of the
  timeline;
* `Poller.loop_eq_run`      a run is what the timeline has.
-/

namespace CycleMiner

/-- the run that a lap leads to, if the later ones get these replies -/
def Lap.run (replies : List Reply) : Lap → PollerRun
  | .ends r => r
  | .goesOn before x => .after before (x.run replies)

def Turn.run (c : Clock) (replies : List Reply) : Turn → PollerRun
  | .ends r => r
  | .goesOn before p s now => .after before (p.runFrom c s now replies)

namespace Poller

theorem enter_of_stopped {p : Poller} (h : p.state = .stopped) (next : Lifecycle) :
    p.enter next = none := if_pos h

theorem enter_of_live {p : Poller} (h : p.state ≠ .stopped) (next : Lifecycle) :
    p.enter next = some { p with state := next } := if_neg h

theorem enter_eq_none_iff {p : Poller} {next : Lifecycle} :
    p.enter next = none ↔ p.state = .stopped := by
  unfold enter
  split
  · rename_i h
    exact iff_of_true rfl h
  · rename_i h
    exact iff_of_false nofun h

theorem shutdown_of_stopped {p : Poller} (h : p.state = .stopped) : p.shutdown = p := by
  rw [shutdown, ← h]

theorem runFrom_cons_run (c : Clock) {p : Poller} (s : Session) (now : Nat)
    (hp : p.state ≠ .stopped) (reply : Reply) (replies : List Reply) :
    runFrom c p s now (reply :: replies) =
      .after [⟨now, { p with state := .polling }, .asks s.longPollId⟩]
        ((request c { p with state := .polling } s now reply).run c replies) := by
  rw [runFrom_cons hp]
  cases request c { p with state := .polling } s now reply <;> rfl

end Poller

namespace PollLoop

section
variable {x : PollLoop} {replies : List Reply}

theorem run_of_stopped (h : x.poller.state = .stopped) (replies : List Reply) :
    x.run replies = x.finish := by
  rw [run, Poller.enter_of_stopped h]

theorem run_of_live (h : x.poller.state ≠ .stopped) (replies : List Reply) :
    x.run replies =
      .after [⟨x.time, { x.poller with state := .polling }, .asks x.session.longPollId⟩]
        (({ x with poller := { x.poller with state := .polling } }.request replies.head?).run
          replies.tail) := by
  rw [run, Poller.enter_of_live h]
  dsimp only
  congr 1
  split <;> rename_i e <;> rw [e] <;> rfl

/-- a poller that has been shut down comes to the end that the timeline has for it -/
theorem run_shutdown (x : PollLoop) (time : Nat) (replies : List Reply) :
    { x with time := time, clock := x.clock.spent, poller := x.poller.shutdown }.run replies
      = x.poller.stopRun time := run_of_stopped rfl replies

/-- what is left of a run is what the timeline has -/
def Follows (x : PollLoop) (replies : List Reply) : Prop :=
  x.run replies = x.poller.runFrom x.clock x.session x.time replies

theorem pause_run (h : ∀ y : PollLoop, y.woken = false → y.Follows replies)
    (hx : x.woken = false) (before : List Moment) (due : Nat) :
    (x.pause before due).run replies =
      (x.poller.pause x.clock before x.session x.time due).run x.clock replies := by
  unfold pause Poller.pause
  dsimp only
  rw [sleep_of_not_woken hx]
  cases x.clock.wait x.time due with
  | due time => exact congrArg (PollerRun.after _) (h { x with time := time } hx)
  | shutdown time => exact congrArg (PollerRun.after _) (x.run_shutdown time replies)
  | never => rfl

theorem answered_run (h : ∀ y : PollLoop, y.woken = false → y.Follows replies)
    (hx : x.woken = false) (hlive : x.poller.state ≠ .stopped) (a : Answer) :
    (x.answered a).run replies =
      (x.poller.answered x.clock x.session x.time a).run x.clock replies := by
  unfold answered
  dsimp only
  cases hnext : (x.poller.react x.session a).next with
  | giveUp f =>
    rw [Poller.answered_of_giveUp hnext]
    rfl
  | ask =>
    rw [Poller.answered_of_ask hnext]
    exact congrArg (PollerRun.after _) (h _ hx)
  | rest =>
    rw [Poller.answered_of_rest hnext]
    exact pause_run h (x := { x with
      poller := (x.poller.react x.session a).poller
      session := (x.poller.react x.session a).session }) hx _ _
  | backOff =>
    -- a passing fault leaves the poller where it stands, so it may pause
    have hstate : (x.poller.react x.session a).poller.state ≠ .stopped := by
      rw [((x.poller.heeds x.session a).live (by rw [hnext]; nofun)).1]
      exact hlive
    rw [Poller.answered_of_backOff hnext, Poller.enter_of_live hstate]
    exact pause_run h (x := { x with
      poller := { (x.poller.react x.session a).poller with state := .backoff }
      session := (x.poller.react x.session a).session }) hx _ _

theorem request_run (h : ∀ y : PollLoop, y.woken = false → y.Follows replies)
    (hx : x.woken = false) (hlive : x.poller.state ≠ .stopped) (reply : Reply) :
    (x.request (some reply)).run replies =
      (x.poller.request x.clock x.session x.time reply).run x.clock replies := by
  cases reply with
  | shutdown => exact run_of_stopped rfl replies
  | answer delay a =>
    rw [request, Poller.request, Poller.await, sleep_of_not_woken hx]
    cases x.clock.wait x.time (x.time + delay) with
    | due time => exact answered_run h (x := { x with time := time }) hx hlive a
    | shutdown time => exact x.run_shutdown time replies
    | never => rfl

theorem unanswered_run (hx : x.woken = false) : x.unanswered.run replies =
    match x.clock.waitForever x.time with
    | .shutdown time => x.poller.stopRun time
    | _ => x.poller.giveUpRun x.clock := by
  unfold unanswered
  rw [sleep_of_not_woken hx]
  rcases x.clock.waitForever_cases x.time with e | ⟨-, time, e⟩
  · rw [e]
    rfl
  · rw [e]
    exact x.run_shutdown time replies

theorem follows_of_stopped (h : x.poller.state = .stopped) (replies : List Reply) :
    x.Follows replies := by
  rw [Follows, run_of_stopped h, Poller.runFrom_of_stopped h, Poller.stopRun,
    Poller.shutdown_of_stopped h]
  rfl

/-- a poller for which no wake-up is kept goes on as the timeline has it -/
theorem follows (hx : x.woken = false) (replies : List Reply) : x.Follows replies := by
  induction replies generalizing x with
  | nil =>
    by_cases hlive : x.poller.state = .stopped
    · exact follows_of_stopped hlive []
    rw [Follows, run_of_live hlive, Poller.runFrom, if_neg hlive]
    refine congrArg (PollerRun.after _) ?_
    exact unanswered_run (x := { x with poller := { x.poller with state := .polling } }) hx
  | cons reply replies ih =>
    by_cases hlive : x.poller.state = .stopped
    · exact follows_of_stopped hlive (reply :: replies)
    rw [Follows, run_of_live hlive, Poller.runFrom_cons_run _ _ _ hlive]
    have hpolling : Lifecycle.polling ≠ .stopped := by decide
    refine congrArg (PollerRun.after _) ?_
    exact request_run (fun y hy => ih hy)
      (x := { x with poller := { x.poller with state := .polling } }) hx hpolling reply

end

end PollLoop

/-- a poller for which no wake-up is kept runs as its timeline has it -/
theorem Poller.loop_eq_run (c : Clock) (p : Poller) (replies : List Reply) :
    p.loop c false replies = p.run c replies :=
  congrArg (PollerRun.after _) (PollLoop.follows rfl replies)

end CycleMiner
