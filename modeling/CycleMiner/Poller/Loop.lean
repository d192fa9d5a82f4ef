import CycleMiner.Poller.Timeline

/-!
# The loop of a poller

A shutdown does two things: it sets where the poller stands, and it wakes the poller.  A wake-up
ends a wait and nothing else; one that nobody waits for is kept for the next wait.  What ends the
loop is that the poller looks where it stands, before each request and before it pauses after a
fault.

* `Poller.enter`     goes on to another state, unless the poller is stopped;
* `PollLoop`         a poller in its loop, on a clock, and whether a wake-up is kept for it;
* `PollLoop.sleep`   how it rises from a wait;
* `PollLoop.request`, `PollLoop.answered`, `PollLoop.pause`   a lap of the loop;
* `PollLoop.run`     laps one after the other;
* `Poller.loop`      a run of a poller.

A lap uses up a reply or, once there is none left, a wake-up.
-/

namespace CycleMiner

namespace Clock

/-- the clock after its shutdown -/
def spent (c : Clock) : Clock := { c with shutdownAt := none }

theorem waitForever_cases (c : Clock) (now : Nat) : c.waitForever now = .never ∨
    c.shutdownAt.isSome = true ∧ ∃ time, c.waitForever now = .shutdown time := by
  unfold waitForever
  split
  · rename_i time h
    exact .inr ⟨Option.isSome_of_isSome_filter _ _ (Option.isSome_of_eq_some h), _, rfl⟩
  · exact .inl rfl

end Clock

def Poller.enter (next : Lifecycle) (p : Poller) : Option Poller :=
  if p.state = .stopped then none else some { p with state := next }

structure PollLoop where
  clock : Clock
  poller : Poller
  /-- whether a wake-up is kept for the next wait -/
  woken : Bool
  session : Session
  time : Nat

/-- how a poller rises from a wait -/
inductive Rising where
  /-- what it has waited for is there -/
  | due (x : PollLoop)
  /-- it has been woken -/
  | woken (x : PollLoop)
  /-- not at all while the run goes on -/
  | never

/-- what comes of a lap -/
inductive Lap where
  /-- the end of the run -/
  | ends (rest : PollerRun)
  /-- after these moments the next lap -/
  | goesOn (before : List Moment) (x : PollLoop)

namespace PollLoop

/-- how a poller rises from a wait: at once if a wake-up is kept for it and nothing is due, and
otherwise as the clock has it; a shutdown that comes meanwhile sets where the poller stands -/
def sleep (x : PollLoop) (w : Wake) : Rising :=
  if x.woken ∧ w ≠ .due x.time then .woken { x with woken := false }
  else
    match w with
    | .due time => .due { x with time := time }
    | .shutdown time =>
      .woken { x with time := time, clock := x.clock.spent, poller := x.poller.shutdown }
    | .never => .never

theorem sleep_of_woken {x : PollLoop} {w : Wake} (hx : x.woken = true) (hw : w ≠ .due x.time) :
    x.sleep w = .woken { x with woken := false } := if_pos ⟨hx, hw⟩

theorem sleep_of_not_woken {x : PollLoop} (hx : x.woken = false) (w : Wake) :
    x.sleep w = match w with
    | .due time => .due { x with time := time }
    | .shutdown time =>
      .woken { x with time := time, clock := x.clock.spent, poller := x.poller.shutdown }
    | .never => .never :=
  if_neg fun h => Bool.false_ne_true (hx.symm.trans h.1)

def giveUp (x : PollLoop) : PollerRun := Poller.giveUpRun x.clock x.poller

/-- the end of a run whose poller was found stopped -/
def finish (x : PollLoop) : PollerRun :=
  ⟨[⟨x.time, x.poller, .does (.note .ends)⟩], x.poller, x.time, .stopped⟩

/-- a pause after some moments, which should last until a given time -/
def pause (x : PollLoop) (before : List Moment) (due : Nat) : Lap :=
  let before := before ++ [⟨x.time, x.poller, .pauses due⟩]
  match x.sleep (x.clock.wait x.time due) with
  | .due y | .woken y => .goesOn before y
  | .never => .ends (.after before x.giveUp)

def answered (x : PollLoop) (a : Answer) : Lap :=
  let r := x.poller.react x.session a
  let told := Poller.moments x.time r.poller r.actions
  let x := { x with poller := r.poller, session := r.session }
  match r.next with
  | .giveUp f => .ends ⟨told, r.poller, x.time, .failed f⟩
  | .ask => .goesOn told x
  | .rest => x.pause told (x.time + x.clock.timer.span x.poller.pollInterval)
  | .backOff =>
    match x.poller.enter .backoff with
    | none => .goesOn told x
    | some p => { x with poller := p }.pause told (x.time + x.clock.timer.span x.poller.retryPause)

def unanswered (x : PollLoop) : Lap :=
  match x.sleep (x.clock.waitForever x.time) with
  | .due y | .woken y => .goesOn [] y
  | .never => .ends x.giveUp

/-- what comes of a request that has gone out -/
def request (x : PollLoop) : Option Reply → Lap
  | some (.answer delay a) =>
    match x.sleep (x.clock.wait x.time (x.time + delay)) with
    | .due y => y.answered a
    | .woken y => .goesOn [] y
    | .never => .ends x.giveUp
  | some .shutdown => .goesOn [] { x with poller := x.poller.shutdown, woken := false }
  | none => x.unanswered

/-- how often the poller can still be woken -/
def wakes (x : PollLoop) : Nat := x.woken.toNat + x.clock.shutdownAt.isSome.toNat

/-- a request that is never answered goes on only by a wake-up -/
theorem wakes_unanswered {x y : PollLoop} {before : List Moment}
    (h : x.unanswered = .goesOn before y) : y.wakes < x.wakes := by
  unfold unanswered at h
  have hcases := x.clock.waitForever_cases x.time
  cases hx : x.woken with
  | true =>
    rw [sleep_of_woken hx (by rcases hcases with e | ⟨-, time, e⟩ <;> rw [e] <;> nofun)] at h
    cases h
    rw [wakes, wakes, hx]
    exact Nat.add_lt_add_right Nat.one_pos _
  | false =>
    rw [sleep_of_not_woken hx] at h
    rcases hcases with e | ⟨hsome, time, e⟩
    · rw [e] at h
      cases h
    · rw [e] at h
      cases h
      rw [wakes, wakes, hx, hsome]
      exact Nat.one_pos

def run (x : PollLoop) (replies : List Reply) : PollerRun :=
  match x.poller.enter .polling with
  | none => x.finish
  | some p =>
    .after [⟨x.time, p, .asks x.session.longPollId⟩]
      (match _hlap : { x with poller := p }.request replies.head? with
      | .ends r => r
      | .goesOn before y => .after before (y.run replies.tail))
termination_by (replies.length, x.wakes)
decreasing_by
  cases replies with
  | nil => exact .right _ (wakes_unanswered (x := { x with poller := p }) _hlap)
  | cons reply replies => exact .left _ _ (Nat.lt_succ_self _)

end PollLoop

/-- a run of a poller for which a wake-up may have been kept -/
def Poller.loop (c : Clock) (p : Poller) (woken : Bool) (replies : List Reply) : PollerRun :=
  .after [⟨0, p, .does (.note .begins)⟩] (PollLoop.run ⟨c, p, woken, .fresh, 0⟩ replies)

end CycleMiner
