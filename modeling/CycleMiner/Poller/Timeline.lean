import CycleMiner.Poller

/-!
# A poller on a clock

A run of the poller against a source whose answers and delays are known beforehand.  Time passes
only while the poller waits: for the source, or in a pause.  Time is counted in milliseconds from
the beginning of the run.

* `Reply`            what the source does with one request;
* `Timer`            what measures the pauses of a poller;
* `Clock`            that, when the poller is shut down from outside, and when the run is given up;
* `Clock.wait`       how a wait ends;
* `Clock.left`       what is still to come of a shutdown when a run has ended;
* `Moment`           something that happens, with its time and the poller as it then stands;
* `Poller.request`   what comes of a request: the end of the run, or the next request;
* `Poller.run`       everything that happens in a run, and how it ends.

An answer comes when the source gives it.  A pause is over when the timer says so; a timer need not
keep to a length that is too long for it.

The poller goes first at every moment: what is due when it is shut down, or when its run is given up,
still happens, and with it all that takes no time.  A run that is given up at the moment of a
shutdown is given up before it; the shutdown then comes in the next run.  A source that has no reply
left never answers.
-/

namespace CycleMiner

/-- what a source does with one request -/
inductive Reply where
  /-- it answers after a delay -/
  | answer (delay : Nat) (a : Answer)
  /-- it shuts the poller down and never answers -/
  | shutdown

/-- what measures the pauses of a poller -/
structure Timer where
  /-- how long a pause lasts that should have a given length -/
  span : Nat → Nat

namespace Timer

/-- every length up to the longest is kept -/
def Keeps (t : Timer) (longest : Nat) : Prop := ∀ length ≤ longest, t.span length = length

/-- a timer that keeps every length -/
def exact : Timer := ⟨id⟩

/-- a timer that keeps every length up to the longest, and makes any other into the same one -/
def upTo (longest other : Nat) : Timer :=
  ⟨fun length => if length ≤ longest then length else other⟩

theorem keeps_upTo (longest other : Nat) : (upTo longest other).Keeps longest := fun _ h => if_pos h

end Timer

structure Clock where
  timer : Timer
  /-- when the poller is shut down -/
  shutdownAt : Option Nat
  /-- when the run is given up -/
  limit : Nat

inductive Wake where
  /-- as it should, at this time -/
  | due (time : Nat)
  /-- by a shutdown at this time -/
  | shutdown (time : Nat)
  /-- not at all while the run goes on -/
  | never
  deriving DecidableEq, Repr, Inhabited

namespace Clock

/-- the time of a shutdown that comes before the run is given up -/
def shutdown? (c : Clock) : Option Nat := c.shutdownAt.filter (· < c.limit)

/-- how a wait ends that has no end of its own -/
def waitForever (c : Clock) (now : Nat) : Wake :=
  match c.shutdown? with
  | some s => .shutdown (max s now)
  | none => .never

/-- how a wait ends that should last until a given time -/
def wait (c : Clock) (now due : Nat) : Wake :=
  if due ≤ now then .due now
  else
    match c.shutdown?.filter (· < due) with
    | some s => .shutdown (max s now)
    | none => if due ≤ c.limit then .due due else .never

/-- the earlier of two times that may not come -/
def earlier : Option Nat → Option Nat → Option Nat
  | some a, some b => some (min a b)
  | some a, none => some a
  | none, b => b

/-- how long after a run that ended at a given time its shutdown comes -/
def left (c : Clock) (time : Nat) : Option Nat := c.shutdownAt.map (· - time)

end Clock

/-- what can happen in a run -/
inductive Occurrence where
  /-- a request goes out with this long-poll id -/
  | asks (longPollId : Option String)
  /-- something is published or reported -/
  | does (action : Action)
  /-- a pause begins that should last until this time -/
  | pauses (due : Nat)

structure Moment where
  time : Nat
  /-- the poller as it stands then -/
  poller : Poller
  occurrence : Occurrence

inductive RunEnd where
  /-- after a shutdown -/
  | stopped
  /-- by a final fault -/
  | failed (f : Fault)
  /-- not before it is given up -/
  | unfinished

structure PollerRun where
  /-- what happened, in order -/
  moments : List Moment
  /-- the poller afterwards -/
  poller : Poller
  time : Nat
  outcome : RunEnd

namespace PollerRun

def after (before : List Moment) (r : PollerRun) : PollerRun :=
  { r with moments := before ++ r.moments }

def events (r : PollerRun) : List Event :=
  r.moments.filterMap fun m => match m.occurrence with
    | .does (.publish e) => some e
    | _ => none

end PollerRun

inductive Turn where
  /-- the end of the run -/
  | ends (rest : PollerRun)
  /-- after these moments the next request -/
  | goesOn (before : List Moment) (poller : Poller) (session : Session) (time : Nat)

namespace Poller

def moments (time : Nat) (p : Poller) (actions : List Action) : List Moment :=
  actions.map fun a => ⟨time, p, .does a⟩

/-- the end of a run after a shutdown -/
def stopRun (time : Nat) (p : Poller) : PollerRun :=
  ⟨[⟨time, p.shutdown, .does (.note .ends)⟩], p.shutdown, time, .stopped⟩

/-- the end of a run that is given up while the poller waits -/
def giveUpRun (c : Clock) (p : Poller) : PollerRun := ⟨[], p, c.limit, .unfinished⟩

/-- a pause after some moments, which should last until a given time -/
def pause (c : Clock) (before : List Moment) (p : Poller) (s : Session) (time due : Nat) : Turn :=
  let before := before ++ [⟨time, p, .pauses due⟩]
  match c.wait time due with
  | .shutdown time => .ends (.after before (stopRun time p))
  | .never => .ends (.after before (giveUpRun c p))
  | .due time => .goesOn before p s time

/-- an answer, and the pause after it -/
def answered (c : Clock) (p : Poller) (s : Session) (time : Nat) (a : Answer) : Turn :=
  let r := p.react s a
  let told := moments time r.poller r.actions
  match r.next with
  | .giveUp f => .ends ⟨told, r.poller, time, .failed f⟩
  | .ask => .goesOn told r.poller r.session time
  | .rest => pause c told r.poller r.session time (time + c.timer.span r.poller.pollInterval)
  | .backOff =>
    pause c told { r.poller with state := .backoff } r.session time
      (time + c.timer.span r.poller.retryPause)

/-- the wait for an answer that is due at a given time -/
def await (c : Clock) (p : Poller) (s : Session) (now due : Nat) (a : Answer) : Turn :=
  match c.wait now due with
  | .shutdown time => .ends (stopRun time p)
  | .never => .ends (giveUpRun c p)
  | .due time => answered c p s time a

/-- what comes of a request that has gone out -/
def request (c : Clock) (p : Poller) (s : Session) (now : Nat) : Reply → Turn
  | .shutdown => .ends (stopRun now p)
  | .answer delay a => await c p s now (now + delay) a

/-- a run from the moment a request may go out -/
def runFrom (c : Clock) (p : Poller) (s : Session) (now : Nat) : List Reply → PollerRun
  | [] =>
    if p.state = .stopped then stopRun now p
    else
      let p := { p with state := .polling }
      .after [⟨now, p, .asks s.longPollId⟩]
        (match c.waitForever now with
        | .shutdown time => stopRun time p
        | _ => giveUpRun c p)
  | reply :: replies =>
    if p.state = .stopped then stopRun now p
    else
      let p := { p with state := .polling }
      .after [⟨now, p, .asks s.longPollId⟩]
        (match request c p s now reply with
        | .ends r => r
        | .goesOn before p s now => .after before (runFrom c p s now replies))

def run (c : Clock) (p : Poller) (replies : List Reply) : PollerRun :=
  .after [⟨0, p, .does (.note .begins)⟩] (runFrom c p .fresh 0 replies)

end Poller

end CycleMiner
