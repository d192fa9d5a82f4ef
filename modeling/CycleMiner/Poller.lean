import CycleMiner.Event
import CycleMiner.Poller.Notice

/-!
# The poller and its answers

The poller asks a source for templates and turns those above the last height into work.  What one
answer does to it is settled here; when it asks is settled in `Poller.Timeline`.

* `Lifecycle`        where the poller stands; once stopped it never asks again;
* `Poller`           what it knows for good;
* `Session`          what it knows for one run: the long-poll id to pass back, and whether the
  source has ever given one;
* `Answer`           a template or a fault;
* `Poller.react`     what an answer does: what is told, and what comes next.

A template with a long-poll id that is not empty is followed by the next request at once; without
one the poller says so and waits a little.  After a passing fault it forgets the long-poll id and
its work and waits longer; after a final one it stops.
-/

namespace CycleMiner

inductive Lifecycle where
  | idle
  | polling
  | backoff
  | stopped
  deriving DecidableEq, Repr, Inhabited

structure Poller where
  prefs : Preferences
  /-- how long it waits after a passing fault, in milliseconds -/
  retryPause : Nat
  /-- how long it waits where there is no long-poll id, in milliseconds -/
  pollInterval : Nat
  state : Lifecycle
  /-- the latest work, none while the source fails -/
  currentWork : Option WorkItem
  /-- the height of the last work announced -/
  height : UInt64
  /-- how many work items it has announced -/
  announced : Nat

structure Session where
  longPollId : Option String
  longPolling : Bool
  deriving DecidableEq, Repr, Inhabited

inductive Answer where
  | template (t : Template)
  | failure (f : Fault)

inductive Action where
  | publish (e : Event)
  | note (n : PollNotice)

inductive Next where
  /-- the next request -/
  | ask
  /-- the next request after the poll interval -/
  | rest
  /-- the next request after the retry pause -/
  | backOff
  /-- nothing, because of this fault -/
  | giveUp (f : Fault)

structure Reaction where
  poller : Poller
  session : Session
  /-- what the poller does, in order -/
  actions : List Action
  next : Next

namespace Session

def fresh : Session := ⟨none, false⟩

end Session

/-- the long-poll id of a template; an empty one is none -/
def Template.usableId (t : Template) : Option String := t.longPollId.filter (· ≠ "")

namespace Poller

def make (prefs : Preferences) (retryPause pollInterval : Nat) : Poller :=
  ⟨prefs, retryPause, pollInterval, .idle, none, 0, 0⟩

/-- ends a run at its next wait, and every later run at its beginning -/
def shutdown (p : Poller) : Poller := { p with state := .stopped }

/-- announces the work of a template above the last height -/
def accept (p : Poller) (t : Template) : Except InputFault (Poller × List Action) :=
  if p.height < t.height then
    match Work.ofTemplate t p.prefs with
    | .error f => .error f
    | .ok work =>
      let item : WorkItem := ⟨p.announced, work⟩
      .ok ({ p with
              currentWork := some item
              height := t.height
              announced := p.announced + 1 },
        [.publish .tipMoved, .note (.tip t.height), .publish (.newWork item)])
  else .ok (p, [])

/-- what the first long-poll id of a run makes the poller tell -/
def greeting (s : Session) (t : Template) : List Action :=
  if t.usableId.isSome && !s.longPolling then
    [.note .longPollEnabled, .publish .longPollEnabled]
  else []

/-- what a fault does, after the actions before it -/
def fail (p : Poller) (s : Session) (before : List Action) (f : Fault) : Reaction :=
  let p := { p with currentWork := none }
  let s := { s with longPollId := none }
  let event := Event.ofFault f
  if event.isFatal then
    ⟨p.shutdown, s, before ++ [.note (.gaveUp f), .publish event, .publish .terminated], .giveUp f⟩
  else
    ⟨p, s, before ++ [.note (.retries f (p.retryPause / 1000)), .publish event], .backOff⟩

def react (p : Poller) (s : Session) : Answer → Reaction
  | .failure f => p.fail s [] f
  | .template t =>
    let before := greeting s t
    let s := { s with longPolling := s.longPolling || t.usableId.isSome }
    match p.accept t with
    | .error f => p.fail s before (.input f)
    | .ok (p, told) =>
      match t.usableId with
      | some id => ⟨p, { s with longPollId := some id }, before ++ told, .ask⟩
      | none =>
        ⟨p, { s with longPollId := none }, before ++ told ++ [.publish .longPollUnavailable], .rest⟩

end Poller

end CycleMiner
