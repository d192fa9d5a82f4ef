import CycleMiner.Counters
import CycleMiner.Scheduler.Notice

/-!
# The scheduler and its events

The scheduler knows what is mined, counts what comes of it, and hands found blocks on.  It changes
only by handling events, one at a time, and by being stopped.

* `Outbox`              where found blocks go, as long as someone takes them;
* `Scheduler.make`      a scheduler, unless its numbers make no sense;
* `Scheduler.handle`    what an event does to it;
* `Event.endsJob`       whether the job that runs at that moment is told to stop;
* `Scheduler.nextNonce` the header nonce of the next job, counted up.

New work starts again at header nonce 0.  A fatal event halts the scheduler for good; it still
handles what comes after.
-/

namespace CycleMiner

structure Outbox where
  /-- whether someone takes them -/
  isOpen : Bool
  /-- what has been handed on, the oldest first -/
  sent : List Candidate

namespace Outbox

/-- the fault of handing a block to nobody -/
def closedFault : Fault := .channel "Candidate send failed: sending on a disconnected channel"

def send (o : Outbox) (c : Candidate) : Outbox :=
  if o.isOpen then { o with sent := o.sent ++ [c] } else o

end Outbox

structure Scheduler where
  params : Params
  easiness : UInt32
  threads : UInt64
  /-- what is mined -/
  current : Option WorkItem
  /-- the header nonce of the next job -/
  nextNonce : UInt32
  active : Bool
  counters : Counters
  outbox : Outbox
  /-- what has been reported, the oldest first -/
  journal : List ScheduleNotice

/-- whether the job that runs when this event is handled is told to stop -/
def Event.endsJob : Event → Bool
  | .newWork _ => true
  | e => e.isFatal

namespace Scheduler

/-- a scheduler without work; the number of threads is looked at before the easiness -/
def make (params : Params) (easiness : UInt32) (threads : UInt64) :
    Except SettingsFault Scheduler :=
  if threads = 0 then .error (.threads threads.toNat)
  else
    match params.checkEasiness easiness with
    | .error f => .error (.params f)
    | .ok easiness =>
      .ok ⟨params, easiness, threads, none, 0, true, .zero, ⟨true, []⟩, []⟩

def note (s : Scheduler) (n : ScheduleNotice) : Scheduler := { s with journal := s.journal ++ [n] }

/-- takes new work and starts again at header nonce 0 -/
def updateWork (s : Scheduler) (item : WorkItem) : Scheduler :=
  { s with current := some item, nextNonce := 0 }

def stop (s : Scheduler) : Scheduler := { s with active := false }

/-- hands a found block on, and reports it if nobody takes it -/
def submit (s : Scheduler) (c : Candidate) : Scheduler :=
  let s := s.note (.submits c.work.height c.solution)
  if s.outbox.isOpen then { s with outbox := s.outbox.send c }
  else s.note (.failed Outbox.closedFault)

def handle (s : Scheduler) : Event → Scheduler
  | .newWork item => (s.note (.newWork item.work.height item.work.target)).updateWork item
  | .solutionFound c => s.submit c
  | .blockAccepted =>
    let counters := s.counters.addAccepted
    { s with counters := counters }.note (.accepted counters.accepted counters.attempted)
  | .blockRejected =>
    let counters := s.counters.addRejected
    { s with counters := counters }.note (.rejected counters.attempted)
  | .connectionFailed => s.note .connectionFailed
  | .communicationFailed => s.note .communicationFailed
  | .longPollUnavailable => s.note .longPollUnavailable
  | .longPollEnabled => s.note .longPollEnabled
  | .tipMoved => s.note .tipMoved
  | .credentialsRejected => (s.note .credentialsRejected).stop
  | .permissionRefused => (s.note .permissionRefused).stop
  | .systemFailed => (s.note .systemFailed).stop
  | .terminated => (s.note .terminated).stop

/-! ## Who can halt it -/

@[simp] theorem active_note (s : Scheduler) (n : ScheduleNotice) :
    (s.note n).active = s.active := rfl

@[simp] theorem active_updateWork (s : Scheduler) (item : WorkItem) :
    (s.updateWork item).active = s.active := rfl

@[simp] theorem active_stop (s : Scheduler) : s.stop.active = false := rfl

@[simp] theorem active_submit (s : Scheduler) (c : Candidate) : (s.submit c).active = s.active := by
  unfold submit
  dsimp only
  split <;> rfl

/-- a fatal event halts the scheduler, and no other event changes whether it is halted -/
theorem active_handle (s : Scheduler) (e : Event) :
    (s.handle e).active = (s.active && !e.isFatal) := by
  cases e <;> simp [handle, Event.isFatal]

end Scheduler

end CycleMiner
