import CycleMiner.Job.Worker
import CycleMiner.Scheduler

/-!
# The scheduler at work

Jobs run one at a time.  While the workers of a job take their turns, the scheduler handles the
events in its mailbox; others put events there at any time.  All of this is one machine that makes
one small move at a time, and what happens is settled by the order of the moves.

* `Running`          a running job: its board and its workers;
* `Phase`            where the scheduler stands;
* `Machine`          the scheduler, its mailbox, its phase, and the serial of the last solved work;
* `Move`             an event arrives, the scheduler is halted from outside, a worker takes a turn,
  or the scheduler handles an event of a running job, or goes on;
* `Machine.step`     one move; a move that is not possible changes nothing;
* `Machine.run`      moves one after the other;
* `Machine.eager`    the move of a machine left to itself: events first, then the workers in the
  order of their indices;
* `Machine.runJob`   a whole job of a machine left to itself.

The scheduler looks whether it is halted, handles what has arrived, looks again, and then either
starts a job on the current work or, if there is none or it is solved, waits for an event.  When all
workers of a job have ended it handles what has arrived and only then looks at the result, so
nothing a worker has published is left behind.

A worker that is told to stop during a turn may have looked at the flag before.  Such a turn is ended
all the same, and may publish a block for work that has been replaced.

A worker that solves its job publishes the block, stops the job and ends in one move.  The scheduler
notices that later, and until then it handles events as those of a running job.
-/

namespace CycleMiner

structure Running where
  item : WorkItem
  job : Job
  table : Table
  stopped : Bool
  workers : List Worker

namespace Running

def isOver (r : Running) : Bool := r.workers.all (·.exit.isSome)

/-- the solution of the last worker that has one -/
def solution? (r : Running) : Option Solution :=
  r.workers.foldl (fun found w => match w.exit with
    | some (.solved s) => some s
    | _ => found) none

end Running

inductive Phase where
  /-- about to look whether it is halted -/
  | head
  /-- handling what has arrived before it chooses what to do -/
  | draining
  /-- waiting for an event -/
  | idle
  /-- a job is running -/
  | mining (running : Running)
  /-- a job has ended with this result; handling what has arrived -/
  | closing (item : WorkItem) (result : Option Solution)
  | ended

structure Machine where
  scheduler : Scheduler
  /-- the events that have arrived and were not handled, the oldest first -/
  mailbox : List Event
  phase : Phase
  /-- the serial of the work that was solved last -/
  solved : Option Nat

inductive Move where
  /-- someone publishes an event -/
  | deliver (e : Event)
  /-- someone halts the scheduler -/
  | halt
  /-- a worker takes a turn -/
  | work (timing : Timing) (index : Nat)
  /-- the scheduler handles an event of a running job, whether or not its workers have ended -/
  | oversee
  /-- the scheduler goes on -/
  | advance

namespace Machine

/-- the running job of work with the next header nonce -/
def start (s : Scheduler) (item : WorkItem) : Running :=
  let job := Job.start s.params s.easiness s.threads item.work s.nextNonce
  ⟨item, job, Table.empty s.params, false,
    (List.range s.threads.toNat).map fun i => Worker.start (UInt64.ofNat i)⟩

/-- starts a job: its header nonce is used up, and the job is reported -/
def beginJob (m : Machine) (item : WorkItem) : Machine :=
  let s := m.scheduler
  let running := start s item
  let s' := { s with nextNonce := s.nextNonce + 1 }.note
    (.jobStarts s.threads item.work.height s.nextNonce item.work.target)
  { m with scheduler := s', phase := .mining running }

/-- what the scheduler does once everything has been handled: mine the current work unless it is
solved, or wait -/
def choose (m : Machine) : Machine :=
  match m.scheduler.current with
  | some item =>
    if m.solved = some item.serial then { m with phase := .idle } else m.beginJob item
  | none => { m with phase := .idle }

def finish (m : Machine) : Machine :=
  { m with scheduler := m.scheduler.note .ends, phase := .ended }

/-- looks at the result of a job -/
def conclude (m : Machine) (item : WorkItem) (result : Option Solution) : Machine :=
  match result with
  | some _ =>
    { m with
      scheduler := m.scheduler.note (.solved item.work.height)
      solved := some item.serial
      phase := .head }
  | none => { m with phase := .head }

/-- the scheduler handles the first event in the mailbox while a job runs -/
def oversee (m : Machine) : Machine :=
  match m.phase, m.mailbox with
  | .mining r, e :: rest =>
    { m with
      scheduler := m.scheduler.handle e
      mailbox := rest
      phase := .mining { r with stopped := r.stopped || e.endsJob } }
  | _, _ => m

/-- the scheduler goes on -/
def advance (m : Machine) : Machine :=
  match m.phase, m.mailbox with
  | .head, _ => if m.scheduler.active then { m with phase := .draining } else m.finish
  | .draining, e :: rest => { m with scheduler := m.scheduler.handle e, mailbox := rest }
  | .draining, [] => if m.scheduler.active then m.choose else m.finish
  | .idle, e :: rest =>
    { m with scheduler := m.scheduler.handle e, mailbox := rest, phase := .head }
  | .idle, [] => { m with phase := .head }
  | .mining r, _ => if r.isOver then { m with phase := .closing r.item r.solution? } else m.oversee
  | .closing _ _, e :: rest => { m with scheduler := m.scheduler.handle e, mailbox := rest }
  | .closing item result, [] => m.conclude item result
  | .ended, _ => m

/-- one worker of a running job takes a turn; what it publishes arrives at once -/
def work (m : Machine) (timing : Timing) (index : Nat) : Machine :=
  match m with
  | ⟨s, mailbox, .mining r, solved⟩ =>
    match r.workers[index]? with
    | none => ⟨s, mailbox, .mining r, solved⟩
    | some w =>
      let ⟨item, job, table, stopped, workers⟩ := r
      let (w, b) := w.stepAt job timing ⟨table, stopped, s.counters, []⟩
      -- a flag that was raised stays raised, whether or not the turn has looked at it
      let ⟨table, raised, counters, found⟩ := b
      ⟨{ s with counters := counters }, mailbox ++ found.map .solutionFound,
        .mining ⟨item, job, table, stopped || raised, workers.set index w⟩, solved⟩
  | m => m

def step (m : Machine) : Move → Machine
  | .deliver e => { m with mailbox := m.mailbox ++ [e] }
  | .halt => { m with scheduler := m.scheduler.stop }
  | .work timing index => m.work timing index
  | .oversee => m.oversee
  | .advance => m.advance

def run (m : Machine) (moves : List Move) : Machine := moves.foldl step m

def ofScheduler (s : Scheduler) : Machine := ⟨s, [], .head, none⟩

/-- begins to run jobs -/
def begin (m : Machine) : Machine :=
  let s := m.scheduler
  { m with
    scheduler := s.note (.begins s.threads s.params s.easiness)
    phase := .head
    solved := none }

/-- the result of a job that has ended and left nothing to handle -/
def jobResult? (m : Machine) : Option (Option Solution) :=
  match m.phase, m.mailbox with
  | .closing _ result, [] => some result
  | _, _ => none

/-- the move of a machine left to itself; none if it has ended or waits for an event -/
def eager (m : Machine) : Option Move :=
  match m.phase, m.mailbox with
  | .ended, _ => none
  | .idle, [] => none
  | .mining r, [] =>
    match r.workers.findIdx? (·.exit.isNone) with
    | some i => some (.work .prompt i)
    | none => some .advance
  | _, _ => some .advance

/-- whether a machine that runs a single job is through with it -/
def isThrough (m : Machine) : Bool := m.jobResult?.isSome

/-- moves of a machine left to itself, at most so many, until something holds of it -/
def settle (holds : Machine → Bool) : Nat → Machine → Machine
  | 0, m => m
  | limit + 1, m =>
    if holds m then m
    else
      match m.eager with
      | some x => settle holds limit (m.step x)
      | none => m

/-- more moves than a job can take: each of its workers takes at most one turn more than there are
nonces and publishes at most once -/
def jobMoves (m : Machine) : Nat :=
  m.mailbox.length + m.scheduler.threads.toNat * (m.scheduler.easiness.toNat + 3) + 3

/-- a job that is run to its end without anyone interfering, together with everything that has
arrived -/
def runJob (m : Machine) (item : WorkItem) : Machine :=
  let limit := m.jobMoves
  settle isThrough limit (m.beginJob item)

@[simp] theorem run_nil (m : Machine) : m.run [] = m := rfl

@[simp] theorem run_cons (m : Machine) (x : Move) (xs : List Move) :
    m.run (x :: xs) = (m.step x).run xs := rfl

theorem run_append (m : Machine) (xs ys : List Move) : m.run (xs ++ ys) = (m.run xs).run ys := by
  simp [run]

end Machine

end CycleMiner
