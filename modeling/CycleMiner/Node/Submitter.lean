import CycleMiner.Node.Submission

/-!
# Handing blocks in as they come

Found blocks come in through a queue.  They are taken out and handed in one at a time, until the
queue is empty and nobody is left who could put one in.

* `SubmitPhase`      where handing in stands;
* `Submitter`        the queue, how many can put blocks in, and what has come of those handed in;
* `SubmitMove`       what can happen next;
* `Submitter.step`   one move; a move that is not possible changes nothing;
* `Submitter.run`    moves one after the other.

Whoever can put blocks in can let others do so.  A wait that finds the queue empty is begun again.
What becomes of a block never ends the work, but a wait that breaks down does, with a fault.
-/

namespace CycleMiner

inductive SubmitPhase where
  /-- waiting for a block -/
  | waiting
  /-- a block has been taken out of the queue -/
  | holding (c : Candidate)
  | ended (result : Except Fault Unit)

/-- the work of handing blocks in -/
structure Submitter where
  /-- the blocks that wait, the oldest first -/
  queue : List Candidate
  /-- how many can put blocks into the queue -/
  senders : Nat
  phase : SubmitPhase
  done : Submission

inductive SubmitMove where
  /-- a block is put into the queue -/
  | send (c : Candidate)
  /-- one more can put blocks into it -/
  | join
  /-- one of those goes away -/
  | leave
  /-- a wait breaks down -/
  | breakDown (text : String)
  /-- handing in goes on -/
  | advance

namespace Submitter

def make (client : Client) (senders : Nat) : Submitter := ⟨[], senders, .waiting, ⟨client, [], []⟩⟩

/-- whether blocks can still be put into the queue -/
def isOpen (s : Submitter) : Bool :=
  match s.phase with
  | .waiting | .holding _ => decide (0 < s.senders)
  | .ended _ => false

/-- the fault of a wait that breaks down -/
def brokenFault (text : String) : Fault := .task ("Async task failed: " ++ text)

/-- handing in goes on; `node` tells what becomes of the request with a number -/
def advance (node : Nat → Delivery) (s : Submitter) : Submitter :=
  match s.phase, s.queue with
  | .waiting, c :: rest => { s with queue := rest, phase := .holding c }
  | .waiting, [] => if s.senders = 0 then { s with phase := .ended (.ok ()) } else s
  | .holding c, _ => { s with phase := .waiting, done := submit node s.done c }
  | .ended _, _ => s

def step (node : Nat → Delivery) (s : Submitter) : SubmitMove → Submitter
  | .send c => if s.isOpen then { s with queue := s.queue ++ [c] } else s
  | .join => if s.senders = 0 then s else { s with senders := s.senders + 1 }
  | .leave => { s with senders := s.senders - 1 }
  | .breakDown text =>
    match s.phase with
    | .waiting => { s with phase := .ended (.error (brokenFault text)) }
    | _ => s
  | .advance => s.advance node

def run (node : Nat → Delivery) (s : Submitter) (moves : List SubmitMove) : Submitter :=
  moves.foldl (step node) s

end Submitter

end CycleMiner
