import CycleMiner.Fault
import CycleMiner.Work

/-!
# Events

The parts of a miner tell one another what happens by events.  Work is passed on together with the
serial under which it was announced, so that the same work announced again is known to be the same.

* `WorkItem`         work with its serial;
* `Event`            what can happen;
* `Event.isFatal`    whether mining ends with it;
* `Event.ofFault`    the event that tells of a fault while work is fetched.
-/

namespace CycleMiner

/-- work with the serial under which it was announced -/
structure WorkItem where
  serial : Nat
  work : Work
  deriving DecidableEq

inductive Event where
  /-- there is new work, which takes the place of the old -/
  | newWork (item : WorkItem)
  /-- the chain has a new tip -/
  | tipMoved
  /-- the node gives long-poll ids -/
  | longPollEnabled
  /-- the node gives no long-poll id -/
  | longPollUnavailable
  /-- a worker has found a cycle that is good enough -/
  | solutionFound (candidate : Candidate)
  | blockAccepted
  | blockRejected
  /-- the node cannot be reached and will be tried again -/
  | connectionFailed
  /-- the node's answer cannot be used and it will be asked again -/
  | communicationFailed
  /-- credentials or contents are refused -/
  | credentialsRejected
  /-- the request is refused -/
  | permissionRefused
  | systemFailed
  /-- there will be no more work -/
  | terminated
  deriving DecidableEq

namespace Event

/-- whether mining ends with this event -/
def isFatal : Event → Bool
  | credentialsRejected | permissionRefused | systemFailed | terminated => true
  | _ => false

def ofFault : Fault → Event
  | .authentication _ | .input _ => credentialsRejected
  | .permission _ => permissionRefused
  | .connection _ | .io _ | .http true _ => connectionFailed
  | _ => communicationFailed

/-- a fault is final exactly if it is about credentials, permission or contents -/
theorem isFatal_ofFault (f : Fault) :
    (ofFault f).isFatal = true ↔
      (∃ t, f = .authentication t) ∨ (∃ t, f = .permission t) ∨ (∃ i, f = .input i) := by
  cases f with
  | http late _ => cases late <;> simp [ofFault, isFatal]
  | _ => simp [ofFault, isFatal]

end Event

end CycleMiner
