import CycleMiner.Event
import CycleMiner.Node.Client

/-!
# Handing blocks in

Found blocks are handed in one after the other, and each gets one event: accepted, or rejected for
whatever reason.  A block that cannot be written out is rejected without a request.

* `submit`       what becomes of one block;
* `submitAll`    what becomes of all of them; `node` tells what becomes of each request.
-/

namespace CycleMiner

/-- what has come of handing blocks in -/
structure Submission where
  client : Client
  /-- the requests made, the oldest first -/
  requests : List Request
  /-- one event for each block -/
  events : List Event

def Event.ofVerdict : Except Fault Verdict → Event
  | .ok .accepted => .blockAccepted
  | _ => .blockRejected

/-- hands one block in; `node` tells what becomes of the request with a number -/
def submit (node : Nat → Delivery) (s : Submission) (c : Candidate) : Submission :=
  match c.hex with
  | .error _ => { s with events := s.events ++ [.blockRejected] }
  | .ok block =>
    ⟨s.client.advance, s.requests ++ [s.client.handIn block],
      s.events ++ [.ofVerdict (verdictOf (node s.requests.length))]⟩

def submitAll (node : Nat → Delivery) (client : Client) (cs : List Candidate) : Submission :=
  cs.foldl (submit node) ⟨client, [], []⟩

end CycleMiner
