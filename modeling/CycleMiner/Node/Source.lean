import CycleMiner.Node.Client
import CycleMiner.Poller

/-!
# A node as the source of a poller

* `Answer.ofDelivery`   what a poller is answered when this becomes of its request to a node.
-/

namespace CycleMiner

/-- the answer in what becomes of a request for a template -/
def Answer.ofDelivery (d : Delivery) : Answer :=
  match templateOf d with
  | .ok t => .template t
  | .error f => .failure f

end CycleMiner
