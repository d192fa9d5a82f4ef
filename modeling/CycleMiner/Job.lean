import CycleMiner.Event
import CycleMiner.Graph

/-!
# Jobs

A job is the search of one graph for one work item.  What its workers share and never change is
apart from what they change.

* `Arena`      the graph, the number of nonces to search, and the number of workers;
* `Job`        an arena, and the work and header nonce it is searched for;
* `Job.start`  the job of a work item with a header nonce, whose header keys the graph;
* `Board`      the table, the stop flag, the counts, and what has been found.
-/

namespace CycleMiner

/-- what is searched, and by how many workers -/
structure Arena where
  graph : Graph
  easiness : UInt32
  /-- the distance between the nonces of one worker -/
  stride : UInt64

/-- the arena of a header; there is at least one worker -/
def Arena.keyed (params : Params) (header : Bytes) (easiness : UInt32) (threads : UInt64) : Arena :=
  ⟨Graph.keyed params header, easiness, max threads 1⟩

structure Job where
  work : Work
  headerNonce : UInt32
  arena : Arena

def Job.start (params : Params) (easiness : UInt32) (threads : UInt64) (work : Work)
    (headerNonce : UInt32) : Job :=
  ⟨work, headerNonce, Arena.keyed params (work.header headerNonce) easiness threads⟩

end CycleMiner
