import CycleMiner.Counters
import CycleMiner.Job
import CycleMiner.Table.Insertion

/-!
# What the workers of a job change

* `Board`          the table, the stop flag, the counts, and the candidates published so far;
* `Board.fresh`    an empty table and a lowered flag;
* `Board.stop`     raises the flag.
-/

namespace CycleMiner

/-- what the workers of a job share and change -/
structure Board where
  table : Table
  /-- whether the workers have been told to stop -/
  stopped : Bool
  counters : Counters
  /-- the published candidates, the oldest first -/
  found : List Candidate

namespace Board

def fresh (params : Params) (counters : Counters) : Board :=
  ⟨Table.empty params, false, counters, []⟩

def stop (b : Board) : Board := { b with stopped := true }

def count (b : Board) (f : Counters → Counters) : Board := { b with counters := f b.counters }

end Board

end CycleMiner
