import CycleMiner.Graph.Recovery
import CycleMiner.Graph.Verify
import CycleMiner.Job.Board

/-!
# Workers

The workers of a job share out the nonces: the worker of index `i` tries `i`, `i + stride`,
`i + 2 * stride` and so on below the easiness.  For each nonce it puts the edge into the table.  A
cycle of the wanted size that closes is rebuilt, checked and held against the target; a hit is
published and stops the job.

* `offer`          what a worker does with a closed cycle of the wanted size;
* `insertNonce`    what it does with one nonce;
* `Worker`         where a worker stands;
* `Worker.act`     one turn: stop, run out of nonces, or try the next one;
* `Worker.step`    a turn that nobody disturbs;
* `Worker.stepAt`  a turn during which the worker may be told to stop;
* `Worker.run`     turns until it ends.

Between two turns the board may be changed by others; a turn looks at the board as it finds it.  It
looks at the stop flag twice, when it begins and when it has closed a cycle of the wanted size.  The
numbers of edges are gathered and counted in batches, and at the end; the nonce that solves the job
is not counted.

The nonces are words and wrap, but a worker that comes round meets a nonce above the easiness before
it meets one again, so no worker takes more turns with a nonce than there are nonces; that bounds
`run`.
-/

namespace CycleMiner

inductive Exit where
  /-- it found a cycle that is good enough -/
  | solved (solution : Solution)
  /-- it was told to stop -/
  | stopped
  /-- it has no nonces left -/
  | exhausted
  deriving DecidableEq, Repr, Inhabited

/-- what comes of one nonce -/
inductive Attempt where
  | solved (solution : Solution)
  | nothing
  deriving DecidableEq, Repr, Inhabited

/-- a closed cycle of the wanted size, given by the two paths its closing edge joins: rebuilt,
checked, held against the target, and published if it is good enough -/
def offer (job : Job) (us vs : List UInt32) (b : Board) : Attempt × Board :=
  match job.arena.graph.recover job.arena.easiness us vs with
  | none => (.nothing, b)
  | some s =>
    let b := b.count .addSolution
    if job.arena.graph.verify job.arena.easiness s then
      if job.work.isMetBy s then
        let candidate : Candidate := ⟨job.work, job.headerNonce, s⟩
        (.solved s, { b with stopped := true, found := b.found ++ [candidate] })
      else (.nothing, b.count .addError)
    else (.nothing, b.count .addError)

def closeCycle (job : Job) (us vs : List UInt32) (b : Board) : Attempt × Board :=
  let b := b.count .addCycle
  if Insertion.cycleLength us vs = job.arena.graph.params.proofSize ∧ !b.stopped then
    offer job us vs b
  else (.nothing, b)

/-- puts the edge of a nonce into the table; an anomaly is counted and changes nothing else -/
def insertNonce (job : Job) (nonce : UInt32) (b : Board) : Attempt × Board :=
  let u := job.arena.graph.address nonce .a
  let v := job.arena.graph.address nonce .b
  match b.table.plan Table.maxPathLength u v with
  | .error _ => (.nothing, b.count .addError)
  | .ok .present => (.nothing, b)
  | .ok (.close us vs) => closeCycle job us vs b
  | .ok (.join path partner) =>
    let ⟨table, stopped, counters, found⟩ := b
    (.nothing, ⟨table.relink path partner, stopped, counters, found⟩)

/-- when a turn looks at the stop flag, if that is raised during the turn -/
inductive Timing where
  /-- afterwards, already when it begins -/
  | prompt
  /-- before that when it begins, and afterwards when a cycle has closed -/
  | late
  /-- before that both times -/
  | overdue
  deriving DecidableEq, Repr, Inhabited

structure Worker where
  /-- the nonce to try next -/
  next : UInt64
  /-- edges tried but not yet counted -/
  pending : UInt64
  /-- how it has ended, if it has -/
  exit : Option Exit
  deriving DecidableEq, Repr, Inhabited

namespace Worker

/-- how many edges are counted at once -/
def batch : UInt64 := 65536

def start (index : UInt64) : Worker := ⟨index, 0, none⟩

/-- ends a worker and counts its pending edges -/
def finish (w : Worker) (exit : Exit) (b : Board) : Worker × Board :=
  ({ w with pending := 0, exit := some exit }, b.count (·.addEdges w.pending))

/-- one more edge tried; a full batch is counted -/
def tally (w : Worker) (b : Board) : Worker × Board :=
  if w.pending + 1 = batch then
    ({ w with pending := 0 }, b.count (·.addEdges (w.pending + 1)))
  else ({ w with pending := w.pending + 1 }, b)

/-- one turn of a worker that finds itself told to stop, or not, when it begins; one that has ended
does nothing more -/
def act (job : Job) (told : Bool) (w : Worker) (b : Board) : Worker × Board :=
  if w.exit.isSome then (w, b)
  else if told then w.finish .stopped b
  else if job.arena.easiness.toUInt64 ≤ w.next then w.finish .exhausted b
  else
    let w' := { w with next := w.next + job.arena.stride }
    match insertNonce job w.next.toUInt32 b with
    | (.solved s, b) => w'.finish (.solved s) b
    | (.nothing, b) => w'.tally b

/-- one turn of a worker that looks at the flag as it stands -/
def step (job : Job) (w : Worker) (b : Board) : Worker × Board := act job b.stopped w b

/-- one turn of a worker that may be told to stop meanwhile; an overdue turn leaves the flag up only
if it has raised it itself -/
def stepAt (job : Job) (t : Timing) (w : Worker) (b : Board) : Worker × Board :=
  match t with
  | .prompt => act job b.stopped w b
  | .late => act job false w b
  | .overdue => act job false w { b with stopped := false }

def runFor (job : Job) : Nat → Worker → Board → Worker × Board
  | 0, w, b => if w.exit.isSome then (w, b) else w.finish .exhausted b
  | turns + 1, w, b =>
    if w.exit.isSome then (w, b)
    else
      let (w, b) := w.step job b
      runFor job turns w b

def run (job : Job) (index : UInt64) (b : Board) : Worker × Board :=
  runFor job (job.arena.easiness.toNat + 1) (start index) b

end Worker

end CycleMiner
