import CycleMiner.CommandLine
import CycleMiner.Decimal.Fixed
import CycleMiner.Scheduler.Machine

/-!
# Measuring speed

A benchmark searches graph after graph for work that every cycle is good enough for, and then says
how many graphs and edges it got through.

* `Benchmark.make`      a benchmark before its first graph;
* `Benchmark.search`    one more graph;
* `Benchmark.lines`     what was reported about the last graph;
* `Benchmark.opening`, `Benchmark.closing`   what is reported before the first graph and after the
  last.
-/

namespace CycleMiner

structure Benchmark where
  machine : Machine
  item : WorkItem
  /-- the graphs searched so far -/
  graphs : Nat

namespace Benchmark

def template (date : UInt32) : Template :=
  { version := 1
    previousHash := String.join (List.replicate 32 "00")
    transactions := []
    coinbaseValue := 0
    longPollId := none
    time := date
    bits := "207fffff"
    height := 1
    payments := []
    paymentsStarted := false
    payload := none }

def preferences : Preferences := ⟨[0x51], Bytes.ofText "benchmark", []⟩

/-- a benchmark before its first graph; the size of the graphs is looked at before the number of
threads -/
def make (options : BenchmarkOptions) (threads : Nat) (date : UInt32) : Except Fault Benchmark :=
  match Params.make options.edgeBits.toNat options.proofSize with
  | .error f => .error (.settings (.params f))
  | .ok params =>
    match Work.ofTemplate (template date) preferences with
    | .error f => .error (.input f)
    | .ok work =>
      match Scheduler.make params params.defaultEasiness (UInt64.ofNat threads) with
      | .error f => .error (.settings f)
      | .ok s =>
        let item : WorkItem := ⟨0, work.withTarget Target.max⟩
        .ok ⟨Machine.ofScheduler (s.updateWork item), item, 0⟩

/-- searches one more graph; what the scheduler reported before is forgotten -/
def search (b : Benchmark) : Benchmark :=
  let ⟨⟨s, mailbox, phase, solved⟩, item, graphs⟩ := b
  ⟨Machine.runJob ⟨{ s with journal := [] }, mailbox, phase, solved⟩ item, item, graphs + 1⟩

def lines (b : Benchmark) : List String := b.machine.scheduler.journal.map ScheduleNotice.line

def opening (options : BenchmarkOptions) (threads : Nat) : List String :=
  [Level.info.line
    ("Starting Cuckoo Cycle benchmark (edge bits " ++ toString options.edgeBits.toNat ++
      ", proof size " ++ toString options.proofSize ++ ", " ++ toString threads ++
      " threads) for " ++ toString options.duration ++ " seconds")]

/-- what is reported after the last graph, when so many nanoseconds have passed -/
def closing (b : Benchmark) (elapsed : Nat) : List String :=
  let seconds := max (Float.ofNat elapsed / 1e9) (Float.ofScientific 2220446049250313 true 31)
  let c := b.machine.scheduler.counters
  let graphRate := Float.ofNat b.graphs / seconds
  let edgeRate := c.edges.toFloat / seconds / 1e6
  [Level.debug.line "Stats reporter stopped",
   Level.info.line "Benchmark results:",
   Level.info.line ("Graphs searched: " ++ toString b.graphs ++ " (" ++
     Decimal.fixedText 3 graphRate ++ " graphs/s)"),
   Level.info.line ("Edges processed: " ++ toString c.edges.toNat ++ " (" ++
     Decimal.fixedText 2 edgeRate ++ " Medges/s)"),
   Level.info.line ("Cycles: " ++ toString c.cycles.toNat ++ " | Solutions: " ++
     toString c.solutions.toNat ++ " | Errors: " ++ toString c.errors.toNat ++ " | Proofs: " ++
     toString b.machine.scheduler.outbox.sent.length)]

end Benchmark

end CycleMiner
