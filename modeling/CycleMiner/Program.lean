import CycleMiner.Benchmark
import CycleMiner.CommandLine.Help
import CycleMiner.Host
import CycleMiner.Settings.Reader
import CycleMiner.Settings.Sample

/-!
# The program

One run of the program from its arguments to its exit code.

* `Failure`        what a run can fail by, and the line it leaves behind;
* `Outcome`        how a run ends;
* `Program.run`    the run.

A run that fails ends with code 1 and one line about the fault; a command line that cannot be used
ends with code 2.  Help and version are shown and are no fault.  A benchmark goes on until its time
is up; it counts its graphs in a word of 64 bits and stops there at the latest.
-/

namespace CycleMiner

inductive Failure where
  | fault (f : Fault)
  | file (f : FileFault)
  deriving DecidableEq, Repr

/-- the line a failed run leaves behind -/
def Failure.line : Failure → String
  | fault f => "Error: " ++ f.kind ++ "(" ++ Text.quoted f.detail ++ ")"
  | file f => "Error: IoError(" ++ f.details ++ ")"

inductive Outcome where
  | done
  | failed (f : Failure)
  | usage (f : UsageFault)
  deriving DecidableEq, Repr

namespace Outcome

def code : Outcome → UInt32
  | done => 0
  | failed _ => 1
  | usage (.help _) | usage .version => 0
  | usage _ => 2

/-- the outcome of something that can fail by a fault -/
def ofFault : Except Fault Unit → Outcome
  | .ok () => .done
  | .error f => .failed (.fault f)

end Outcome

namespace Program

variable {m : Type → Type} [Monad m]

def printAll (host : Host m) : List String → m Unit
  | [] => pure ()
  | line :: rest => do
    host.print line
    printAll host rest

/-- the settings that mining starts with: those of the file, with what the command line says -/
def settingsOf (options : StartOptions) (contents : Except FileFault Bytes) :
    Except Fault Settings :=
  (Settings.load options.config (contents.mapError (·.message))).map fun s =>
    match options.workers with
    | some n => { s with workerThreads := some n }
    | none => s

def start (host : Host m) (options : StartOptions) : m Outcome := do
  match settingsOf options (← host.read options.config) with
  | .error f => return .failed (.fault f)
  | .ok settings => return .ofFault (← host.mine settings)

/-- searches graph after graph, at most so many, until the time is up -/
def searchUntil (host : Host m) (deadline : Nat) : Nat → Benchmark → m Benchmark
  | 0, b => pure b
  | limit + 1, b => do
    if (← host.clock) < deadline then
      let b := b.search
      printAll host b.lines
      searchUntil host deadline limit b
    else return b

def benchmark (host : Host m) (options : BenchmarkOptions) : m Outcome := do
  let threads := options.threads.getD host.cores
  match Benchmark.make options threads (← host.date) with
  | .error f => return .failed (.fault f)
  | .ok b =>
    printAll host (Benchmark.opening options threads)
    let begun ← host.clock
    let b ← searchUntil host (begun + options.duration * 1000000000) UInt64.size b
    printAll host (b.closing ((← host.clock) - begun))
    return .done

/-- writes a file of settings to start from -/
def config (host : Host m) (output : String) : m Outcome := do
  match ← host.write output Settings.sample with
  | .ok () => return .done
  | .error f => return .failed (.file f)

/-- what is shown for a command line that names no command to run -/
def shown (cores : Nat) : UsageFault → List String
  | .help command => Help.lines cores command
  | .version => [Help.versionLine]
  | _ => []

def run (host : Host m) (args : List String) : m Outcome :=
  match Command.parse args with
  | .error f => do
    printAll host (shown host.cores f)
    return .usage f
  | .ok (.start options) => start host options
  | .ok (.benchmark options) => benchmark host options
  | .ok (.config output) => config host output

end Program

end CycleMiner
