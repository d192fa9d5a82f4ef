import CycleMiner.CommandLine.Options
import CycleMiner.Params

/-!
# The command line

The program has three commands: it mines, it measures how fast it searches, or it writes a file of
settings to start from.

* `Command`          a command with its options;
* `Command.parse`    the command that arguments name.

Numbers are decimal, with a sign if need be; a path is anything but nothing.
-/

namespace CycleMiner

/-- what mining is started with -/
structure StartOptions where
  /-- the file of settings -/
  config : String
  /-- threads, in place of those of the settings -/
  workers : Option Nat
  deriving DecidableEq, Repr, Inhabited

/-- what speed is measured with -/
structure BenchmarkOptions where
  edgeBits : UInt8
  proofSize : Nat
  /-- in seconds -/
  duration : Nat
  /-- none for one thread per core -/
  threads : Option Nat
  deriving DecidableEq, Repr, Inhabited

inductive Command where
  | start (options : StartOptions)
  | benchmark (options : BenchmarkOptions)
  /-- writes a file of settings to start from -/
  | config (output : String)
  deriving DecidableEq, Repr, Inhabited

namespace Command

def readDigits (cs : List Char) : Option Nat :=
  if cs.isEmpty ∨ !cs.all (fun c => '0' ≤ c && c ≤ '9') then none
  else some (cs.foldl (fun n c => 10 * n + (c.toNat - 48)) 0)

/-- a number below `bound`; a plus sign may stand before it -/
def readNat (bound : Nat) (text : String) : Except UsageFault Nat :=
  let digits := match text.toList with
    | '+' :: cs => cs
    | cs => cs
  match readDigits digits with
  | some n => if n < bound then .ok n else .error .badValue
  | none => .error .badValue

/-- a number below 256; either sign may stand before it -/
def readByte (text : String) : Except UsageFault UInt8 :=
  match text.toList with
  | '-' :: cs => if readDigits cs = some 0 then .ok 0 else .error .badValue
  | _ => (readNat UInt8.size text).map UInt8.ofNat

def readPath (text : String) : Except UsageFault String :=
  if text.isEmpty then .error .missingValue else .ok text

def startRules : List (OptionRule StartOptions) :=
  [⟨'c', "config", "Path to configuration file",
     fun v o => (readPath v).map fun p => { o with config := p }⟩,
   ⟨'w', "workers", "Number of worker threads to use (overrides config)",
     fun v o => (readNat UInt64.size v).map fun n => { o with workers := some n }⟩]

def benchmarkRules : List (OptionRule BenchmarkOptions) :=
  [⟨'e', "edge-bits", "log2 of the nodes in each graph partition",
     fun v o => (readByte v).map fun n => { o with edgeBits := n }⟩,
   ⟨'p', "proof-size", "Required cycle length",
     fun v o => (readNat UInt64.size v).map fun n => { o with proofSize := n }⟩,
   ⟨'d', "duration", "Duration of benchmark in seconds",
     fun v o => (readNat UInt64.size v).map fun n => { o with duration := n }⟩,
   ⟨'t', "threads", "Number of threads to use",
     fun v o => (readNat UInt64.size v).map fun n => { o with threads := some n }⟩]

def configRules : List (OptionRule String) :=
  [⟨'o', "output", "Output file path", fun v _ => readPath v⟩]

def defaultPath : String := "config.toml"

def defaultBenchmark : BenchmarkOptions :=
  ⟨UInt8.ofNat Params.standard.edgeBits, Params.standard.proofSize, 60, none⟩

/-- the names of the commands, and of the one that shows help -/
def names : List String := ["start", "benchmark", "config", "help"]

/-- help was asked for, on the commands with these names -/
def helpOn : List String → UsageFault
  | [] => .help none
  | [name] => if names.contains name then .help (some name) else .unknownCommand
  | _ => .unknownCommand

/-- a word with two hyphens stands where the name of a command should -/
def topWord (cs : List Char) : UsageFault :=
  let name := String.ofList (cs.takeWhile (· ≠ '='))
  if name = "help" ∨ name = "version" then
    if cs.contains '=' then .needlessValue
    else if name = "help" then .help none
    else .version
  else .unknownArgument

/-- a letter with one hyphen stands where the name of a command should -/
def topLetter (letter : Char) : UsageFault :=
  if letter = 'h' then .help none else if letter = 'V' then .version else .unknownArgument

def parse : List String → Except UsageFault Command
  | [] => .error .noCommand
  | "start" :: args => (OptionRule.read "start" startRules ⟨defaultPath, none⟩ args).map .start
  | "benchmark" :: args =>
    (OptionRule.read "benchmark" benchmarkRules defaultBenchmark args).map .benchmark
  | "config" :: args => (OptionRule.read "config" configRules defaultPath args).map .config
  | "help" :: args => .error (helpOn args)
  | "--" :: [] => .error .noCommand
  | "--" :: arg :: _ =>
    .error (if names.contains arg then .unknownArgument else .unknownCommand)
  | arg :: _ =>
    match arg.toList with
    | '-' :: '-' :: cs => .error (topWord cs)
    | '-' :: letter :: _ => .error (topLetter letter)
    | _ => .error .unknownCommand

end Command

end CycleMiner
