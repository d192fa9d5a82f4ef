import CycleMiner.CommandLine

/-!
# Help

What the program says about itself and its commands.

* `Help.versionLine`   its name and version;
* `Help.lines`         help on a command, or on all.

Help on a command names its options, each with what it stands for and, where there is one, the
value it has if it is not given.  Entries and explanations stand in two columns.
-/

namespace CycleMiner.Help

def program : String := "cuckoo-miner-rs"

def versionLine : String := program ++ " 0.1.0"

/-- entries and their explanations in two columns -/
def columns (rows : List (String × String)) : List String :=
  let width := (rows.map fun r => r.1.length).foldl max 0
  rows.map fun r =>
    "  " ++ r.1 ++ String.ofList (List.replicate (width - r.1.length + 2) ' ') ++ r.2

/-- the name that help gives to the value of an option -/
def valueName (word : String) : String :=
  String.ofList (word.toList.map fun c => if c = '-' then '_' else c.toUpper)

def row {α : Type} (rule : OptionRule α) (default : Option String) : String × String :=
  ("-" ++ rule.letter.toString ++ ", --" ++ rule.word ++ " <" ++ valueName rule.word ++ ">",
    rule.about ++ match default with
      | some d => " [default: " ++ d ++ "]"
      | none => "")

/-- the rows of options, with the values they have if they are not given -/
def rows {α : Type} (rules : List (OptionRule α)) (defaults : List (Option String)) :
    List (String × String) :=
  List.zipWith row rules defaults

def helpRow : String × String := ("-h, --help", "Print help")

def about : String → String
  | "start" => "Start mining against a node"
  | "benchmark" => "Measure solver throughput on synthetic work"
  | "config" => "Generate configuration file template"
  | _ => "Print this message or the help of the given subcommand(s)"

/-- the rows of the options of a command, on a machine that runs so many threads at once -/
def optionRows (cores : Nat) (command : String) : List (String × String) :=
  match command with
  | "start" => rows Command.startRules [some Command.defaultPath, none]
  | "benchmark" =>
    let d := Command.defaultBenchmark
    rows Command.benchmarkRules
      [some (toString d.edgeBits.toNat), some (toString d.proofSize), some (toString d.duration),
        some (toString cores)]
  | _ => rows Command.configRules [some Command.defaultPath]

def commandLines (cores : Nat) (command : String) : List String :=
  if command = "help" then
    [about command, "", "Usage: " ++ program ++ " help [COMMAND]...", "", "Arguments:"] ++
      columns [("[COMMAND]...", "Print help for the subcommand(s)")]
  else
    [about command, "", "Usage: " ++ program ++ " " ++ command ++ " [OPTIONS]", "", "Options:"] ++
      columns (optionRows cores command ++ [helpRow])

def programLines : List String :=
  ["Cuckoo Miner CLI - Cuckoo Cycle proof-of-work miner in Rust", "",
    "Usage: " ++ program ++ " <COMMAND>", "", "Commands:"] ++
  columns (Command.names.map fun name => (name, about name)) ++ ["", "Options:"] ++
  columns [helpRow, ("-V, --version", "Print version")]

def lines (cores : Nat) : Option String → List String
  | some command => commandLines cores command
  | none => programLines

end CycleMiner.Help
