/-!
# Options on a command line

An option has a letter, a word, and a way to take its value.  `-x value`, `-xvalue`, `-x=value`,
`--word value` and `--word=value` all give an option its value; no option is given twice.

* `UsageFault`       why a command line is refused, or shows something else;
* `OptionRule`       an option of a command whose settings are an `α`;
* `OptionRule.read`  the settings that options make of given ones.

A value that stands apart is taken when the next option comes or the line ends, so what is wrong
with it is told only then, and not at all if something else ends the reading first.
-/

namespace CycleMiner

inductive UsageFault where
  | unknownArgument
  /-- an option without a value, or with an empty one that may not be empty -/
  | missingValue
  /-- a value that cannot be read -/
  | badValue
  /-- a value for an option that takes none -/
  | needlessValue
  /-- an option that is given twice -/
  | repeated
  | unknownCommand
  | noCommand
  /-- not a fault: help is asked for, on a command or on all -/
  | help (command : Option String)
  /-- not a fault: the version is asked for -/
  | version
  deriving DecidableEq, Repr, Inhabited

/-- an option of a command whose settings are an `α` -/
structure OptionRule (α : Type) where
  letter : Char
  word : String
  /-- what help says about it -/
  about : String
  take : String → α → Except UsageFault α

namespace OptionRule

variable {α : Type}

structure Reading (α : Type) where
  settings : α
  /-- the letters of the options that have their values -/
  given : List Char
  /-- an option that stood apart from its value, and the value if it came -/
  waiting : Option (OptionRule α × Option String)

def Reading.give (r : Reading α) (rule : OptionRule α) (value : String) :
    Except UsageFault (Reading α) :=
  if r.given.contains rule.letter then .error .repeated
  else (rule.take value r.settings).map fun s => ⟨s, rule.letter :: r.given, none⟩

def Reading.settle (r : Reading α) : Except UsageFault (Reading α) :=
  match r.waiting with
  | none => .ok r
  | some (_, none) => .error .missingValue
  | some (rule, some value) => r.give rule value

/-- an option came, with its value or without -/
def Reading.meet (r : Reading α) (rule : OptionRule α) (value : Option String) :
    Except UsageFault (Reading α) :=
  match r.settle with
  | .error f => .error f
  | .ok r =>
    match value with
    | some v => r.give rule v
    | none => .ok { r with waiting := some (rule, none) }

def Reading.showHelp (r : Reading α) (command : String) : UsageFault :=
  match r.settle with
  | .error f => f
  | .ok _ => .help (some command)

/-- a word with two hyphens came -/
def readWord (command : String) (rules : List (OptionRule α)) (r : Reading α) (cs : List Char) :
    Except UsageFault (Reading α) :=
  let name := String.ofList (cs.takeWhile (· ≠ '='))
  let value := match cs.dropWhile (· ≠ '=') with
    | _ :: v => some (String.ofList v)
    | [] => none
  if name = "help" then .error (if value.isSome then .needlessValue else r.showHelp command)
  else
    match rules.find? fun rule => rule.word == name with
    | some rule => r.meet rule value
    | none => .error .unknownArgument

/-- a letter with one hyphen came, and what stood behind it -/
def readLetter (command : String) (rules : List (OptionRule α)) (r : Reading α) (letter : Char)
    (behind : List Char) : Except UsageFault (Reading α) :=
  if letter = 'h' then .error (r.showHelp command)
  else
    match rules.find? fun rule => rule.letter == letter with
    | none => .error .unknownArgument
    | some rule =>
      match behind with
      | [] => r.meet rule none
      | '=' :: v => r.meet rule (some (String.ofList v))
      | v => r.meet rule (some (String.ofList v))

/-- a text came that is no option -/
def readPlain (r : Reading α) (text : String) : Except UsageFault (Reading α) :=
  match r.waiting with
  | some (rule, none) => .ok { r with waiting := some (rule, some text) }
  | _ => .error .unknownArgument

def readAll (command : String) (rules : List (OptionRule α)) :
    Reading α → List String → Except UsageFault α
  | r, [] => r.settle.map (·.settings)
  | r, arg :: rest =>
    match arg.toList with
    | ['-', '-'] => if rest.isEmpty then r.settle.map (·.settings) else .error .unknownArgument
    | '-' :: '-' :: cs =>
      match readWord command rules r cs with
      | .error f => .error f
      | .ok r => readAll command rules r rest
    | '-' :: letter :: behind =>
      match readLetter command rules r letter behind with
      | .error f => .error f
      | .ok r => readAll command rules r rest
    | _ =>
      match readPlain r arg with
      | .error f => .error f
      | .ok r => readAll command rules r rest

def read (command : String) (rules : List (OptionRule α)) (settings : α) (args : List String) :
    Except UsageFault α :=
  readAll command rules ⟨settings, [], none⟩ args

end OptionRule

end CycleMiner
