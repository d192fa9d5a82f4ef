/-!
# Log lines

A part of the miner reports by notices of its own; a notice has a level and a text.
-/

namespace CycleMiner

/-- how much a notice matters -/
inductive Level where
  | debug
  | info
  | warn
  | error
  deriving DecidableEq, Repr, Inhabited

def Level.word : Level → String
  | debug => "DEBUG"
  | info => "INFO"
  | warn => "WARN"
  | error => "ERROR"

def Level.line (l : Level) (text : String) : String := l.word ++ " " ++ text

end CycleMiner
