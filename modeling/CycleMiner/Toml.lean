/-!
# TOML values

What a TOML text says.  Fractions and dates are kept as they were written: no setting is one.

A table remembers how it came to be, because this decides what may still be added to it.

* `inline`    written in braces, and closed with them;
* `header`    opened by a header of its own;
* `passing`   passed by a longer header, and still to be opened by its own;
* `dotted`    passed by a dotted key, and open to further dotted keys.
-/

namespace CycleMiner

/-- how a table came to be -/
inductive Toml.Origin where
  | inline
  | header
  | passing
  | dotted
  deriving DecidableEq, Repr, Inhabited

inductive Toml where
  | string (s : String)
  | int (n : Int)
  | real (text : String)
  | date (text : String)
  | bool (b : Bool)
  | array (items : List Toml)
  | table (origin : Toml.Origin) (members : List (String × Toml))
  /-- tables that share a header, the newest first -/
  | tables (items : List (List (String × Toml)))
  deriving Inhabited

namespace Toml

abbrev Members := List (String × Toml)

def member? (key : String) (ms : Members) : Option Toml := (ms.find? fun m => m.1 == key).map (·.2)

/-- puts a value in the place of the member with a key, or behind all others if there is none -/
def set (key : String) (v : Toml) : Members → Members
  | [] => [(key, v)]
  | m :: rest => if m.1 == key then (key, v) :: rest else m :: set key v rest

end Toml

end CycleMiner
