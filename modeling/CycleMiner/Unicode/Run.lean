import CycleMiner.Text.Radix

/-!
# Runs of characters

Properties of characters are kept as runs: stretches of character numbers that share a value, in
ascending order.  A table of runs is written as lines of words.  A word holds the first number of a
run in base 16, the last one behind a hyphen unless it is the same, and then whatever stands for
the value.

* `Run`          a stretch of numbers and its value;
* `Run.read`     the run a word spells, its value as it is written;
* `Run.table`    the runs of lines of words;
* `Run.find?`    the run a character lies in, found by halving.
-/

namespace CycleMiner.Unicode

/-- a stretch of character numbers that share a value -/
structure Run (α : Type) where
  first : Nat
  last : Nat
  value : α
  deriving DecidableEq, Repr

namespace Run

variable {α : Type}

/-- the number spelt by the digits a text starts with, behind those of `n`, and what follows -/
def number (n : Nat) : List Char → Nat × List Char
  | [] => (n, [])
  | c :: rest =>
    match Text.hexDigit c with
    | some d => number (16 * n + d) rest
    | none => (n, c :: rest)

def read (word : String) : Run (List Char) :=
  match number 0 word.toList with
  | (first, '-' :: rest) => let (last, value) := number 0 rest; ⟨first, last, value⟩
  | (first, value) => ⟨first, first, value⟩

def table (value : List Char → α) (lines : List String) : Array (Run α) :=
  (lines.flatMap fun line => (line.splitOn " ").map fun word =>
    let r := read word
    ⟨r.first, r.last, value r.value⟩).toArray

/-- the run a number lies in, among those from place `low` to before place `high` -/
def search (runs : Array (Run α)) (n low high : Nat) : Option (Run α) :=
  if low < high then
    match runs[(low + high) / 2]? with
    | none => none
    | some r =>
      if n < r.first then search runs n low ((low + high) / 2)
      else if r.last < n then search runs n ((low + high) / 2 + 1) high
      else some r
  else none
termination_by high - low
decreasing_by all_goals omega

def find? (runs : Array (Run α)) (c : Char) : Option (Run α) := search runs c.toNat 0 runs.size

def valueAt (runs : Array (Run α)) (other : α) (c : Char) : α :=
  match find? runs c with
  | some r => r.value
  | none => other

end Run

end CycleMiner.Unicode
