import CycleMiner.Bytes
import CycleMiner.Settings

/-!
# What a program asks of its surroundings

A program reads and writes files, writes lines of output, looks at clocks, and mines.  All of this is
asked of a host, in whatever monad the host works; so the same program runs on a machine and on
files that are only imagined.

* `FileFault`   why an operation on a file fails;
* `Host`        the surroundings.
-/

namespace CycleMiner

inductive FileFault where
  | notFound
  | denied
  | notDirectory
  | isDirectory
  | noSpace
  /-- a path or a name in it is too long -/
  | tooLong
  /-- a path holds the character with number 0 -/
  | zeroByte
  /-- something else, with its number -/
  | other (code : Nat) (text : String)
  deriving DecidableEq, Repr, Inhabited

namespace FileFault

def code? : FileFault → Option Nat
  | notFound => some 2
  | denied => some 13
  | notDirectory => some 20
  | isDirectory => some 21
  | noSpace => some 28
  | tooLong => some 36
  | zeroByte => none
  | other code _ => some code

def kind : FileFault → String
  | notFound => "NotFound"
  | denied => "PermissionDenied"
  | notDirectory => "NotADirectory"
  | isDirectory => "IsADirectory"
  | noSpace => "StorageFull"
  | tooLong => "InvalidFilename"
  | zeroByte => "InvalidInput"
  | other _ _ => "Uncategorized"

def text : FileFault → String
  | notFound => "No such file or directory"
  | denied => "Permission denied"
  | notDirectory => "Not a directory"
  | isDirectory => "Is a directory"
  | noSpace => "No space left on device"
  | tooLong => "File name too long"
  | zeroByte => "file name contained an unexpected NUL byte"
  | other _ text => text

def message (f : FileFault) : String :=
  match f.code? with
  | some n => f.text ++ " (os error " ++ toString n ++ ")"
  | none => f.text

/-- all there is to say about a fault -/
def details (f : FileFault) : String :=
  let rest := "kind: " ++ f.kind ++ ", message: " ++ Text.quoted f.text ++ " \x7d"
  match f.code? with
  | some n => "Os \x7b code: " ++ toString n ++ ", " ++ rest
  | none => "Error \x7b " ++ rest

end FileFault

/-- the surroundings of a program -/
structure Host (m : Type → Type) where
  /-- how many threads the machine runs at once -/
  cores : Nat
  read : String → m (Except FileFault Bytes)
  write : String → String → m (Except FileFault Unit)
  /-- writes a line of output -/
  print : String → m Unit
  /-- nanoseconds since some moment in the past -/
  clock : m Nat
  /-- a time stamp for templates, in seconds -/
  date : m UInt32
  /-- mines with settings that have been checked until it is stopped -/
  mine : Settings → m (Except Fault Unit)

end CycleMiner
