import CycleMiner.Program

/-!
# The executable

Runs the program on the machine it stands on.  The executable itself speaks to no network: mining
ends with a fault as soon as the node would have to be asked.
-/

namespace CycleMiner.Main

def fileFault : IO.Error → FileFault
  | .noFileOrDirectory .. => .notFound
  | .permissionDenied .. => .denied
  | .inappropriateType _ code text =>
    if code = 21 then .isDirectory else if code = 20 then .notDirectory else .other code.toNat text
  | e => .other 5 (toString e)

def attempt {α : Type} (act : IO α) : IO (Except FileFault α) := do
  match ← act.toBaseIO with
  | .ok a => return .ok a
  | .error e => return .error (fileFault e)

/-- the machine the program stands on -/
def machine : Host IO where
  cores := 1
  read path := attempt do return (← IO.FS.readBinFile path).toList
  write path text := attempt (IO.FS.writeFile path text)
  print := IO.println
  clock := IO.monoNanosNow
  date := return UInt32.ofNat ((← IO.monoMsNow) / 1000)
  mine _ := return .error (.connection "this program has no network")

/-- tells how a run ended -/
def report : Outcome → IO Unit
  | .done | .usage (.help _) | .usage .version => pure ()
  | .failed f => IO.eprintln f.line
  | .usage _ => (Help.lines 1 none).forM IO.eprintln

end CycleMiner.Main

def main (args : List String) : IO UInt32 := do
  let outcome ← CycleMiner.Program.run CycleMiner.Main.machine args
  CycleMiner.Main.report outcome
  return outcome.code
