import CycleMiner.Host

/-!
# A host with one folder

A host whose files are only imagined: one folder of files, in which the program works, and around
it a few directories of a usual machine.  Its clocks stand still, its output is kept, and mining
ends at once for want of a network.

* `Folder`         the files, and the output so far;
* `Folder.walk`    where a path leads;
* `Folder.read`, `Folder.write`   what is in a file, and a file with something else in it;
* `Folder.host`    the host.

A path is followed name by name.  Every name but the last must be one of a directory, and so must
the last if a slash stands behind it.  Names have at most 255 bytes and paths at most 4095.
-/

namespace CycleMiner

structure Folder where
  files : List (String × Bytes)
  lines : List String

namespace Folder

/-- where a path can lead -/
inductive Place where
  /-- the folder itself -/
  | folder
  | root
  | devices
  /-- a directory of which nothing is known -/
  | elsewhere
  /-- a file in the folder -/
  | file (name : String)
  /-- a device that swallows everything -/
  | sink
  /-- a device that takes nothing -/
  | full
  /-- the output of the program -/
  | output
  deriving DecidableEq, Repr

def Place.isDirectory : Place → Bool
  | folder | root | devices | elsewhere => true
  | _ => false

def Place.parent : Place → Place
  | root | devices => root
  | _ => elsewhere

/-- the directories at the root of a usual machine -/
def topNames : List String :=
  ["bin", "boot", "etc", "home", "lib", "mnt", "opt", "proc", "root", "run", "sbin", "srv", "sys",
    "tmp", "usr", "var"]

def lookup (d : Folder) (name : String) : Place → Option Place
  | .folder => if d.files.any fun f => f.1 == name then some (.file name) else none
  | .root =>
    if name = "dev" then some .devices
    else if topNames.contains name then some .elsewhere
    else none
  | .devices =>
    if name = "null" then some .sink
    else if name = "full" then some .full
    else if name = "stdout" then some .output
    else none
  | _ => none

/-- where names lead from a place -/
def walk (d : Folder) : Place → List String → Except FileFault Place
  | p, [] => .ok p
  | p, name :: rest =>
    if !p.isDirectory then .error .notDirectory
    else if name = "" ∨ name = "." then walk d p rest
    else if name = ".." then walk d p.parent rest
    else if 255 < name.utf8ByteSize then .error .tooLong
    else
      match d.lookup name p with
      | some q => walk d q rest
      | none => .error .notFound

/-- the names of a path, if it can be followed at all -/
def names (path : String) : Except FileFault (List String) :=
  if path.contains '\x00' then .error .zeroByte
  else if path = "" then .error .notFound
  else if 4096 ≤ path.utf8ByteSize then .error .tooLong
  else .ok (path.splitOn "/")

def start (path : String) : Place := if path.startsWith "/" then .root else .folder

def read (d : Folder) (path : String) : Except FileFault Bytes :=
  match names path with
  | .error f => .error f
  | .ok ns =>
    match d.walk (start path) ns with
    | .error f => .error f
    | .ok (.file name) => .ok ((d.files.find? fun f => f.1 == name).elim [] (·.2))
    | .ok p => if p.isDirectory then .error .isDirectory else .ok []

/-- the folder with a file in it in place of one of the same name -/
def put (d : Folder) (name text : String) : Folder :=
  { d with files := d.files.filter (fun f => f.1 != name) ++ [(name, Bytes.ofText text)] }

def writeTo (d : Folder) (p : Place) (name text : String) : Except FileFault Folder :=
  if !p.isDirectory then .error .notDirectory
  else if ["", ".", ".."].contains name then .error .isDirectory
  else if 255 < name.utf8ByteSize then .error .tooLong
  else
    match d.lookup name p with
    | none => .ok (if p = .folder then d.put name text else d)
    | some (.file name) => .ok (d.put name text)
    | some .sink => .ok d
    | some .full => .error .noSpace
    | some .output => .ok { d with lines := d.lines ++ (text.splitOn "\n").dropLast }
    | some _ => .error .isDirectory

/-- names without the empty ones at the end, and whether there were any -/
def withoutSlash (ns : List String) : List String × Bool :=
  let own := (ns.reverse.dropWhile (· = "")).reverse
  (own, own.length < ns.length)

/-- what writing to a path does; a slash behind the last name asks for a directory -/
def write (d : Folder) (path text : String) : Except FileFault Folder :=
  match names path with
  | .error f => .error f
  | .ok ns =>
    let (own, slash) := withoutSlash ns
    match d.walk (start path) own.dropLast with
    | .error f => .error f
    | .ok p => d.writeTo p (if slash then "" else own.getLast?.getD "") text

def host : Host (StateM Folder) where
  cores := 1
  read path := return (← get).read path
  write path text := modifyGet fun d => match d.write path text with
    | .ok d' => (.ok (), d')
    | .error f => (.error f, d)
  print line := modify fun d => { d with lines := d.lines ++ [line] }
  clock := return 0
  date := return 1700000000
  mine _ := return .error (.connection "there is no network")

end Folder

end CycleMiner
