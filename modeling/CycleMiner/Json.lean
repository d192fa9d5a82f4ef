/-!
# JSON values

Numbers keep apart what is whole and what is not: a whole number fits a signed or an unsigned word
of 64 bits, everything else is a double.  The members of an object stand in the order of their keys
if the object was read from a text; objects that are built by the library stand as they were built.

* `Json.insert`      puts a member in its place, in the order of keys, the newest of one key;
* `Json.member?`     the value of a key.
-/

namespace CycleMiner

inductive Json where
  | null
  | bool (b : Bool)
  /-- a whole number -/
  | int (n : Int)
  | float (x : Float)
  | string (s : String)
  | array (items : List Json)
  | object (members : List (String × Json))
  deriving Inhabited

namespace Json

/-- puts a member in its place among members in the order of their keys -/
def insert (key : String) (value : Json) : List (String × Json) → List (String × Json)
  | [] => [(key, value)]
  | (k, v) :: rest =>
    if key < k then (key, value) :: (k, v) :: rest
    else if key = k then (key, value) :: rest
    else (k, v) :: insert key value rest

/-- members in the order of their keys, the last of each key -/
def sorted (members : List (String × Json)) : List (String × Json) :=
  members.foldl (fun done m => insert m.1 m.2 done) []

def member? (key : String) : Json → Option Json
  | object members => (members.find? fun m => m.1 == key).map (·.2)
  | _ => none

def isNull : Json → Bool
  | null => true
  | _ => false

def nat (n : Nat) : Json := int n

end Json

end CycleMiner
