import CycleMiner.Decimal.Shortest
import CycleMiner.Json
import CycleMiner.Text.Quoted

/-!
# Records out of JSON values

A record is given as an object with a member for every field, or as an array with the fields in
their fixed order.  Unknown members do not matter; a field with a default may be left out.

* `DecodeFault`       why a value is not of the wanted kind;
* `Record`            a value opened as a record;
* `Record.field`      a field that has to be there;
* `Record.fieldOr`    a field with a default.

Of several faults in an object the one at the smallest key is told, and a field that is missing
only if all that are there are right.  In an array the first fault counts, a field that is missing
is told by its place, and items behind the last field come last.
-/

namespace CycleMiner

inductive DecodeFault where
  /-- the value is of another kind -/
  | kind (actual expected : String)
  /-- a whole number that does not fit -/
  | range (n : Int) (expected : String)
  /-- a member that has to be there is not -/
  | missing (field : String)
  /-- an array ends before the field at this place -/
  | tooShort (place : Nat) (record : String) (fields : Nat)
  /-- an array goes on behind the last field -/
  | tooLong (length : Nat)
  deriving DecidableEq, Repr, Inhabited

namespace DecodeFault

def message : DecodeFault → String
  | kind actual expected => "invalid type: " ++ actual ++ ", expected " ++ expected
  | range n expected => "invalid value: integer `" ++ toString n ++ "`, expected " ++ expected
  | missing field => "missing field `" ++ field ++ "`"
  | tooShort place record fields =>
    "invalid length " ++ toString place ++ ", expected struct " ++ record ++ " with " ++
      toString fields ++ " elements"
  | tooLong length => "invalid length " ++ toString length ++ ", expected fewer elements in array"

end DecodeFault

namespace Json

/-- what a value is called when another kind was wanted -/
def describe : Json → String
  | null => "null"
  | bool b => "boolean `" ++ (if b then "true" else "false") ++ "`"
  | int n => "integer `" ++ toString n ++ "`"
  | float x => "floating point `" ++ Decimal.compactText x ++ "`"
  | string s => "string " ++ Text.quoted s
  | array _ => "sequence"
  | object _ => "map"

/-- a natural number below `bound` -/
def readNat (bound : Nat) (expected : String) : Json → Except DecodeFault Nat
  | int n => if 0 ≤ n ∧ n < bound then .ok n.toNat else .error (.range n expected)
  | v => .error (.kind v.describe expected)

def readUInt32 (v : Json) : Except DecodeFault UInt32 :=
  (readNat UInt32.size "u32" v).map UInt32.ofNat

def readUInt64 (v : Json) : Except DecodeFault UInt64 :=
  (readNat UInt64.size "u64" v).map UInt64.ofNat

def readString : Json → Except DecodeFault String
  | string s => .ok s
  | v => .error (.kind v.describe "a string")

def readString? : Json → Except DecodeFault (Option String)
  | null => .ok none
  | v => (readString v).map some

def readBool : Json → Except DecodeFault Bool
  | bool b => .ok b
  | v => .error (.kind v.describe "a boolean")

def readAll {α : Type} (read : Json → Except DecodeFault α) :
    List Json → Except DecodeFault (List α)
  | [] => .ok []
  | v :: rest =>
    match read v with
    | .error f => .error f
    | .ok a =>
      match readAll read rest with
      | .error f => .error f
      | .ok as => .ok (a :: as)

def readList {α : Type} (read : Json → Except DecodeFault α) : Json → Except DecodeFault (List α)
  | array items => readAll read items
  | v => .error (.kind v.describe "a sequence")

end Json

/-- the name of a kind of record and its fields in their order, each with what its value has to
be -/
structure RecordShape where
  name : String
  fields : List (String × (Json → Except DecodeFault Unit))

inductive Record where
  | members (members : List (String × Json))
  | items (shape : RecordShape) (items : List Json)

namespace Record

/-- looks at the members one after the other, for the first that is not what its field has to be -/
def checkMembers (shape : RecordShape) : List (String × Json) → Except DecodeFault Unit
  | [] => .ok ()
  | (key, v) :: rest =>
    match shape.fields.find? fun f => f.1 == key with
    | none => checkMembers shape rest
    | some f =>
      match f.2 v with
      | .error e => .error e
      | .ok () => checkMembers shape rest

def open? (shape : RecordShape) : Json → Except DecodeFault Record
  | .object ms => (checkMembers shape (Json.sorted ms)).map fun _ => members (Json.sorted ms)
  | .array vs => .ok (items shape vs)
  | v => .error (.kind v.describe ("struct " ++ shape.name))

/-- the value of a field, by its place and its key -/
def value? (place : Nat) (key : String) : Record → Option Json
  | members ms => (ms.find? fun m => m.1 == key).map (·.2)
  | items _ vs => vs[place]?

def absent (place : Nat) (key : String) : Record → DecodeFault
  | members _ => .missing key
  | items shape _ => .tooShort place shape.name shape.fields.length

def field {α : Type} (r : Record) (place : Nat) (key : String)
    (read : Json → Except DecodeFault α) : Except DecodeFault α :=
  match r.value? place key with
  | some v => read v
  | none => .error (r.absent place key)

def fieldOr {α : Type} (r : Record) (place : Nat) (key : String)
    (read : Json → Except DecodeFault α) (default : α) : Except DecodeFault α :=
  match r.value? place key with
  | some v => read v
  | none => .ok default

/-- a record that was read, unless an array goes on behind its last field -/
def close {α : Type} (r : Record) (a : α) : Except DecodeFault α :=
  match r with
  | members _ => .ok a
  | items shape vs =>
    if shape.fields.length < vs.length then .error (.tooLong vs.length) else .ok a

end Record

def ignoring {α : Type} (read : Json → Except DecodeFault α) (v : Json) : Except DecodeFault Unit :=
  (read v).map fun _ => ()

end CycleMiner
