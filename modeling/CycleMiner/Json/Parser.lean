import CycleMiner.Json.Number

/-!
# Reading JSON texts

One value, blanks around it, and nothing behind it.  Arrays and objects may stand in one another
127 deep.  A text that breaks a rule is refused as a whole; why is not told.

* `Json.scanString`   a string's characters up to its closing quote;
* `Json.scanNumber`   a number;
* `Json.parse?`       the whole text.

Every call of the readers of values, items and members spends one unit of a budget that is twice
the length of the text and more, and between two such calls at most one character is not passed, so
the budget never runs out before the text does.
-/

namespace CycleMiner.Json

def skipBlanks : List Char → List Char
  | c :: rest =>
    if c = ' ' ∨ c = '\n' ∨ c = '\t' ∨ c = '\r' then skipBlanks rest else c :: rest
  | [] => []

def isDigit (c : Char) : Bool := '0' ≤ c && c ≤ '9'

def hexValue (c : Char) : Option Nat :=
  if '0' ≤ c ∧ c ≤ '9' then some (c.toNat - 48)
  else if 'a' ≤ c ∧ c ≤ 'f' then some (c.toNat - 87)
  else if 'A' ≤ c ∧ c ≤ 'F' then some (c.toNat - 55)
  else none

/-- the number of four hexadecimal digits, and what follows -/
def fourDigits : List Char → Option (Nat × List Char)
  | a :: b :: c :: d :: rest =>
    match hexValue a, hexValue b, hexValue c, hexValue d with
    | some a, some b, some c, some d => some (4096 * a + 256 * b + 16 * c + d, rest)
    | _, _, _, _ => none
  | _ => none

/-- the character an escape with four digits names, and what follows; two such escapes together
name a character above `0xffff`, and half of such a pair names none -/
def unicodeEscape (cs : List Char) : Option (Char × List Char) :=
  match fourDigits cs with
  | none => none
  | some (n, rest) =>
    if n < 0xd800 ∨ 0xe000 ≤ n then some (Char.ofNat n, rest)
    else if 0xdc00 ≤ n then none
    else
      match rest with
      | '\\' :: 'u' :: rest =>
        match fourDigits rest with
        | none => none
        | some (m, rest) =>
          if 0xdc00 ≤ m ∧ m < 0xe000 then
            some (Char.ofNat (0x10000 + 1024 * (n - 0xd800) + (m - 0xdc00)), rest)
          else none
      | _ => none

def shortEscape (c : Char) : Option Char :=
  if c = '"' ∨ c = '\\' ∨ c = '/' then some c
  else if c = 'b' then some (Char.ofNat 8)
  else if c = 'f' then some (Char.ofNat 12)
  else if c = 'n' then some '\n'
  else if c = 'r' then some '\r'
  else if c = 't' then some '\t'
  else none

/-- the characters of a string up to its closing quote, and what follows; `seen` holds the
characters so far, the newest first -/
def scanString : Nat → List Char → List Char → Option (String × List Char)
  | 0, _, _ => none
  | budget + 1, seen, cs =>
    match cs with
    | [] => none
    | '"' :: rest => some (String.ofList seen.reverse, rest)
    | '\\' :: 'u' :: rest =>
      match unicodeEscape rest with
      | some (c, rest) => scanString budget (c :: seen) rest
      | none => none
    | '\\' :: e :: rest =>
      match shortEscape e with
      | some c => scanString budget (c :: seen) rest
      | none => none
    | c :: rest => if c.toNat < 32 ∨ c = '\\' then none else scanString budget (c :: seen) rest

/-- a power of ten, without its mark: whether it is negative, and its digits -/
def scanPower (cs : List Char) : Option ((Bool × List Char) × List Char) :=
  let (down, cs) := match cs with
    | '+' :: rest => (false, rest)
    | '-' :: rest => (true, rest)
    | _ => (false, cs)
  let digits := cs.takeWhile isDigit
  if digits.isEmpty then none else some ((down, digits), cs.dropWhile isDigit)

def scanNumber (cs : List Char) : Option (Json × List Char) :=
  let (negative, cs) := match cs with
    | '-' :: rest => (true, rest)
    | _ => (false, cs)
  let whole := cs.takeWhile isDigit
  let rest := cs.dropWhile isDigit
  if whole.isEmpty ∨ (whole.head? = some '0' ∧ 1 < whole.length) then none
  else
    let withPower (fraction : Option (List Char)) (rest : List Char) :=
      match rest with
      | c :: after =>
        if c = 'e' ∨ c = 'E' then
          (scanPower after).bind fun (power, rest) =>
            (number negative whole fraction (some power)).map (·, rest)
        else (number negative whole fraction none).map (·, rest)
      | [] => (number negative whole fraction none).map (·, rest)
    match rest with
    | '.' :: after =>
      let fraction := after.takeWhile isDigit
      if fraction.isEmpty then none else withPower (some fraction) (after.dropWhile isDigit)
    | _ => withPower none rest

def scanWord (cs : List Char) : Option (Json × List Char) :=
  match cs with
  | 'n' :: 'u' :: 'l' :: 'l' :: rest => some (null, rest)
  | 't' :: 'r' :: 'u' :: 'e' :: rest => some (bool true, rest)
  | 'f' :: 'a' :: 'l' :: 's' :: 'e' :: rest => some (bool false, rest)
  | _ => none

mutual

/-- a value behind blanks, and what follows; `depth` arrays or objects may still be opened -/
def scanValue : Nat → Nat → List Char → Option (Json × List Char)
  | 0, _, _ => none
  | budget + 1, depth, cs =>
    match skipBlanks cs with
    | '"' :: rest => (scanString (rest.length + 1) [] rest).map fun (s, rest) => (string s, rest)
    | '[' :: rest =>
      match depth with
      | 0 => none
      | depth + 1 =>
        match skipBlanks rest with
        | ']' :: rest => some (array [], rest)
        | _ => scanItems budget depth [] rest
    | '{' :: rest =>
      match depth with
      | 0 => none
      | depth + 1 =>
        match skipBlanks rest with
        | '}' :: rest => some (object [], rest)
        | _ => scanMembers budget depth [] rest
    | c :: rest =>
      if c = '-' ∨ isDigit c then scanNumber (c :: rest) else scanWord (c :: rest)
    | [] => none

/-- the items of an array from the next one on; `seen` holds those so far, the newest first -/
def scanItems : Nat → Nat → List Json → List Char → Option (Json × List Char)
  | 0, _, _, _ => none
  | budget + 1, depth, seen, cs =>
    match scanValue budget depth cs with
    | none => none
    | some (v, rest) =>
      match skipBlanks rest with
      | ',' :: rest => scanItems budget depth (v :: seen) rest
      | ']' :: rest => some (array (v :: seen).reverse, rest)
      | _ => none

/-- the members of an object from the next one on; `done` holds those so far, by their keys -/
def scanMembers : Nat → Nat → List (String × Json) → List Char → Option (Json × List Char)
  | 0, _, _, _ => none
  | budget + 1, depth, done, cs =>
    match skipBlanks cs with
    | '"' :: rest =>
      match scanString (rest.length + 1) [] rest with
      | none => none
      | some (key, rest) =>
        match skipBlanks rest with
        | ':' :: rest =>
          match scanValue budget depth rest with
          | none => none
          | some (v, rest) =>
            match skipBlanks rest with
            | ',' :: rest => scanMembers budget depth (insert key v done) rest
            | '}' :: rest => some (object (insert key v done), rest)
            | _ => none
        | _ => none
    | _ => none

end

/-- how many arrays and objects may stand in one another -/
def maxDepth : Nat := 127

def parse? (text : String) : Option Json :=
  let cs := text.toList
  match scanValue (2 * cs.length + 2) maxDepth cs with
  | some (v, rest) => if (skipBlanks rest).isEmpty then some v else none
  | none => none

end CycleMiner.Json
