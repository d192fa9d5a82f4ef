import CycleMiner.Toml.Number
import CycleMiner.Toml.Quote
import CycleMiner.Toml.Table

/-!
# Reading TOML texts

A text is a row of lines: a key and its value, a header, or nothing; a comment may stand behind
each.  A text that breaks a rule is refused as a whole; why is not told.

* `Toml.scanKey`     a key, dotted or not;
* `Toml.scanValue`   a value;
* `Toml.parse?`      the whole text, as the members of its root table.

Arrays and tables in braces may stand in one another fewer than 80 deep, and a dotted key has fewer
than 80 parts.  Every call of the readers of values, items, members and lines spends one unit of a
budget that is twice the length of the text and more; between two such calls at most one character
is not passed, so the budget never runs out before the text does.
-/

namespace CycleMiner.Toml

/-- values stand in one another, and keys have parts, fewer than so many times -/
def depthLimit : Nat := 80

def pastComment : List Char → List Char
  | '#' :: rest => rest.dropWhile isPlain
  | cs => cs

/-- the characters behind the end of a line: blanks, a comment, and a line break or nothing -/
def pastLine (cs : List Char) : Option (List Char) :=
  match pastComment (cs.dropWhile isBlank) with
  | [] => some []
  | cs => pastBreak cs

/-- the characters behind blanks, comments and line breaks, as they may stand between the items of
an array -/
def skipGap : Nat → List Char → List Char
  | 0, cs => cs
  | budget + 1, cs =>
    match skipLines cs with
    | '#' :: rest => skipGap budget (rest.dropWhile isPlain)
    | cs => cs

def pastGap (cs : List Char) : List Char := skipGap (cs.length + 1) cs

/-! ## Keys -/

def isBare (c : Char) : Bool :=
  ('a' ≤ c && c ≤ 'z') || ('A' ≤ c && c ≤ 'Z') || ('0' ≤ c && c ≤ '9') || c = '_' || c = '-'

def scanPart : List Char → Option (String × List Char)
  | '"' :: rest => lineString '"' rest
  | '\'' :: rest => lineString '\'' rest
  | cs =>
    let part := cs.takeWhile isBare
    if part.isEmpty then none else some (String.ofList part, cs.dropWhile isBare)

/-- the parts of a key with blanks around them, at most so many, and what follows -/
def scanParts : Nat → List Char → Option (List String × List Char)
  | 0, _ => none
  | limit + 1, cs =>
    match scanPart (cs.dropWhile isBlank) with
    | none => none
    | some (part, rest) =>
      match rest.dropWhile isBlank with
      | '.' :: rest =>
        match scanParts limit rest with
        | none => none
        | some (parts, rest) => some (part :: parts, rest)
      | rest => some ([part], rest)

/-- a key, as the path to its table and its last part, and what follows -/
def scanKey (cs : List Char) : Option ((List String × String) × List Char) :=
  match scanParts (depthLimit - 1) cs with
  | none => none
  | some (parts, rest) =>
    match parts.getLast? with
    | none => none
    | some key => some ((parts.dropLast, key), rest)

/-! ## Values -/

mutual

/-- a value, and what follows; `depth` more arrays or tables may be opened -/
def scanValue : Nat → Nat → List Char → Option (Toml × List Char)
  | 0, _, _ => none
  | budget + 1, depth, cs =>
    match cs with
    | '"' :: rest => (anyString '"' rest).map fun (s, rest) => (string s, rest)
    | '\'' :: rest => (anyString '\'' rest).map fun (s, rest) => (string s, rest)
    | '[' :: rest =>
      match depth with
      | 0 => none
      | depth + 1 => scanItems budget depth [] rest
    | '\x7b' :: rest =>
      match depth with
      | 0 => none
      | depth + 1 =>
        match rest.dropWhile isBlank with
        | '\x7d' :: rest => some (table .inline [], rest)
        | _ => scanMembers budget depth [] rest
    | 't' :: 'r' :: 'u' :: 'e' :: rest => some (bool true, rest)
    | 'f' :: 'a' :: 'l' :: 's' :: 'e' :: rest => some (bool false, rest)
    | cs => number cs

/-- the items of an array from the next one on; `seen` holds those so far, the newest first -/
def scanItems : Nat → Nat → List Toml → List Char → Option (Toml × List Char)
  | 0, _, _, _ => none
  | budget + 1, depth, seen, cs =>
    match pastGap cs with
    | ']' :: rest => some (array seen.reverse, rest)
    | cs =>
      match scanValue budget depth cs with
      | none => none
      | some (v, rest) =>
        match pastGap rest with
        | ',' :: rest => scanItems budget depth (v :: seen) rest
        | ']' :: rest => some (array (v :: seen).reverse, rest)
        | _ => none

/-- the members of a table in braces from the next one on; `done` holds those so far -/
def scanMembers : Nat → Nat → Members → List Char → Option (Toml × List Char)
  | 0, _, _, _ => none
  | budget + 1, depth, done, cs =>
    match scanKey cs with
    | some ((path, key), '=' :: rest) =>
      match scanValue budget depth (rest.dropWhile isBlank) with
      | none => none
      | some (v, rest) =>
        match assign path key v .inline done with
        | none => none
        | some done =>
          match rest.dropWhile isBlank with
          | ',' :: rest => scanMembers budget depth done rest
          | '\x7d' :: rest => some (table .inline done, rest)
          | _ => none
    | _ => none

end

/-! ## Lines -/

/-- the key of a header from behind its opening brackets, and what follows its line -/
def scanHeader (closing : List Char) (cs : List Char) :
    Option ((List String × String) × List Char) :=
  match scanKey cs with
  | none => none
  | some (key, rest) =>
    if closing.isPrefixOf rest then (pastLine (rest.drop closing.length)).map (key, ·) else none

/-- the rest of a text line by line; `current` is the path of the table that keys belong to -/
def scanLines : Nat → List String → Members → List Char → Option Members
  | 0, _, _, _ => none
  | budget + 1, current, root, cs =>
    match cs.dropWhile isBlank with
    | [] => some root
    | '[' :: '[' :: rest =>
      match scanHeader [']', ']'] rest with
      | none => none
      | some ((path, key), rest) =>
        match openItem path key root with
        | none => none
        | some root => scanLines budget (path ++ [key]) root rest
    | '[' :: rest =>
      match scanHeader [']'] rest with
      | none => none
      | some ((path, key), rest) =>
        match openTable path key root with
        | none => none
        | some root => scanLines budget (path ++ [key]) root rest
    | c :: rest =>
      if c = '#' ∨ c = '\n' ∨ c = '\r' then
        match pastLine (c :: rest) with
        | none => none
        | some rest => scanLines budget current root rest
      else
        match scanKey (c :: rest) with
        | some ((path, key), '=' :: rest) =>
          let rest := rest.dropWhile isBlank
          match scanValue (2 * rest.length + 2) (depthLimit - 1) rest with
          | none => none
          | some (v, rest) =>
            match within false current (assign path key v) .header root, pastLine rest with
            | some root, some rest => scanLines budget current root rest
            | _, _ => none
        | _ => none

/-- the root table of a text; a byte order mark may stand in front -/
def parse? (text : String) : Option Members :=
  let cs := match text.toList with
    | '\ufeff' :: rest => rest
    | cs => cs
  scanLines (cs.length + 1) [] [] cs

end CycleMiner.Toml
