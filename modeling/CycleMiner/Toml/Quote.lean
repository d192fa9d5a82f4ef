import CycleMiner.Toml

/-!
# TOML strings

Strings stand in double quotes, where a backslash starts an escape, or in single quotes, where it
does not; three quotes open a string that may go over several lines.

* a line break right behind three opening quotes does not count;
* every line break inside counts as one line feed;
* a backslash at the end of a line drops everything up to the next character that is no blank;
* up to two quotes may stand right before the three that close.

Control characters other than the tab stand in no string.
-/

namespace CycleMiner.Toml

/-- whether a character may stand in a comment or a string as it is -/
def isPlain (c : Char) : Bool := c = '\t' || (32 ≤ c.toNat && c.toNat ≠ 127)

def isBlank (c : Char) : Bool := c = ' ' || c = '\t'

def pastBreak : List Char → Option (List Char)
  | '\n' :: rest => some rest
  | '\r' :: '\n' :: rest => some rest
  | _ => none

def skipLines : List Char → List Char
  | '\r' :: '\n' :: rest => skipLines rest
  | c :: rest => if isBlank c ∨ c = '\n' then skipLines rest else c :: rest
  | [] => []

def hexValue (c : Char) : Option Nat :=
  if '0' ≤ c ∧ c ≤ '9' then some (c.toNat - 48)
  else if 'a' ≤ c ∧ c ≤ 'f' then some (c.toNat - 87)
  else if 'A' ≤ c ∧ c ≤ 'F' then some (c.toNat - 55)
  else none

/-- the character a number of hexadecimal digits names, and what follows -/
def named (count : Nat) (cs : List Char) : Option (Char × List Char) :=
  let ds := (cs.take count).filterMap hexValue
  let n := ds.foldl (fun n d => 16 * n + d) 0
  if ds.length = count ∧ n.isValidChar then some (Char.ofNat n, cs.drop count) else none

/-- the character an escape names, from behind its backslash, and what follows -/
def escape : List Char → Option (Char × List Char)
  | 'b' :: rest => some ('\x08', rest)
  | 't' :: rest => some ('\t', rest)
  | 'n' :: rest => some ('\n', rest)
  | 'f' :: rest => some ('\x0c', rest)
  | 'r' :: rest => some ('\r', rest)
  | '"' :: rest => some ('"', rest)
  | '\\' :: rest => some ('\\', rest)
  | 'u' :: rest => named 4 rest
  | 'U' :: rest => named 8 rest
  | _ => none

/-- a string's characters up to its closing quote, and what follows; `seen` holds those so far, the
newest first -/
def scanLine (quote : Char) : Nat → List Char → List Char → Option (String × List Char)
  | 0, _, _ => none
  | _ + 1, _, [] => none
  | budget + 1, seen, c :: rest =>
    if c = quote then some (String.ofList seen.reverse, rest)
    else if c = '\\' ∧ quote = '"' then
      match escape rest with
      | some (e, rest) => scanLine quote budget (e :: seen) rest
      | none => none
    else if isPlain c then scanLine quote budget (c :: seen) rest
    else none

/-- a string's characters up to the three quotes that close it, and what follows -/
def scanLong (quote : Char) : Nat → List Char → List Char → Option (String × List Char)
  | 0, _, _ => none
  | _ + 1, _, [] => none
  | budget + 1, seen, c :: rest =>
    if c = quote then
      let run := 1 + (rest.takeWhile (· = quote)).length
      let after := rest.dropWhile (· = quote)
      if run < 3 then scanLong quote budget (List.replicate run quote ++ seen) after
      else
        let inside := min (run - 3) 2
        some (String.ofList (List.replicate inside quote ++ seen).reverse,
          List.replicate (run - 3 - inside) quote ++ after)
    else if c = '\\' ∧ quote = '"' then
      match pastBreak (rest.dropWhile isBlank) with
      | some rest => scanLong quote budget seen (skipLines rest)
      | none =>
        match escape rest with
        | some (e, rest) => scanLong quote budget (e :: seen) rest
        | none => none
    else
      match pastBreak (c :: rest) with
      | some rest => scanLong quote budget ('\n' :: seen) rest
      | none => if isPlain c then scanLong quote budget (c :: seen) rest else none

def lineString (quote : Char) (cs : List Char) : Option (String × List Char) :=
  scanLine quote (cs.length + 1) [] cs

def anyString (quote : Char) (cs : List Char) : Option (String × List Char) :=
  match cs with
  | a :: b :: rest =>
    if a = quote ∧ b = quote then
      scanLong quote (rest.length + 1) [] ((pastBreak rest).getD rest)
    else lineString quote cs
  | _ => lineString quote cs

end CycleMiner.Toml
