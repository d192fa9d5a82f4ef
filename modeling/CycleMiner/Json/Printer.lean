import CycleMiner.Decimal.Shortest
import CycleMiner.Json

/-!
# Writing JSON values

A value on one line without blanks.  Strings escape the quote, the backslash and control
characters, and nothing else; doubles are written with the fewest digits, and never look whole.

* `Json.quote`   a string in quotes;
* `Json.text`    any value, members in the order in which they stand.
-/

namespace CycleMiner.Json

/-- the two hexadecimal digits of a control character -/
def controlDigits (n : Nat) : List Char :=
  [Char.ofNat (48 + n / 16), (Nat.toDigits 16 (n % 16)).headD '0']

/-- a character inside quotes -/
def quoteChar (c : Char) : List Char :=
  if c = '"' then ['\\', '"']
  else if c = '\\' then ['\\', '\\']
  else if c = '\n' then ['\\', 'n']
  else if c = '\r' then ['\\', 'r']
  else if c = '\t' then ['\\', 't']
  else if c.toNat = 8 then ['\\', 'b']
  else if c.toNat = 12 then ['\\', 'f']
  else if c.toNat < 32 then '\\' :: 'u' :: '0' :: '0' :: controlDigits c.toNat
  else [c]

def quote (s : String) : String := "\"" ++ String.ofList (s.toList.flatMap quoteChar) ++ "\""

mutual

/-- a value on one line -/
def text : Json → String
  | null => "null"
  | bool b => if b then "true" else "false"
  | int n => toString n
  | float x => Decimal.compactText x
  | string s => quote s
  | array items => "[" ++ String.intercalate "," (textItems items) ++ "]"
  | object members => "\x7b" ++ String.intercalate "," (textMembers members) ++ "\x7d"

def textItems : List Json → List String
  | [] => []
  | v :: rest => text v :: textItems rest

def textMembers : List (String × Json) → List String
  | [] => []
  | (k, v) :: rest => (quote k ++ ":" ++ text v) :: textMembers rest

end

end CycleMiner.Json
