import CycleMiner.Unicode.Hidden

/-!
# Texts in quotes

A text that is shown inside a message stands in double quotes, a single character in single
quotes, with everything that would not be readable there written as an escape.

* `escaped`      the escape of one character, given the quote that surrounds it;
* `quoted`       a text in double quotes;
* `quotedChar`   a character in single quotes.

The quote that surrounds is escaped, the other one is not.  A character without a short escape that
is not shown as itself is written as its number in braces.
-/

namespace CycleMiner.Text

/-- the lower-case hexadecimal digits of a number, without leading zeros -/
def hexNumber (n : Nat) : String := String.ofList (Nat.toDigits 16 n)

/-- whether a character is shown as itself -/
def isPrintable (c : Char) : Bool :=
  32 ≤ c.toNat && (c.toNat < 127 || !Unicode.isHidden c)

/-- a character as it stands between quotes of the kind `quote` -/
def escaped (quote c : Char) : String :=
  if c = quote ∨ c = '\\' then String.ofList ['\\', c]
  else if c = '\n' then "\\n"
  else if c = '\r' then "\\r"
  else if c = '\t' then "\\t"
  else if c.toNat = 0 then "\\0"
  else if isPrintable c then c.toString
  else "\\u\x7b" ++ hexNumber c.toNat ++ "\x7d"

def quoted (s : String) : String := "\"" ++ String.join (s.toList.map (escaped '"')) ++ "\""

def quotedChar (c : Char) : String := "'" ++ escaped '\'' c ++ "'"

end CycleMiner.Text
