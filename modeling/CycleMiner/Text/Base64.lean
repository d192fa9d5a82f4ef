import CycleMiner.Bytes

/-!
# Base 64

Three bytes make four characters; what is missing in the last group is filled with equals signs.

* `Text.base64`   the text of a byte string.
-/

namespace CycleMiner.Text

/-- the character of a number below 64 -/
def base64Char (n : Nat) : Char :=
  if n < 26 then Char.ofNat (65 + n)
  else if n < 52 then Char.ofNat (71 + n)
  else if n < 62 then Char.ofNat (n - 4)
  else if n = 62 then '+'
  else '/'

def base64Chars : Bytes → List Char
  | a :: b :: c :: rest =>
    let n := 65536 * a.toNat + 256 * b.toNat + c.toNat
    base64Char (n / 262144) :: base64Char (n / 4096 % 64) :: base64Char (n / 64 % 64) ::
      base64Char (n % 64) :: base64Chars rest
  | [a, b] =>
    let n := 65536 * a.toNat + 256 * b.toNat
    [base64Char (n / 262144), base64Char (n / 4096 % 64), base64Char (n / 64 % 64), '=']
  | [a] =>
    let n := 65536 * a.toNat
    [base64Char (n / 262144), base64Char (n / 4096 % 64), '=', '=']
  | [] => []

def base64 (bs : Bytes) : String := String.ofList (base64Chars bs)

end CycleMiner.Text
