import CycleMiner.Unicode.CombiningClass
import CycleMiner.Unicode.Pair

/-!
# Composed texts

A text has many spellings: letters with their accents in one character or in several, and accents of
different classes in any order.  Its composed spelling uses as few characters as it can.

* `spread`     a character in as many characters as possible;
* `arrange`    marks in the order of their classes;
* `gather`     each character that starts something, together with the marks it can take up;
* `composed`   the composed spelling of a text.
-/

namespace CycleMiner.Unicode

def spread : Nat → Char → List Char
  | 0, c => [c]
  | steps + 1, c =>
    match splitOf c with
    | some (a, b) => spread steps a ++ spread steps b
    | none => [c]

/-- puts a character behind a text that is given backwards: a mark goes in front of the marks of
higher classes -/
def settle (c : Char) : List Char → List Char
  | [] => [c]
  | d :: rest =>
    if combiningClass c ≠ 0 ∧ combiningClass c < combiningClass d then d :: settle c rest
    else c :: d :: rest

def arrange (cs : List Char) : List Char :=
  (cs.foldl (fun before c => settle c before) []).reverse

/-- gathers what follows a starting character; `kept` are the marks it did not take up, backwards.
A mark can be taken up if no mark of the same or a higher class stands in between. -/
def gatherFrom (start : Char) (kept : List Char) : List Char → List Char
  | [] => start :: kept.reverse
  | c :: rest =>
    let k := combiningClass c
    let free := match kept with
      | [] => true
      | m :: _ => combiningClass m < k
    match if free then joinOf start c else none with
    | some d => gatherFrom d kept rest
    | none =>
      if k = 0 then start :: kept.reverse ++ gatherFrom c [] rest
      else gatherFrom start (c :: kept) rest

def gather : List Char → List Char
  | [] => []
  | c :: rest => if combiningClass c = 0 then gatherFrom c [] rest else c :: gather rest

/-- the composed spelling of a text; no character takes more than two steps to spread -/
def composed (cs : List Char) : List Char := gather (arrange (cs.flatMap (spread 2)))

end CycleMiner.Unicode
