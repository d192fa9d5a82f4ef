import CycleMiner.Unicode.CombiningClass
import CycleMiner.Unicode.Composed
import CycleMiner.Unicode.Direction
import CycleMiner.Unicode.Fate
import CycleMiner.Unicode.Joining
import CycleMiner.Unicode.Mark
import CycleMiner.Url.Punycode

/-!
# Labels of domains

A domain is a row of labels with points between them.

* `Label.expand`       the label that a label in ASCII stands for;
* `Label.isWellFormed` whether a label starts with no mark and its joiners join something;
* `Label.keepsDirection`   whether a label reads the same in lines of both directions;
* `Label.areOrdered`   whether labels need not or do keep their directions.

A label that is not all ASCII has at most 1000 characters, and a text that stands for one at most
2000.  Directions matter only where some label has a character that is written from right to left.
-/

namespace CycleMiner

/-- what stands between two points of a domain -/
abbrev Label := List Char

namespace Label

open Unicode

/-- whether a character may not stand in a domain because it means something in a URL -/
def isDenied (c : Char) : Bool :=
  c.toNat ≤ 32 || c.toNat = 127 || "%#/:<>?@[\\]^|".toList.contains c

/-- whether a label could have come about by making characters comparable and composing them -/
def isSettled (label : Label) : Bool :=
  label.all (fun c => fateOf c = .stays && !isDenied c && c ≠ '.') && composed label == label

/-- the label that a label stands for: itself, unless it starts with `xn--` -/
def expand (label : Label) : Option Label :=
  match label with
  | 'x' :: 'n' :: '-' :: '-' :: rest =>
    if rest.length ≤ 2000 ∧ rest ≠ [] ∧ rest.getLast? ≠ some '-' then
      match Punycode.decode rest with
      | some l => if isSettled l then some l else none
      | none => none
    else none
  | l => some l

/-- whether the nearest of these characters that counts in joining has a property -/
def nearest (property : Joining → Bool) : List Char → Bool
  | [] => false
  | c :: rest =>
    match joiningOf c with
    | .transparent => nearest property rest
    | j => property j

/-- whether a joiner may stand between these characters, those before it backwards: behind a virama
always; the one that parts letters also where letters would join -/
def joinerFits (joiner : Char) (before after : List Char) : Bool :=
  (before.head?.any isVirama) ||
    (joiner.toNat = 0x200c && nearest Joining.goesOn before && nearest Joining.goesBack after)

/-- whether all joiners of a label may stand where they do, behind these characters backwards -/
def joinersFit (before : List Char) : Label → Bool
  | [] => true
  | c :: rest =>
    ((c.toNat ≠ 0x200c && c.toNat ≠ 0x200d) || joinerFits c before rest) &&
      joinersFit (c :: before) rest

def isWellFormed (label : Label) : Bool :=
  label.all (fun c => c.toNat < 128) ||
    (!(label.head?.any isMark) && joinersFit [] label && label.length ≤ 1000)

/-! ## Directions -/

/-- whether a character makes directions matter -/
def turns (d : Direction) : Bool := d = .rightToLeft || d = .arabicLetter || d = .arabicNumber

/-- whether a character may stand in a label of either direction -/
def isMiddling (d : Direction) : Bool :=
  d = .europeanNumber || d = .europeanSeparator || d = .commonSeparator ||
    d = .europeanTerminator || d = .neutral || d = .boundary || d = .mark

/-- whether a row of directions may follow a first character that is written from left to right;
marks at the end do not count -/
def runsRight (ds : List Direction) : Bool :=
  match ds.reverse.dropWhile (· = .mark) with
  | [] => true
  | last :: others =>
    (last = .leftToRight || last = .europeanNumber) &&
      others.all fun d => d = .leftToRight || isMiddling d

/-- whether a row of directions may follow a first character that is written from right to left;
only numbers of one kind may stand in it -/
def runsLeft (ds : List Direction) : Bool :=
  match ds.reverse.dropWhile (· = .mark) with
  | [] => true
  | last :: others =>
    (turns last || last = .europeanNumber) && others.all (fun d => turns d || isMiddling d) &&
      !((last :: others).contains .europeanNumber && (last :: others).contains .arabicNumber)

def keepsDirection (label : Label) : Bool :=
  match label.map directionOf with
  | [] => true
  | .leftToRight :: ds => runsRight ds
  | .rightToLeft :: ds => runsLeft ds
  | .arabicLetter :: ds => runsLeft ds
  | _ => false

def areOrdered (labels : List Label) : Bool :=
  !(labels.any fun l => l.any fun c => turns (directionOf c)) || labels.all keepsDirection

end Label

end CycleMiner
