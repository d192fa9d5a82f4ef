import CycleMiner.Url.Host

/-!
# Absolute URLs

What the miner asks of the address of a node: that it is an absolute URL at all, and its scheme.

* `Url.parse`   the URL a text spells, or the first thing wrong with it.

Controls and blanks around a text do not count, and tabs and line breaks nowhere.  Schemes with a
host of their own kind take any number of slashes in front of it; other schemes have a host only
behind exactly two.  User and password end at the last at-sign before the path.
-/

namespace CycleMiner

structure Url where
  /-- in lower case -/
  scheme : String
  deriving DecidableEq, Repr, Inhabited

namespace Url

/-- what is known about a scheme -/
inductive Family where
  /-- schemes that always have a host -/
  | web
  /-- schemes of files, which may have one -/
  | file
  | other
  deriving DecidableEq, Repr, Inhabited

def familyOf (scheme : String) : Family :=
  if ["http", "https", "ws", "wss", "ftp"].contains scheme then .web
  else if scheme = "file" then .file
  else .other

/-- whether a character does not count around a URL -/
def isPadding (c : Char) : Bool := c.toNat ≤ 32

/-- whether a character does not count inside a URL -/
def isDropped (c : Char) : Bool := c = '\t' || c = '\n' || c = '\r'

def counted (text : String) : List Char :=
  let cs := text.toList.dropWhile isPadding
  ((cs.reverse.dropWhile isPadding).reverse).filter fun c => !isDropped c

def isLetter (c : Char) : Bool := ('a' ≤ c && c ≤ 'z') || ('A' ≤ c && c ≤ 'Z')

/-- whether a character may stand in a scheme behind its first letter -/
def isSchemeChar (c : Char) : Bool :=
  isLetter c || ('0' ≤ c && c ≤ '9') || c = '+' || c = '-' || c = '.'

/-- the scheme a text starts with, and what follows its colon -/
def splitScheme (cs : List Char) : Option (String × List Char) :=
  match cs with
  | c :: _ =>
    if isLetter c then
      match cs.dropWhile isSchemeChar with
      | ':' :: rest => some (String.ofList ((cs.takeWhile isSchemeChar).map Char.toLower), rest)
      | _ => none
    else none
  | [] => none

/-- whether a character ends the part of a URL that names its host -/
def endsAuthority (f : Family) (c : Char) : Bool :=
  c = '/' || c = '?' || c = '#' || (c = '\\' && f ≠ .other)

/-- the credentials of an authority, if it has any, what stands behind them, and whether they are
not empty -/
def splitCredentials (authority : List Char) : Option (List Char) × List Char × Bool :=
  let place := (authority.reverse.takeWhile (· ≠ '@')).reverse
  if authority.length = place.length then (none, place, false)
  else
    let credentials := authority.take (authority.length - place.length - 1)
    (some credentials, place, !(credentials.isEmpty || credentials == [':']))

/-- a host, and what follows it; colons inside brackets belong to the host -/
def splitHost : Bool → List Char → List Char × List Char
  | _, [] => ([], [])
  | inside, c :: rest =>
    if c = ':' ∧ !inside then ([], c :: rest)
    else
      let inside := if c = '[' then true else if c = ']' then false else inside
      let (host, rest) := splitHost inside rest
      (c :: host, rest)

/-- looks at the number behind the colon of a host; a backslash may end it -/
def checkPort : Nat → List Char → Except UrlFault Unit
  | _, [] => .ok ()
  | n, c :: rest =>
    match Address.decimalDigit c with
    | some d => if 10 * n + d < 65536 then checkPort (10 * n + d) rest else .error .portNumber
    | none => if c = '\\' then .ok () else .error .portNumber

/-- looks at a host and what follows it in an authority -/
def checkPlace (f : Family) (credentials : Bool) (place : List Char) : Except UrlFault Unit :=
  let (host, rest) := splitHost false place
  let hostCheck :=
    match f with
    | .other => Host.checkOpaque host
    | _ => if host.isEmpty then .error .emptyHost else Host.check host
  match hostCheck with
  | .error e => .error e
  | .ok () =>
    match rest with
    | ':' :: digits => if host.isEmpty then .error .emptyHost else checkPort 0 digits
    | _ => if host.isEmpty ∧ credentials then .error .emptyHost else .ok ()

def checkAuthority (f : Family) (cs : List Char) : Except UrlFault Unit :=
  let authority := cs.takeWhile fun c => !endsAuthority f c
  let after := cs.drop authority.length
  match splitCredentials authority with
  | (some [], [], _) => if after.isEmpty then checkPlace f false [] else .error .emptyHost
  | (_, place, given) => checkPlace f given place

def isDrive (cs : List Char) : Bool :=
  match cs with
  | [c, m] => isLetter c && (m = ':' || m = '|')
  | _ => false

def checkFile (cs : List Char) : Except UrlFault Unit :=
  match cs with
  | a :: b :: rest =>
    if (a = '/' ∨ a = '\\') ∧ (b = '/' ∨ b = '\\') then
      let host := rest.takeWhile fun c => !endsAuthority .file c
      if host.isEmpty ∨ isDrive host then .ok () else Host.check host
    else .ok ()
  | _ => .ok ()

def checkRest (f : Family) (cs : List Char) : Except UrlFault Unit :=
  match f with
  | .web => checkAuthority .web (cs.dropWhile fun c => c = '/' || c = '\\')
  | .file => checkFile cs
  | .other =>
    match cs with
    | '/' :: '/' :: rest => checkAuthority .other rest
    | _ => .ok ()

def parse (text : String) : Except UrlFault Url :=
  match splitScheme (counted text) with
  | none => .error .noScheme
  | some (scheme, rest) => (checkRest (familyOf scheme) rest).map fun _ => ⟨scheme⟩

end Url

end CycleMiner
