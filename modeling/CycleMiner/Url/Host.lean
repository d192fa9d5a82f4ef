import CycleMiner.Bytes
import CycleMiner.Url.Address
import CycleMiner.Url.Fault
import CycleMiner.Url.Label

/-!
# Hosts of URLs

* `Host.labels?`       the labels of a domain;
* `Host.check`         the host of a scheme that is known to have domains;
* `Host.checkOpaque`   the host of any other scheme.

A domain may hold escapes of bytes; what they spell must be text.  Its characters are made
comparable and composed; after that no character may be left that means something in a URL.  Then
every label is expanded, and all must be well-formed and keep their directions.
-/

namespace CycleMiner.Host

/-- the bytes of a text with its escapes resolved; a percent sign without two digits is left -/
def unescape : List Char → Bytes
  | '%' :: a :: b :: rest =>
    match Address.hexDigit a, Address.hexDigit b with
    | some h, some l => UInt8.ofNat (16 * h + l) :: unescape rest
    | _, _ => 37 :: unescape (a :: b :: rest)
  | c :: rest => String.utf8EncodeChar c ++ unescape rest
  | [] => []

def textOf (bs : Bytes) : Option (List Char) :=
  (String.fromUTF8? (ByteArray.mk bs.toArray)).map String.toList

/-- a text with what becomes of its characters in their places; none if one is refused -/
def comparable : List Char → Option (List Char)
  | [] => some []
  | c :: rest =>
    match Unicode.fateOf c, comparable rest with
    | .refused, _ => none
    | _, none => none
    | .stays, some cs => some (c :: cs)
    | .vanishes, some cs => some cs
    | .becomes ds, some cs => some (ds ++ cs)

/-- the labels of a domain, if they may stand together -/
def labels? (cs : List Char) : Option (List Label) :=
  match comparable cs with
  | none => none
  | some cs =>
    let cs := Unicode.composed cs
    if cs.any Label.isDenied then none
    else
      match (Address.parts cs).mapM Label.expand with
      | none => none
      | some labels =>
        if labels.all Label.isWellFormed && Label.areOrdered labels then some labels else none

def checkDomain (cs : List Char) : Except UrlFault Unit :=
  match (textOf (unescape cs)).bind labels? with
  | none => .error .domain
  | some labels =>
    if labels = [[]] then .error .emptyHost
    else if Address.endsInNumber labels ∧ !Address.isVersion4 labels then .error .ipv4
    else .ok ()

/-- looks at an address from behind its opening bracket -/
def checkBracketed (cs : List Char) : Except UrlFault Unit :=
  if cs.getLast? = some ']' ∧ Address.isVersion6 cs.dropLast then .ok () else .error .ipv6

def check (cs : List Char) : Except UrlFault Unit :=
  match cs with
  | '[' :: rest => checkBracketed rest
  | _ => checkDomain cs

/-- whether a character may not stand in a host whose domains mean nothing -/
def isForbidden (c : Char) : Bool := c.toNat = 0 || " #/:<>?@[\\]^|".toList.contains c

/-- looks at a host whose domains mean nothing -/
def checkOpaque (cs : List Char) : Except UrlFault Unit :=
  match cs with
  | '[' :: rest => checkBracketed rest
  | _ => if cs.any isForbidden then .error .hostCharacter else .ok ()

end CycleMiner.Host
