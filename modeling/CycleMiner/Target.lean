import CycleMiner.Digest.Sha256
import CycleMiner.Text.Radix

/-!
# Targets

A target is a number below `2 ^ 256`, kept as 32 bytes with the most significant first, so that
comparing bytes from the front compares numbers.  A solution is good enough if its hash, taken as
such a number, is at most the target.

* `Target.max`           the largest target, met by every hash;
* `Target.ofCompact`     the target of a 32-bit compact form, or why it has none;
* `Target.isMetBy`       the comparison;
* `Target.toNat`         the number.

The compact form is an exponent in the top byte and a mantissa of 23 bits: the number is the
mantissa times `256 ^ (exponent - 3)`.  Bit 23 is a sign.  Of a mantissa that reaches below the
lowest byte the fraction is dropped; one that reaches above the highest byte has no target, unless
the bytes up there are zero.
-/

namespace CycleMiner

/-- why a compact form has no target -/
inductive CompactFault where
  | negative (bits : UInt32)
  | tooLarge (bits : UInt32)
  deriving DecidableEq, Repr, Inhabited

namespace CompactFault

def message : CompactFault → String
  | negative bits => "negative compact target " ++ Text.hexWord8 bits
  | tooLarge bits => "compact target " ++ Text.hexWord8 bits ++ " overflows 256 bits"

end CompactFault

/-- whether one byte string comes before another of the same length, or equals it -/
def bytesLe : Bytes → Bytes → Bool
  | a :: as, b :: bs => a < b || (a == b && bytesLe as bs)
  | [], _ => true
  | _ :: _, [] => false

/-- a number below `2 ^ 256` -/
structure Target where
  digest : Digest
  deriving DecidableEq, Inhabited

namespace Target

def bytes (t : Target) : Bytes := t.digest.bytes

def toNat (t : Target) : Nat := t.digest.toNat

def hex (t : Target) : String := t.digest.hex

def max : Target := ⟨⟨List.replicate 32 0xff, rfl⟩⟩

def le (s t : Target) : Bool := bytesLe s.bytes t.bytes

/-- whether a hash, most significant byte first, is at most the target -/
def isMetBy (t : Target) (hash : Digest) : Bool := bytesLe hash.bytes t.bytes

/-! ## The compact form -/

def exponent (bits : UInt32) : Nat := (bits >>> 24).toNat

def mantissa (bits : UInt32) : UInt32 := bits &&& 0x7fffff

def mantissaBytes (bits : UInt32) : Bytes :=
  let m := mantissa bits
  [(m >>> 16).toUInt8, (m >>> 8).toUInt8, m.toUInt8]

/-- writes a byte at a place counted from the front, which may lie before or behind all places: a
byte behind is dropped, one before has to be zero -/
def place (bs : Bytes) (i : Int) (b : UInt8) : Option Bytes :=
  if i < 0 then (if b = 0 then some bs else none) else some (bs.set i.toNat b)

/-- writes bytes at neighbouring places -/
def placeAll (bs : Bytes) (i : Int) : Bytes → Option Bytes
  | [] => some bs
  | b :: rest =>
    match place bs i b with
    | none => none
    | some bs => placeAll bs (i + 1) rest

theorem length_placeAll {bs r : Bytes} {i : Int} {new : Bytes} (h : placeAll bs i new = some r) :
    r.length = bs.length := by
  induction new generalizing bs i with
  | nil => cases h; rfl
  | cons b rest ih =>
    simp only [placeAll] at h
    split at h
    · cases h
    · rename_i bs' e
      rw [ih h]
      unfold place at e
      split at e
      · split at e
        · cases e; rfl
        · cases e
      · cases e; simp

def ofCompact (bits : UInt32) : Except CompactFault Target :=
  if bits &&& 0x800000 ≠ 0 ∧ mantissa bits ≠ 0 then .error (.negative bits)
  else
    match h : placeAll Digest.zero.bytes (32 - (exponent bits : Int)) (mantissaBytes bits) with
    | none => .error (.tooLarge bits)
    | some bs => .ok ⟨⟨bs, by rw [length_placeAll h]; exact Digest.zero.length_bytes⟩⟩

end Target

end CycleMiner
