import CycleMiner.Hex

/-!
# Digests

A digest is a string of 32 bytes.  The length is part of the type, so that whatever is laid out
around a digest has fixed places.

* `Digest.zero`       32 zero bytes;
* `Digest.reverse`    the bytes from back to front: the order in which digests are shown;
* `Digest.ofBytes?`   a byte string of the right length as a digest;
* `Digest.toNat`      the number a digest spells, most significant byte first.
-/

namespace CycleMiner

/-- a string of 32 bytes -/
structure Digest where
  bytes : Bytes
  length_bytes : bytes.length = 32

namespace Digest

instance : DecidableEq Digest := fun a b =>
  if h : a.bytes = b.bytes then isTrue (by cases a; cases b; cases h; rfl)
  else isFalse (fun e => h (congrArg bytes e))

theorem ext {a b : Digest} (h : a.bytes = b.bytes) : a = b := by
  cases a; cases b; cases h; rfl

attribute [simp] length_bytes

def zero : Digest := ⟨List.replicate 32 0, rfl⟩

instance : Inhabited Digest := ⟨zero⟩

def reverse (d : Digest) : Digest := ⟨d.bytes.reverse, by simp⟩

@[simp] theorem bytes_reverse (d : Digest) : d.reverse.bytes = d.bytes.reverse := rfl

def ofBytes? (bs : Bytes) : Option Digest :=
  if h : bs.length = 32 then some ⟨bs, h⟩ else none

@[simp] theorem ofBytes?_bytes (d : Digest) : ofBytes? d.bytes = some d := by
  simp [ofBytes?]

def toNat (d : Digest) : Nat := Bytes.ofBigEndian d.bytes

def hex (d : Digest) : String := Hex.encode d.bytes

end Digest

end CycleMiner
