/-!
# Byte strings and the numbers they spell

A byte string is a list of bytes.  Numbers are written into byte strings in two ways, and both
are read back by a function that makes sense for strings of any length.

* `littleEndian k n`   the `k` low bytes of `n`, least significant first;
* `bigEndian k n`      the same bytes, most significant first;
* `ofLittleEndian`, `ofBigEndian`   the number a byte string spells.

Writing takes `n % 256` and goes on with `n / 256`, reading puts them together again.
-/

namespace CycleMiner

abbrev Bytes := List UInt8

namespace Bytes

/-! ## Numbers written least significant byte first -/

/-- the `k` low bytes of `n`, least significant first -/
def littleEndian : Nat → Nat → Bytes
  | 0, _ => []
  | k + 1, n => UInt8.ofNat n :: littleEndian k (n / 256)

/-- the number a byte string spells, least significant byte first -/
def ofLittleEndian : Bytes → Nat
  | [] => 0
  | b :: bs => b.toNat + 256 * ofLittleEndian bs

@[simp] theorem littleEndian_zero (n : Nat) : littleEndian 0 n = [] := rfl

@[simp] theorem littleEndian_succ (k n : Nat) :
    littleEndian (k + 1) n = UInt8.ofNat n :: littleEndian k (n / 256) := rfl

@[simp] theorem ofLittleEndian_nil : ofLittleEndian [] = 0 := rfl

@[simp] theorem ofLittleEndian_cons (b : UInt8) (bs : Bytes) :
    ofLittleEndian (b :: bs) = b.toNat + 256 * ofLittleEndian bs := rfl

theorem length_littleEndian (k n : Nat) : (littleEndian k n).length = k := by
  induction k generalizing n with
  | zero => rfl
  | succ k ih => simp [ih]

/-! ## Numbers written most significant byte first -/

def bigEndian (k n : Nat) : Bytes := (littleEndian k n).reverse

def ofBigEndian (bs : Bytes) : Nat := ofLittleEndian bs.reverse

/-! ## Machine words -/

def ofUInt32 (w : UInt32) : Bytes := littleEndian 4 w.toNat

def ofUInt64 (w : UInt64) : Bytes := littleEndian 8 w.toNat

@[simp] theorem length_ofUInt32 (w : UInt32) : (ofUInt32 w).length = 4 := length_littleEndian 4 _

@[simp] theorem length_ofUInt64 (w : UInt64) : (ofUInt64 w).length = 8 := length_littleEndian 8 _

/-! ## Texts -/

def ofText (s : String) : Bytes := s.toList.flatMap String.utf8EncodeChar

end Bytes

end CycleMiner
