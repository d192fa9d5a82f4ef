import CycleMiner.Bytes
import Mathlib.Tactic.Ring

/-!
# What byte strings spell

* `ofLittleEndian_littleEndian`   reading `k` written bytes gives `n` modulo `256 ^ k`;
* `littleEndian_ofLittleEndian`   and writing what was read gives the bytes again;
* `ofLittleEndian_lt`, `ofBigEndian_lt`   a string spells a number below `256` to its length;
* `ofBigEndian_cons`   the first byte of a big-endian string has the highest weight;
* `ofBigEndian_take`   to leave off bytes at the end is to divide;
* `ofBigEndian_inj`    strings of one length that spell the same number are the same.
-/

namespace CycleMiner

namespace Bytes

/-! ## what is written is read back -/

theorem ofLittleEndian_littleEndian (k n : Nat) :
    ofLittleEndian (littleEndian k n) = n % 256 ^ k := by
  induction k generalizing n with
  | zero => simp [Nat.mod_one]
  | succ k ih =>
    have split : n % 256 ^ (k + 1) = n % 256 + 256 * (n / 256 % 256 ^ k) := by
      rw [Nat.pow_succ', Nat.mod_mul]
    rw [littleEndian_succ, ofLittleEndian_cons, ih, UInt8.toNat_ofNat', split]

/-- a string is what is written of the number it spells -/
theorem littleEndian_ofLittleEndian (bs : Bytes) :
    littleEndian bs.length (ofLittleEndian bs) = bs := by
  induction bs with
  | nil => rfl
  | cons b bs ih =>
    have hb := b.toNat_lt
    have hlow : UInt8.ofNat (b.toNat + 256 * ofLittleEndian bs) = b := by
      rw [← UInt8.toNat_inj, UInt8.toNat_ofNat']
      omega
    have hhigh : (b.toNat + 256 * ofLittleEndian bs) / 256 = ofLittleEndian bs := by omega
    rw [List.length_cons, ofLittleEndian_cons, littleEndian_succ, hlow, hhigh, ih]

/-- only the low bytes of a number are written -/
theorem littleEndian_mod (k n : Nat) : littleEndian k (n % 256 ^ k) = littleEndian k n := by
  have h := littleEndian_ofLittleEndian (littleEndian k n)
  rwa [length_littleEndian, ofLittleEndian_littleEndian] at h

theorem ofLittleEndian_ofUInt32 (w : UInt32) : ofLittleEndian (ofUInt32 w) = w.toNat := by
  rw [ofUInt32, ofLittleEndian_littleEndian]
  exact Nat.mod_eq_of_lt w.toNat_lt

theorem ofLittleEndian_ofUInt64 (w : UInt64) : ofLittleEndian (ofUInt64 w) = w.toNat := by
  rw [ofUInt64, ofLittleEndian_littleEndian]
  exact Nat.mod_eq_of_lt w.toNat_lt

/-! ## weights of bytes -/

theorem ofLittleEndian_append (as bs : Bytes) :
    ofLittleEndian (as ++ bs) = ofLittleEndian as + 256 ^ as.length * ofLittleEndian bs := by
  induction as with
  | nil => simp
  | cons a as ih =>
    rw [List.cons_append, ofLittleEndian_cons, ofLittleEndian_cons, ih, List.length_cons, pow_succ]
    ring

theorem ofLittleEndian_lt (bs : Bytes) : ofLittleEndian bs < 256 ^ bs.length := by
  induction bs with
  | nil => simp
  | cons b bs ih =>
    have hb : b.toNat < 256 := b.toNat_lt
    rw [ofLittleEndian_cons, List.length_cons, pow_succ]
    omega

theorem ofBigEndian_cons (b : UInt8) (bs : Bytes) :
    ofBigEndian (b :: bs) = b.toNat * 256 ^ bs.length + ofBigEndian bs := by
  rw [ofBigEndian, List.reverse_cons, ofLittleEndian_append, ofLittleEndian_cons,
    List.length_reverse, ofBigEndian]
  simp only [ofLittleEndian_nil]
  ring

theorem ofBigEndian_lt (bs : Bytes) : ofBigEndian bs < 256 ^ bs.length := by
  have := ofLittleEndian_lt bs.reverse
  rwa [List.length_reverse] at this

theorem ofBigEndian_append (as bs : Bytes) :
    ofBigEndian (as ++ bs) = ofBigEndian as * 256 ^ bs.length + ofBigEndian bs := by
  rw [ofBigEndian, List.reverse_append, ofLittleEndian_append, List.length_reverse, ofBigEndian,
    ofBigEndian, Nat.mul_comm, Nat.add_comm]

theorem ofBigEndian_replicate_zero (n : Nat) : ofBigEndian (List.replicate n 0) = 0 := by
  induction n with
  | zero => rfl
  | succ n ih => rw [List.replicate_succ, ofBigEndian_cons, ih, UInt8.toNat_zero, Nat.zero_mul]

theorem ofBigEndian_take (bs : Bytes) (n : Nat) :
    ofBigEndian (bs.take n) = ofBigEndian bs / 256 ^ (bs.length - n) := by
  have hsplit := ofBigEndian_append (bs.take n) (bs.drop n)
  rw [List.take_append_drop, List.length_drop] at hsplit
  have hlt := ofBigEndian_lt (bs.drop n)
  rw [List.length_drop] at hlt
  rw [hsplit, Nat.mul_comm, Nat.mul_add_div (Nat.pow_pos (by decide)), Nat.div_eq_of_lt hlt,
    Nat.add_zero]

theorem ofBigEndian_inj {as bs : Bytes} (h : as.length = bs.length) :
    ofBigEndian as = ofBigEndian bs ↔ as = bs := by
  refine ⟨fun e => ?_, congrArg _⟩
  have ha := littleEndian_ofLittleEndian as.reverse
  have hb := littleEndian_ofLittleEndian bs.reverse
  rw [List.length_reverse] at ha hb
  rw [ofBigEndian, ofBigEndian] at e
  rw [h, e, hb] at ha
  exact (List.reverse_inj.1 ha).symm

end Bytes

end CycleMiner
