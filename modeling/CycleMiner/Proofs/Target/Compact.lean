import CycleMiner.Proofs.Bytes
import CycleMiner.Target
import Mathlib.Algebra.Order.Floor.Semifield
import Mathlib.Data.Nat.Bitwise
import Mathlib.Data.Rat.Floor

/-!
# The number of a compact form

A compact form stands for its mantissa times a power of 256, which is a fraction if the exponent is
below 3.  Its target is that number, rounded down, and there is none if the form has a sign or the
number has more than 256 bits.

* `Target.compactNumber`, `Target.IsNegative`   what a compact form stands for;
* `Bytes.scaled`                number of some bytes, moved up a few places and down again;
* `Target.placeAll_inside`      bytes placed inside a string;
* `Target.placed`               bytes placed anywhere among zeros make the number they spell there,
  or there is no room for it;
* `Target.ofCompact_cases`      the target of a compact form, or the fault;
* `Target.exists_ofCompact_iff`   the compact forms that have a target;
* `Target.ofCompact?`           the same, giving up at an index outside;
* `compact_target_exact`        all that has a target, which one, and that nothing is given up.

Bytes are placed from the front.  As long as the place is before the string they have to be zero and
count for nothing, so both sides lose a byte; from the first place in the string on nothing can go
wrong, and what is cut off at the end is the fraction.
-/

namespace CycleMiner

/-- the number that bytes spell if the first of them stands `e` places from the end, without those
that are behind the end -/
def Bytes.scaled (bs : Bytes) (e : Nat) : Nat := ofBigEndian bs * 256 ^ e / 256 ^ bs.length

namespace Bytes

theorem scaled_zero_cons (bs : Bytes) (e : Nat) : scaled (0 :: bs) (e + 1) = scaled bs e := by
  rw [scaled, scaled, ofBigEndian_cons, UInt8.toNat_zero, Nat.zero_mul, Nat.zero_add,
    List.length_cons, pow_succ, pow_succ, ← Nat.mul_assoc,
    Nat.mul_div_mul_right _ _ (by decide : 0 < 256)]

/-- a first byte that is not zero weighs as much as it would alone -/
theorem le_scaled_cons {b : UInt8} (h : b ≠ 0) (bs : Bytes) (e : Nat) :
    256 ^ e ≤ scaled (b :: bs) (e + 1) := by
  have hb : 1 ≤ b.toNat := Nat.pos_of_ne_zero fun e => h (UInt8.toNat_inj.1 e)
  have hfirst : 256 ^ bs.length ≤ ofBigEndian (b :: bs) := by
    rw [ofBigEndian_cons]
    exact Nat.le_add_right_of_le (Nat.le_mul_of_pos_left _ hb)
  rw [scaled, Nat.le_div_iff_mul_le (Nat.pow_pos (by decide)), List.length_cons]
  calc 256 ^ e * 256 ^ (bs.length + 1) = 256 ^ bs.length * 256 ^ (e + 1) := by ring
    _ ≤ ofBigEndian (b :: bs) * 256 ^ (e + 1) := Nat.mul_le_mul_right _ hfirst

/-- the first `n` of bytes that are followed by zeros -/
theorem ofBigEndian_take_zeros (bs : Bytes) (n : Nat) :
    ofBigEndian ((bs ++ List.replicate n 0).take n) = scaled bs n := by
  rw [ofBigEndian_take, ofBigEndian_append, ofBigEndian_replicate_zero, List.length_append,
    List.length_replicate, Nat.add_sub_cancel, Nat.add_zero, scaled]

end Bytes

namespace Target

open Bytes (scaled ofBigEndian)

/-! ## placing bytes -/

theorem placeAll_behind {bs : Bytes} {i : Int} (h : bs.length ≤ i) (new : Bytes) :
    placeAll bs i new = some bs := by
  induction new generalizing i with
  | nil => rfl
  | cons b rest ih =>
    have hset : place bs i b = some bs := by
      rw [place, if_neg (by omega), List.set_eq_of_length_le (by omega)]
    rw [placeAll, hset]
    exact ih (by omega)

/-- bytes take the places of zeros, as far as there are any -/
theorem placeAll_inside (front new : Bytes) (n : Nat) :
    placeAll (front ++ List.replicate n 0) front.length new
      = some (front ++ (new ++ List.replicate n 0).take n) := by
  induction new generalizing front n with
  | nil =>
    rw [placeAll, List.nil_append, List.take_of_length_le (by rw [List.length_replicate])]
  | cons b rest ih =>
    cases n with
    | zero =>
      rw [List.replicate_zero, List.append_nil, List.take_zero, List.append_nil]
      exact placeAll_behind (by omega) _
    | succ n =>
      have hset : place (front ++ List.replicate (n + 1) 0) front.length b
          = some ((front ++ [b]) ++ List.replicate n 0) := by
        rw [place, if_neg (by omega), Int.toNat_natCast, List.set_append_right _ _ (Nat.le_refl _),
          Nat.sub_self, List.replicate_succ, List.set_cons_zero, List.append_assoc,
          List.singleton_append]
      have hnext : (front.length : Int) + 1 = (front ++ [b]).length := by
        rw [List.length_append, List.length_singleton]
        omega
      have hroom : (rest ++ List.replicate (n + 1) 0).take n
          = (rest ++ List.replicate n 0).take n := by
        rw [List.replicate_succ', ← List.append_assoc, List.take_append_of_le_length]
        rw [List.length_append, List.length_replicate]
        omega
      rw [placeAll, hset]
      dsimp only
      rw [hnext, ih, List.cons_append, List.take_succ_cons, hroom, List.append_assoc,
        List.singleton_append]

/-- what comes of placing bytes among `n` zeros with the first one `e` places from the end: the number
they spell there, if `n` bytes have room for it -/
def Placed (n e : Nat) (new : Bytes) : Option Bytes → Prop
  | some r => r.length = n ∧ ofBigEndian r = scaled new e
  | none => 256 ^ n ≤ scaled new e

theorem Placed.zero_cons {n e : Nat} {new : Bytes} {r : Option Bytes} (h : Placed n e new r) :
    Placed n (e + 1) (0 :: new) r := by
  cases r with
  | some r => exact ⟨h.1, h.2.trans (Bytes.scaled_zero_cons new e).symm⟩
  | none => exact h.trans_eq (Bytes.scaled_zero_cons new e).symm

theorem placed_of_le {n e : Nat} (h : e ≤ n) (new : Bytes) :
    Placed n e new (placeAll (List.replicate n 0) (n - e) new) := by
  obtain ⟨front, rfl⟩ := Nat.exists_eq_add_of_le' h
  have hplace := placeAll_inside (List.replicate front 0) new e
  have hindex : ((front + e : Nat) : Int) - e = front := by omega
  rw [List.length_replicate, List.replicate_append_replicate, ← hindex] at hplace
  rw [hplace]
  constructor
  · simp only [List.length_append, List.length_take, List.length_replicate]
    omega
  · rw [Bytes.ofBigEndian_append, Bytes.ofBigEndian_replicate_zero, Nat.zero_mul, Nat.zero_add,
      Bytes.ofBigEndian_take_zeros]

/-- the first `above` bytes lie before all places -/
theorem placed_above (n above : Nat) (new : Bytes) :
    Placed n (n + above) new (placeAll (List.replicate n 0) (n - (n + above : Nat)) new) := by
  induction new generalizing above with
  | nil =>
    refine ⟨List.length_replicate, ?_⟩
    rw [Bytes.ofBigEndian_replicate_zero, scaled, Bytes.ofBigEndian, List.reverse_nil,
      Bytes.ofLittleEndian_nil, Nat.zero_mul, Nat.zero_div]
  | cons b rest ih =>
    cases above with
    | zero => exact placed_of_le (Nat.le_refl n) (b :: rest)
    | succ above =>
      have hbefore : (n : Int) - (n + (above + 1) : Nat) < 0 := by omega
      have hnext : (n : Int) - (n + (above + 1) : Nat) + 1 = n - (n + above : Nat) := by omega
      rw [placeAll, place, if_pos hbefore]
      by_cases hb : b = 0
      · rw [if_pos hb, hb]
        show Placed _ _ _ (placeAll _ (_ + 1) rest)
        rw [hnext]
        exact (ih above).zero_cons
      · rw [if_neg hb]
        have hroom : 256 ^ n ≤ 256 ^ (n + above) := Nat.pow_le_pow_right (by decide) (by omega)
        exact hroom.trans (Bytes.le_scaled_cons hb rest _)

theorem placed (n e : Nat) (new : Bytes) :
    Placed n e new (placeAll (List.replicate n 0) (n - e) new) := by
  rcases Nat.le_total e n with hle | hle
  · exact placed_of_le hle new
  · obtain ⟨above, rfl⟩ := Nat.exists_eq_add_of_le hle
    exact placed_above n above new

/-! ## the parts of a compact form -/

theorem exponent_eq (bits : UInt32) : exponent bits = bits.toNat / 2 ^ 24 := by
  rw [exponent, UInt32.toNat_shiftRight, Nat.shiftRight_eq_div_pow]
  rfl

theorem toNat_mantissa (bits : UInt32) : (mantissa bits).toNat = bits.toNat % 2 ^ 23 := by
  rw [mantissa, UInt32.toNat_and]
  exact Nat.and_two_pow_sub_one_eq_mod bits.toNat 23

theorem mantissa_eq_zero (bits : UInt32) : mantissa bits = 0 ↔ bits.toNat % 2 ^ 23 = 0 := by
  rw [← UInt32.toNat_inj, toNat_mantissa, UInt32.toNat_zero]

theorem sign_ne_zero (bits : UInt32) :
    bits &&& 0x800000 ≠ 0 ↔ bits.toNat.testBit 23 = true := by
  rw [ne_eq, ← UInt32.toNat_inj, UInt32.toNat_and, UInt32.toNat_zero]
  show ¬ bits.toNat &&& 2 ^ 23 = 0 ↔ _
  rw [Nat.and_two_pow]
  cases bits.toNat.testBit 23 <;> simp

theorem ofBigEndian_mantissaBytes (bits : UInt32) :
    ofBigEndian (mantissaBytes bits) = bits.toNat % 2 ^ 23 := by
  have hlt : (mantissa bits).toNat < 2 ^ 23 := by
    rw [toNat_mantissa]
    exact Nat.mod_lt _ (by decide)
  have hhigh : (mantissa bits >>> 16).toUInt8.toNat = (mantissa bits).toNat / 2 ^ 16 % 256 := by
    rw [UInt32.toNat_toUInt8, UInt32.toNat_shiftRight, Nat.shiftRight_eq_div_pow]
    rfl
  have hmid : (mantissa bits >>> 8).toUInt8.toNat = (mantissa bits).toNat / 2 ^ 8 % 256 := by
    rw [UInt32.toNat_toUInt8, UInt32.toNat_shiftRight, Nat.shiftRight_eq_div_pow]
    rfl
  have hlow : (mantissa bits).toUInt8.toNat = (mantissa bits).toNat % 256 :=
    UInt32.toNat_toUInt8 _
  rw [← toNat_mantissa, mantissaBytes, Bytes.ofBigEndian_cons, Bytes.ofBigEndian_cons,
    Bytes.ofBigEndian_cons, hhigh, hmid, hlow]
  show _ * 256 ^ 2 + (_ * 256 ^ 1 + (_ * 256 ^ 0 + 0)) = _
  omega

/-! ## the target -/

theorem toNat_lt (t : Target) : t.toNat < 2 ^ 256 := by
  have := Bytes.ofBigEndian_lt t.bytes
  rw [bytes, Digest.length_bytes] at this
  exact this

def compactNumber (bits : UInt32) : ℚ :=
  (bits.toNat % 2 ^ 23 : ℕ) * 256 ^ ((bits.toNat / 2 ^ 24 : ℕ) - 3 : ℤ)

/-- a compact form has a sign, and is not zero -/
def IsNegative (bits : UInt32) : Prop := bits.toNat.testBit 23 = true ∧ bits.toNat % 2 ^ 23 ≠ 0

theorem floor_compactNumber (bits : UInt32) :
    ⌊compactNumber bits⌋₊ = scaled (mantissaBytes bits) (exponent bits) := by
  have hquotient : compactNumber bits
      = ((bits.toNat % 2 ^ 23 * 256 ^ (bits.toNat / 2 ^ 24) : ℕ) : ℚ) / (256 ^ 3 : ℕ) := by
    rw [compactNumber, zpow_sub₀ (by norm_num), zpow_natCast, mul_div_assoc']
    push_cast
    rfl
  rw [hquotient, Nat.floor_div_eq_div, scaled, ofBigEndian_mantissaBytes, exponent_eq]
  rfl

/-- the mantissa among 32 zero bytes -/
def expansion (bits : UInt32) : Option Bytes :=
  placeAll Digest.zero.bytes (32 - (exponent bits : Int)) (mantissaBytes bits)

theorem placed_expansion (bits : UInt32) :
    Placed 32 (exponent bits) (mantissaBytes bits) (expansion bits) :=
  placed 32 (exponent bits) (mantissaBytes bits)

section
variable {bits : UInt32} (hsign : ¬ (bits &&& 0x800000 ≠ 0 ∧ mantissa bits ≠ 0))
include hsign

theorem ofCompact_of_none (h : expansion bits = none) :
    ofCompact bits = .error (.tooLarge bits) := by
  rw [ofCompact, if_neg hsign]
  split
  case h_1 => rfl
  case h_2 hsome => cases h.symm.trans hsome

theorem ofCompact_of_some {bs : Bytes} (h : expansion bits = some bs) :
    ∃ t, ofCompact bits = .ok t ∧ t.bytes = bs := by
  rw [ofCompact, if_neg hsign]
  split
  case h_1 hnone => cases h.symm.trans hnone
  case h_2 hsome =>
    obtain rfl := Option.some.inj (h.symm.trans hsome)
    exact ⟨_, rfl, rfl⟩

end

/-- a compact form is negative, or too large, or its target is its number rounded down -/
theorem ofCompact_cases (bits : UInt32) :
    (IsNegative bits ∧ ofCompact bits = .error (.negative bits)) ∨
    (¬ IsNegative bits ∧ 2 ^ 256 ≤ ⌊compactNumber bits⌋₊ ∧
      ofCompact bits = .error (.tooLarge bits)) ∨
    (¬ IsNegative bits ∧ ∃ t, ofCompact bits = .ok t ∧ t.toNat = ⌊compactNumber bits⌋₊) := by
  have hiff : (bits &&& 0x800000 ≠ 0 ∧ mantissa bits ≠ 0) ↔ IsNegative bits := by
    rw [IsNegative, sign_ne_zero, ne_eq, mantissa_eq_zero]
  by_cases hsign : bits &&& 0x800000 ≠ 0 ∧ mantissa bits ≠ 0
  · exact .inl ⟨hiff.1 hsign, if_pos hsign⟩
  · have hplaced := placed_expansion bits
    rw [floor_compactNumber]
    cases h : expansion bits with
    | none =>
      rw [h] at hplaced
      exact .inr (.inl ⟨mt hiff.2 hsign, hplaced, ofCompact_of_none hsign h⟩)
    | some bs =>
      rw [h] at hplaced
      obtain ⟨t, ht, rfl⟩ := ofCompact_of_some hsign h
      exact .inr (.inr ⟨mt hiff.2 hsign, t, ht, hplaced.2⟩)

theorem toNat_of_ofCompact {bits : UInt32} {t : Target} (h : ofCompact bits = .ok t) :
    t.toNat = ⌊compactNumber bits⌋₊ := by
  rcases ofCompact_cases bits with ⟨-, e⟩ | ⟨-, -, e⟩ | ⟨-, t', e, hnumber⟩
  · cases e.symm.trans h
  · cases e.symm.trans h
  · obtain rfl := Except.ok.inj (e.symm.trans h)
    exact hnumber

theorem exists_ofCompact_iff {bits : UInt32} :
    (∃ t, ofCompact bits = .ok t) ↔ ¬ IsNegative bits ∧ ⌊compactNumber bits⌋₊ < 2 ^ 256 := by
  rcases ofCompact_cases bits with ⟨hn, e⟩ | ⟨-, hlarge, e⟩ | ⟨hn, t, e, hnumber⟩
  · exact iff_of_false (fun ⟨_, h⟩ => by cases e.symm.trans h) fun h => h.1 hn
  · exact iff_of_false (fun ⟨_, h⟩ => by cases e.symm.trans h) fun h => Nat.not_lt.2 hlarge h.2
  · exact iff_of_true ⟨t, e⟩ ⟨hn, hnumber ▸ t.toNat_lt⟩

/-! ## no index outside -/

/-- `place` into 32 bytes, giving up at an index outside -/
def place? (bs : Bytes) (i : Int) (b : UInt8) : Option (Option Bytes) :=
  if i < 0 then some (if b = 0 then some bs else none)
  else if i < 32 then if i.toNat < bs.length then some (some (bs.set i.toNat b)) else none
  else some (some bs)

def placeAll? (bs : Bytes) (i : Int) : Bytes → Option (Option Bytes)
  | [] => some (some bs)
  | b :: rest =>
    (place? bs i b).bind fun
      | none => some none
      | some bs => placeAll? bs (i + 1) rest

def ofCompact? (bits : UInt32) : Option (Except CompactFault Bytes) :=
  if bits &&& 0x800000 ≠ 0 ∧ mantissa bits ≠ 0 then some (.error (.negative bits))
  else
    (placeAll? Digest.zero.bytes (32 - (exponent bits : Int)) (mantissaBytes bits)).map fun
      | none => .error (.tooLarge bits)
      | some bs => .ok bs

theorem placeAll?_eq {bs : Bytes} (h : bs.length = 32) (i : Int) (new : Bytes) :
    placeAll? bs i new = some (placeAll bs i new) := by
  induction new generalizing bs i with
  | nil => rfl
  | cons b rest ih =>
    have hplace : place? bs i b = some (place bs i b) := by
      unfold place? place
      by_cases h0 : i < 0
      · rw [if_pos h0, if_pos h0]
      · rw [if_neg h0, if_neg h0]
        by_cases h32 : i < 32
        · rw [if_pos h32, if_pos (by omega)]
        · rw [if_neg h32, List.set_eq_of_length_le (by omega)]
    rw [placeAll?, hplace, Option.bind_some, placeAll]
    cases hr : place bs i b with
    | none => rfl
    | some r =>
      have hone : placeAll bs i [b] = some r := by rw [placeAll, hr]; rfl
      exact ih ((length_placeAll hone).trans h) (i + 1)

theorem ofCompact?_eq (bits : UInt32) : ofCompact? bits = some ((ofCompact bits).map bytes) := by
  by_cases hsign : bits &&& 0x800000 ≠ 0 ∧ mantissa bits ≠ 0
  · rw [ofCompact?, ofCompact, if_pos hsign, if_pos hsign]
    rfl
  · rw [ofCompact?, if_neg hsign, placeAll?_eq Digest.zero.length_bytes, Option.map_some]
    cases h : expansion bits with
    | none =>
      rw [ofCompact_of_none hsign h, show placeAll _ _ _ = none from h]
      rfl
    | some bs =>
      obtain ⟨t, ht, rfl⟩ := ofCompact_of_some hsign h
      rw [ht, show placeAll _ _ _ = some t.bytes from h]
      rfl

end Target

open Target in
/-- a compact form has no target if and only if it is negative or its number, rounded down, has more
than 256 bits; otherwise that is its target; and no index on the way to it is outside -/
theorem compact_target_exact (bits : UInt32) :
    ((∃ f, ofCompact bits = .error f) ↔
      IsNegative bits ∨ 2 ^ 256 ≤ ⌊compactNumber bits⌋₊) ∧
    (∀ t, ofCompact bits = .ok t → Bytes.ofBigEndian t.bytes = ⌊compactNumber bits⌋₊) ∧
    ofCompact? bits = some ((ofCompact bits).map bytes) := by
  refine ⟨?_, fun t h => toNat_of_ofCompact h, ofCompact?_eq bits⟩
  rcases ofCompact_cases bits with ⟨hn, e⟩ | ⟨-, hlarge, e⟩ | ⟨hn, t, e, hnumber⟩
  · exact iff_of_true ⟨_, e⟩ (.inl hn)
  · exact iff_of_true ⟨_, e⟩ (.inr hlarge)
  · refine iff_of_false ?_ ?_
    · rintro ⟨f, h⟩
      cases e.symm.trans h
    · rintro (h | h)
      · exact hn h
      · exact Nat.not_le.2 (hnumber ▸ t.toNat_lt) h

/-- a zero byte of the mantissa may lie above the 32 bytes, another one may not -/
example : (Target.ofCompact 0x2100ffff).isOk = true ∧ (Target.ofCompact 0x21010000).isOk = false := by
  decide

end CycleMiner
