import CycleMiner.CompactSize
import CycleMiner.Proofs.Bytes

/-!
# The forms of CompactSize numbers

A number has up to four forms, of one, three, five and nine bytes.  Which one stands at the front
of a byte string is told by its first byte, so the reader takes a number off the bytes of any form
that has room for it, and the writer settles on the shortest one.

* `Form`, `Form.bytes`      the forms, and the bytes of a number in one of them;
* `Form.bound`, `Form.IsShortest`   the numbers with room in a form, and the shortest such form;
* `decode_eq_some_iff`      a number is read off its bytes in every form with room for it, and off
  nothing else;
* `exists_isShortest`       what is written are its bytes in the shortest form;
* `decodeShortest`          a reader that refuses longer forms, which takes exactly what is written;
* `write`, `toList_write`   a number cut down to the width of its form, behind what a buffer holds;
* `compact_size_canonical`  all of this for every double word, and no number's bytes are the front
  of another's.
-/

namespace CycleMiner

namespace CompactSize

/-- a number stands by itself in one byte, or in two, four or eight bytes behind a mark -/
inductive Form where
  | single
  | two
  | four
  | eight
  deriving DecidableEq, Repr

namespace Form

def mark : Form → Bytes
  | single => []
  | two => [0xfd]
  | four => [0xfe]
  | eight => [0xff]

def width : Form → Nat
  | single => 1
  | two => 2
  | four => 4
  | eight => 8

def size : Form → Nat
  | single => 1
  | two => 3
  | four => 5
  | eight => 9

/-- the numbers below have room; a mark is no number by itself -/
def bound : Form → Nat
  | single => 0xfd
  | two => 2 ^ 16
  | four => 2 ^ 32
  | eight => 2 ^ 64

/-- the numbers below have room in a shorter form -/
def least : Form → Nat
  | single => 0
  | two => 0xfd
  | four => 2 ^ 16
  | eight => 2 ^ 32

def bytes (f : Form) (n : Nat) : Bytes := f.mark ++ Bytes.littleEndian f.width n

/-- the form that a first byte tells -/
def ofByte (b : UInt8) : Form :=
  if b < 0xfd then single else if b = 0xfd then two else if b = 0xfe then four else eight

/-- no form with room for the number takes fewer bytes -/
structure IsShortest (f : Form) (n : Nat) : Prop where
  lt_bound : n < f.bound
  size_le : ∀ g : Form, n < g.bound → f.size ≤ g.size

variable {f g : Form} {b : UInt8} {n : Nat}

theorem length_bytes (f : Form) (n : Nat) : (f.bytes n).length = f.size := by
  rw [bytes, List.length_append, Bytes.length_littleEndian]
  cases f <;> rfl

theorem size_injective : Function.Injective size := by
  intro f g h
  cases f <;> cases g <;> simp [size] at h ⊢

theorem bound_eq (hf : f ≠ single) : f.bound = 256 ^ f.width := by
  cases f
  case single => exact absurd rfl hf
  all_goals rfl

theorem bound_le_pow (f : Form) : f.bound ≤ 256 ^ f.width := by
  cases f <;> decide

theorem lt_two_pow (h : n < f.bound) : n < 2 ^ 64 :=
  Nat.lt_of_lt_of_le h (by cases f <;> decide)

/-! ## the shortest form -/

/-- the forms share out the numbers below `2 ^ 64` -/
theorem isShortest_iff : f.IsShortest n ↔ f.least ≤ n ∧ n < f.bound := by
  constructor
  · intro h
    -- a smaller number would have room in one of these, which are shorter
    refine ⟨?_, h.lt_bound⟩
    have h1 := h.size_le single
    have h2 := h.size_le two
    have h4 := h.size_le four
    cases f <;> simp only [least, bound, size] at h1 h2 h4 ⊢ <;> omega
  · rintro ⟨hle, hlt⟩
    refine ⟨hlt, fun g hg => ?_⟩
    cases f <;> cases g <;> simp only [least, bound, size] at hle hg ⊢ <;> omega

/-- in any other form the number is longer -/
theorem IsShortest.eq_or_size_lt (h : f.IsShortest n) (hg : n < g.bound) :
    g = f ∨ f.size < g.size := by
  obtain hlt | heq := Nat.lt_or_eq_of_le (h.size_le g hg)
  · exact .inr hlt
  · exact .inl (size_injective heq.symm)

/-! ## the first byte -/

theorem ofByte_eq_single_iff : ofByte b = single ↔ b < 0xfd := by
  unfold ofByte
  split
  case isTrue h => exact ⟨fun _ => h, fun _ => rfl⟩
  case isFalse h =>
    refine ⟨fun e => ?_, fun h' => absurd h' h⟩
    split at e
    case isTrue => cases e
    case isFalse => split at e <;> cases e

theorem mark_ofByte (hb : ¬ b < 0xfd) : (ofByte b).mark = [b] := by
  rw [ofByte, if_neg hb]
  split
  case isTrue h => rw [h, mark]
  case isFalse h2 =>
    split
    case isTrue h => rw [h, mark]
    case isFalse h4 =>
      have hmark : b = 0xff := by
        have hlt := b.toNat_lt
        rw [UInt8.lt_iff_toNat_lt] at hb
        rw [← UInt8.toNat_inj] at h2 h4 ⊢
        simp only [UInt8.reduceToNat] at hb h2 h4 ⊢
        omega
      rw [hmark, mark]

theorem toNat_ofNat_of_lt_bound (h : n < single.bound) : (UInt8.ofNat n).toNat = n := by
  rw [UInt8.toNat_ofNat']
  exact Nat.mod_eq_of_lt (Nat.lt_of_lt_of_le h single.bound_le_pow)

theorem ofNat_lt_of_lt_bound (h : n < single.bound) : UInt8.ofNat n < 0xfd := by
  rw [UInt8.lt_iff_toNat_lt, toNat_ofNat_of_lt_bound h]
  exact h

theorem ofByte_eq {tail rest : Bytes} (h : n < f.bound) (e : b :: tail = f.bytes n ++ rest) :
    ofByte b = f := by
  cases f
  case single =>
    obtain ⟨rfl, -⟩ := List.cons.inj e
    exact ofByte_eq_single_iff.2 (ofNat_lt_of_lt_bound h)
  all_goals
    obtain ⟨rfl, -⟩ := List.cons.inj e
    rfl

end Form

/-! ## reading -/

section
variable {n k : Nat} {b : UInt8} {bs rest : Bytes}

theorem take_eq_some_iff :
    take k bs = some (n, rest) ↔ n < 256 ^ k ∧ bs = Bytes.littleEndian k n ++ rest := by
  unfold take
  constructor
  · intro h
    split at h
    case isTrue hle =>
      obtain ⟨rfl, rfl⟩ := Prod.mk.inj (Option.some.inj h)
      have hlen : (bs.take k).length = k := List.length_take_of_le hle
      have hlt := Bytes.ofLittleEndian_lt (bs.take k)
      have hback := Bytes.littleEndian_ofLittleEndian (bs.take k)
      rw [hlen] at hlt hback
      exact ⟨hlt, by rw [hback, List.take_append_drop]⟩
    case isFalse => cases h
  · rintro ⟨hn, rfl⟩
    have hl : (Bytes.littleEndian k n).length = k := Bytes.length_littleEndian k n
    rw [if_pos (by rw [List.length_append]; omega), List.take_left' hl, List.drop_left' hl,
      Bytes.ofLittleEndian_littleEndian, Nat.mod_eq_of_lt hn]

theorem decode_cons_of_lt (hb : b < 0xfd) : decode (b :: rest) = some (b.toNat, rest) :=
  if_pos hb

theorem decode_mark_append {f : Form} (hf : f ≠ .single) :
    decode (f.mark ++ bs) = take f.width bs := by
  cases f
  case single => exact absurd rfl hf
  all_goals rfl

theorem decode_eq_some_iff :
    decode bs = some (n, rest) ↔ ∃ f : Form, n < f.bound ∧ bs = f.bytes n ++ rest := by
  constructor
  · intro h
    cases bs with
    | nil => cases h
    | cons b tail =>
      by_cases hb : b < 0xfd
      · rw [decode_cons_of_lt hb] at h
        obtain ⟨rfl, rfl⟩ := Prod.mk.inj (Option.some.inj h)
        refine ⟨.single, UInt8.lt_iff_toNat_lt.1 hb, ?_⟩
        show b :: tail = UInt8.ofNat b.toNat :: tail
        rw [UInt8.ofNat_toNat]
      · have hf : Form.ofByte b ≠ .single := fun e => hb (Form.ofByte_eq_single_iff.1 e)
        rw [← List.singleton_append, ← Form.mark_ofByte hb, decode_mark_append hf,
          take_eq_some_iff] at h
        obtain ⟨hn, rfl⟩ := h
        refine ⟨Form.ofByte b, by rwa [Form.bound_eq hf], ?_⟩
        rw [Form.bytes, List.append_assoc, Form.mark_ofByte hb, List.singleton_append]
  · rintro ⟨f, hn, rfl⟩
    by_cases hf : f = .single
    · subst hf
      show decode (UInt8.ofNat n :: rest) = some (n, rest)
      rw [decode_cons_of_lt (Form.ofNat_lt_of_lt_bound hn), Form.toNat_ofNat_of_lt_bound hn]
    · rw [Form.bytes, List.append_assoc, decode_mark_append hf, take_eq_some_iff]
      exact ⟨Nat.lt_of_lt_of_le hn f.bound_le_pow, rfl⟩

end

/-! ## writing -/

theorem exists_isShortest {n : Nat} (h : n < 2 ^ 64) :
    ∃ f : Form, f.IsShortest n ∧ encode n = f.bytes n := by
  unfold encode
  split
  case isTrue h1 => exact ⟨.single, Form.isShortest_iff.2 ⟨Nat.zero_le n, h1⟩, rfl⟩
  case isFalse h1 =>
    split
    case isTrue h2 =>
      exact ⟨.two, Form.isShortest_iff.2 ⟨Nat.le_of_not_lt h1, Nat.lt_succ_of_le h2⟩, rfl⟩
    case isFalse h2 =>
      split
      case isTrue h4 =>
        exact ⟨.four, Form.isShortest_iff.2 ⟨Nat.lt_of_not_le h2, Nat.lt_succ_of_le h4⟩, rfl⟩
      case isFalse h4 =>
        exact ⟨.eight, Form.isShortest_iff.2 ⟨Nat.lt_of_not_le h4, h⟩, rfl⟩

/-- there is only one shortest form, so it is the one that is written -/
theorem Form.IsShortest.encode_eq {f : Form} {n : Nat} (h : f.IsShortest n) :
    encode n = f.bytes n := by
  obtain ⟨g, hg, e⟩ := exists_isShortest (lt_two_pow h.lt_bound)
  obtain rfl | hlt := hg.eq_or_size_lt h.lt_bound
  · exact e
  · exact absurd (h.size_le g hg.lt_bound) (Nat.not_le.2 hlt)

theorem decode_encode {n : Nat} (h : n < 2 ^ 64) (rest : Bytes) :
    decode (encode n ++ rest) = some (n, rest) := by
  obtain ⟨f, hf, e⟩ := exists_isShortest h
  exact decode_eq_some_iff.2 ⟨f, hf.lt_bound, by rw [e]⟩

theorem eq_of_encode_append_eq {m n : Nat} {rest : Bytes} (hm : m < 2 ^ 64) (hn : n < 2 ^ 64)
    (e : encode m ++ rest = encode n) : m = n := by
  have hread := decode_encode hn []
  rw [List.append_nil, ← e, decode_encode hm] at hread
  exact congrArg Prod.fst (Option.some.inj hread)

/-! ## a reader that refuses longer forms -/

/-- a number in its shortest form -/
def decodeShortest : Bytes → Option (Nat × Bytes)
  | [] => none
  | b :: rest => (decode (b :: rest)).filter fun p => (Form.ofByte b).least ≤ p.1

theorem decodeShortest_eq_some_iff {n : Nat} {bs rest : Bytes} :
    decodeShortest bs = some (n, rest) ↔ n < 2 ^ 64 ∧ bs = encode n ++ rest := by
  constructor
  · intro h
    cases bs with
    | nil => cases h
    | cons b tail =>
      rw [decodeShortest, Option.filter_eq_some_iff, decode_eq_some_iff, decide_eq_true_iff] at h
      obtain ⟨⟨f, hn, e⟩, hle⟩ := h
      rw [Form.ofByte_eq hn e] at hle
      have hf : f.IsShortest n := Form.isShortest_iff.2 ⟨hle, hn⟩
      exact ⟨Form.lt_two_pow hn, by rw [e, hf.encode_eq]⟩
  · rintro ⟨hn, e⟩
    have hread : decode bs = some (n, rest) := by
      rw [e]
      exact decode_encode hn rest
    obtain ⟨f, hf, ef⟩ := exists_isShortest hn
    rw [ef] at e
    cases bs with
    | nil => cases hread
    | cons b tail =>
      have hle : f.least ≤ n := (Form.isShortest_iff.1 hf).1
      rw [decodeShortest, hread, Form.ofByte_eq hf.lt_bound e, Option.filter_some,
        if_pos (decide_eq_true hle)]

/-! ## writing into a buffer -/

def write (value : UInt64) (output : Array UInt8) : Array UInt8 :=
  if value < 0xfd then output.push value.toUInt8
  else if value ≤ 0xffff then output.push 0xfd ++ Bytes.littleEndian 2 value.toUInt16.toNat
  else if value ≤ 0xffffffff then output.push 0xfe ++ Bytes.ofUInt32 value.toUInt32
  else output.push 0xff ++ Bytes.ofUInt64 value

theorem toList_write (value : UInt64) (output : Array UInt8) :
    (write value output).toList = output.toList ++ encode value.toNat := by
  -- what is cut off is not among the bytes that are written
  have h2 : Bytes.littleEndian 2 value.toUInt16.toNat = Bytes.littleEndian 2 value.toNat := by
    rw [UInt64.toNat_toUInt16]
    exact Bytes.littleEndian_mod 2 _
  have h4 : Bytes.ofUInt32 value.toUInt32 = Bytes.littleEndian 4 value.toNat := by
    rw [Bytes.ofUInt32, UInt64.toNat_toUInt32]
    exact Bytes.littleEndian_mod 4 _
  unfold write encode
  rw [h2, h4]
  simp only [UInt64.lt_iff_toNat_lt, UInt64.le_iff_toNat_le, UInt64.reduceToNat]
  split
  case isTrue => rw [Array.toList_push]; rfl
  case isFalse =>
    split
    case isTrue => simp
    case isFalse =>
      split
      case isTrue => simp
      case isFalse => simp [Bytes.ofUInt64]

end CompactSize

open CompactSize

/-- a double word is written behind what the buffer holds, which stays as it was, in the shortest of
the forms of one, three, five and nine bytes that have room for it; it is read off again, whatever
stands behind it, a reader that refuses longer forms takes it off these bytes and no others, and no
other number's bytes begin with them -/
theorem compact_size_canonical (value : UInt64) :
    (∀ output, (write value output).toList = output.toList ++ encode value.toNat) ∧
    (∀ rest, decode (encode value.toNat ++ rest) = some (value.toNat, rest)) ∧
    (∃ form : Form, form.IsShortest value.toNat ∧
      encode value.toNat = form.bytes value.toNat ∧ (encode value.toNat).length = form.size) ∧
    (∀ bs rest, decodeShortest bs = some (value.toNat, rest) ↔ bs = encode value.toNat ++ rest) ∧
    (∀ value' : UInt64, encode value.toNat <+: encode value'.toNat → value = value') := by
  have hlt : value.toNat < 2 ^ 64 := value.toNat_lt
  refine ⟨toList_write value, decode_encode hlt, ?_, fun bs rest => ?_, ?_⟩
  · obtain ⟨form, hshort, e⟩ := exists_isShortest hlt
    exact ⟨form, hshort, e, by rw [e, Form.length_bytes]⟩
  · rw [decodeShortest_eq_some_iff]
    exact and_iff_right hlt
  · rintro value' ⟨rest, e⟩
    exact UInt64.toNat_inj.1 (eq_of_encode_append_eq hlt value'.toNat_lt e)

example : write 0x1234 (write 100 #[]) = #[100, 0xfd, 0x34, 0x12] := by decide

end CycleMiner
