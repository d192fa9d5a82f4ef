import CycleMiner.Block.HeightPush
import CycleMiner.Proofs.Bytes.Reader
import Mathlib.Data.List.Basic

/-!
# The push of a height is the shortest one

A script language pushes numbers: up to 16 by an operation of their own, others as a count of bytes
and the bytes, least significant first, where the top bit of the last byte is a sign.

* `Block.signedNumber`, `Block.push`   reading a number, and a push of one;
* `Block.IsMinimalPush`                bytes that push a number, no longer than any that do;
* `Block.isMinimalPush_heightPush`     the push of a height is of that kind;
* `Block.eq_or_length_lt_of_reads_push`   and the only one that short;
* `Block.length_heightPush_le`         it is at most ten bytes long;
* `height_pushed_minimally`            all of this, and the height is read off whatever the push is
  followed by.

That it is the shortest rests on the last byte: bytes whose top bit is not set spell a number below
`128 * 256 ^ k`, where `k` of them stand before the last one, and such a number is written in at
most `k + 1` bytes.  That it is the only one rests on the bytes of one length that spell a number
being its digits.
-/

namespace CycleMiner.Block

/-! ## reading a push -/

/-- the number that bytes spell if the top bit of the last one is a sign -/
def signedNumber (bs : Bytes) : Int :=
  match bs.getLast? with
  | none => 0
  | some top =>
    if top < 0x80 then Bytes.ofLittleEndian bs
    else 0x80 * 256 ^ (bs.length - 1) - Bytes.ofLittleEndian bs

/-- a push of a number: of no bytes or more, or of a number from 1 to 16 -/
def push : Reader Int
  | [] => none
  | op :: rest =>
    if op ≤ 75 then (signedNumber <$> Reader.bytes op.toNat) rest
    else if 0x51 ≤ op ∧ op ≤ 0x60 then some (op.toNat - 0x50, rest)
    else none

/-- bytes that push a number, no longer than any that do -/
structure IsMinimalPush (n : Int) (bs : Bytes) : Prop where
  reads : Reads push bs n
  shortest : ∀ bs', Reads push bs' n → bs.length ≤ bs'.length

/-! ## bytes without zeros on top -/

theorem ofLittleEndian_minimalBytes (n : Nat) : Bytes.ofLittleEndian (minimalBytes n) = n := by
  induction n using Nat.strongRecOn with
  | ind n ih =>
    rw [minimalBytes]
    split
    case isTrue h => exact h.symm
    case isFalse h =>
      rw [Bytes.ofLittleEndian_cons, ih (n / 256) (by omega), UInt8.toNat_ofNat']
      omega

theorem length_minimalBytes_le {n k : Nat} (h : n < 256 ^ k) : (minimalBytes n).length ≤ k := by
  induction k generalizing n with
  | zero =>
    have hn : n = 0 := by simpa using h
    rw [minimalBytes, if_pos hn]
    exact Nat.le_refl 0
  | succ k ih =>
    rw [minimalBytes]
    split
    case isTrue => exact Nat.zero_le _
    case isFalse =>
      have hk : n / 256 < 256 ^ k := by
        rw [pow_succ] at h
        exact Nat.div_lt_of_lt_mul (by rwa [Nat.mul_comm])
      exact Nat.succ_le_succ (ih hk)

theorem minimalBytes_ne_nil {n : Nat} (h : n ≠ 0) : minimalBytes n ≠ [] := by
  rw [minimalBytes, if_neg h]
  exact List.cons_ne_nil _ _

/-! ## the last byte -/

theorem signedNumber_nil : signedNumber [] = 0 := rfl

theorem signedNumber_of_lt (bs : Bytes) {top : UInt8} (h : top < 0x80) :
    signedNumber (bs ++ [top]) = Bytes.ofLittleEndian (bs ++ [top]) := by
  rw [signedNumber, List.getLast?_concat]
  exact if_pos h

theorem ofLittleEndian_concat_lt (bs : Bytes) {top : UInt8} (h : top < 0x80) :
    Bytes.ofLittleEndian (bs ++ [top]) < 128 * 256 ^ bs.length := by
  have htop : top.toNat + 1 ≤ 128 := UInt8.lt_iff_toNat_lt.1 h
  rw [Bytes.ofLittleEndian_append, Bytes.ofLittleEndian_cons, Bytes.ofLittleEndian_nil,
    Nat.mul_zero, Nat.add_zero]
  calc Bytes.ofLittleEndian bs + 256 ^ bs.length * top.toNat
      < 256 ^ bs.length + 256 ^ bs.length * top.toNat :=
        Nat.add_lt_add_right (Bytes.ofLittleEndian_lt bs) _
    _ = (top.toNat + 1) * 256 ^ bs.length := by ring
    _ ≤ 128 * 256 ^ bs.length := Nat.mul_le_mul_right _ htop

theorem le_ofLittleEndian_concat (bs : Bytes) {top : UInt8} (h : 0x80 ≤ top) :
    128 * 256 ^ bs.length ≤ Bytes.ofLittleEndian (bs ++ [top]) := by
  have htop : 128 ≤ top.toNat := UInt8.le_iff_toNat_le.1 h
  rw [Bytes.ofLittleEndian_append, Bytes.ofLittleEndian_cons, Bytes.ofLittleEndian_nil,
    Nat.mul_zero, Nat.add_zero, Nat.mul_comm (256 ^ bs.length)]
  exact Nat.le_trans (Nat.mul_le_mul_right _ htop) (Nat.le_add_left _ _)

/-- a positive number is not spelt with the top bit set -/
theorem lt_of_signedNumber_pos {bs : Bytes} {top : UInt8} (h : 0 < signedNumber (bs ++ [top])) :
    top < 0x80 := by
  by_contra hn
  have hlast : signedNumber (bs ++ [top])
      = 0x80 * 256 ^ bs.length - Bytes.ofLittleEndian (bs ++ [top]) := by
    rw [signedNumber, List.getLast?_concat]
    show ite _ _ _ = _
    rw [if_neg hn, List.length_append, List.length_singleton, Nat.add_sub_cancel]
  rw [hlast] at h
  have : ((128 * 256 ^ bs.length : Nat) : Int) ≤ Bytes.ofLittleEndian (bs ++ [top]) :=
    Int.ofNat_le.2 (le_ofLittleEndian_concat bs (UInt8.not_lt.1 hn))
  push_cast at this
  omega

/-- the bytes of a number, with a zero byte behind them if the top bit of the last one is set -/
theorem scriptNumber_cases {n : Nat} (hn : n ≠ 0) : ∃ bs top, minimalBytes n = bs ++ [top] ∧
    (top < 0x80 ∧ scriptNumber n = bs ++ [top] ∨
      0x80 ≤ top ∧ scriptNumber n = bs ++ [top] ++ [0]) := by
  obtain ⟨bs, top, e⟩ := (List.eq_nil_or_concat' _).resolve_left (minimalBytes_ne_nil hn)
  refine ⟨bs, top, e, ?_⟩
  have hs : scriptNumber n = if 0x80 ≤ top then bs ++ [top] ++ [0] else bs ++ [top] := by
    unfold scriptNumber
    rw [e]
    simp only [List.getLast?_concat]
  rw [hs]
  by_cases h : 0x80 ≤ top
  · exact .inr ⟨h, if_pos h⟩
  · exact .inl ⟨UInt8.not_le.1 h, if_neg h⟩

theorem signedNumber_scriptNumber {n : Nat} (hn : n ≠ 0) : signedNumber (scriptNumber n) = n := by
  obtain ⟨bs, top, e, ⟨h, hs⟩ | ⟨-, hs⟩⟩ := scriptNumber_cases hn
  · rw [hs, signedNumber_of_lt bs h, ← e, ofLittleEndian_minimalBytes]
  · have hzero : Bytes.ofLittleEndian [0] = 0 := rfl
    rw [hs, signedNumber_of_lt (bs ++ [top]) (by decide : (0 : UInt8) < 0x80),
      Bytes.ofLittleEndian_append, hzero, Nat.mul_zero, Nat.add_zero, ← e,
      ofLittleEndian_minimalBytes]

theorem length_scriptNumber_le {n k : Nat} (hn : n ≠ 0) (h : n < 128 * 256 ^ k) :
    (scriptNumber n).length ≤ k + 1 := by
  have hbytes : (minimalBytes n).length ≤ k + 1 := by
    apply length_minimalBytes_le
    rw [pow_succ]
    omega
  obtain ⟨bs, top, e, ⟨-, hs⟩ | ⟨htop, hs⟩⟩ := scriptNumber_cases hn
  · rw [hs, ← e]
    exact hbytes
  · -- with the top bit set, `k + 1` bytes would spell too large a number
    have hlen : bs.length < k := by
      by_contra hk
      have hpow : 256 ^ k ≤ 256 ^ bs.length := Nat.pow_le_pow_right (by decide) (Nat.not_lt.1 hk)
      have hle := le_ofLittleEndian_concat bs htop
      rw [← e, ofLittleEndian_minimalBytes] at hle
      omega
    rw [hs, List.length_append, List.length_append, List.length_singleton, List.length_singleton]
    omega

/-- no bytes that spell a positive number are fewer -/
theorem length_scriptNumber_le_of_spelt {n : Nat} (hn : n ≠ 0) {bs : Bytes}
    (h : signedNumber bs = n) : (scriptNumber n).length ≤ bs.length := by
  obtain rfl | ⟨init, top, rfl⟩ := List.eq_nil_or_concat' bs
  · rw [signedNumber_nil] at h
    omega
  · have htop : top < 0x80 := @lt_of_signedNumber_pos init top (by omega)
    rw [signedNumber_of_lt init htop] at h
    have hlt : n < 128 * 256 ^ init.length := by
      rw [← Int.ofNat.inj h]
      exact ofLittleEndian_concat_lt init htop
    rw [List.length_append, List.length_singleton]
    exact length_scriptNumber_le hn hlt

/-- bytes of one length that spell the same positive number are the same -/
theorem eq_littleEndian_of_spelt {n : Nat} (hn : n ≠ 0) {bs : Bytes} (h : signedNumber bs = n) :
    bs = Bytes.littleEndian bs.length n := by
  obtain rfl | ⟨init, top, rfl⟩ := List.eq_nil_or_concat' bs
  · rfl
  · have htop : top < 0x80 := @lt_of_signedNumber_pos init top (by omega)
    rw [signedNumber_of_lt init htop] at h
    rw [← Int.ofNat.inj h]
    exact (Bytes.littleEndian_ofLittleEndian _).symm

/-! ## the push of a height -/

/-- how a height is pushed -/
theorem heightPush_cases (height : UInt64) :
    height = 0 ∧ heightPush height = [0] ∨
      (0 < height.toNat ∧ height.toNat ≤ 16 ∧
        heightPush height = [UInt8.ofNat (0x50 + height.toNat)]) ∨
      (16 < height.toNat ∧ (scriptNumber height.toNat).length ≤ 9 ∧
        heightPush height = UInt8.ofNat (scriptNumber height.toNat).length ::
          scriptNumber height.toNat) := by
  unfold heightPush
  by_cases h0 : height.toNat = 0
  · exact .inl ⟨UInt64.toNat_inj.1 h0, if_pos h0⟩
  · by_cases h16 : height.toNat ≤ 16
    · refine .inr (.inl ⟨Nat.pos_of_ne_zero h0, h16, ?_⟩)
      simp only [if_neg h0, if_pos h16]
    · have hlt : height.toNat < 128 * 256 ^ 8 := Nat.lt_of_lt_of_le height.toNat_lt (by decide)
      refine .inr (.inr ⟨Nat.not_le.1 h16, length_scriptNumber_le h0 hlt, ?_⟩)
      simp only [if_neg h0, if_neg h16]

theorem length_heightPush_le (height : UInt64) : (heightPush height).length ≤ 10 := by
  obtain ⟨-, e⟩ | ⟨-, -, e⟩ | ⟨-, hl, e⟩ := heightPush_cases height
  · rw [e]
    decide
  · rw [e, List.length_singleton]
    decide
  · rw [e, List.length_cons]
    omega

theorem length_heightPush_pos (height : UInt64) : 0 < (heightPush height).length := by
  obtain ⟨-, e⟩ | ⟨-, -, e⟩ | ⟨-, -, e⟩ := heightPush_cases height
  all_goals
    rw [e]
    exact Nat.succ_pos _

/-- a count of bytes and the bytes push the number that they spell -/
theorem reads_push_counted {bs : Bytes} (h : bs.length ≤ 75) :
    Reads push (UInt8.ofNat bs.length :: bs) (signedNumber bs) := by
  intro rest
  have hop : (UInt8.ofNat bs.length).toNat = bs.length := by
    rw [UInt8.toNat_ofNat']
    omega
  have hle : UInt8.ofNat bs.length ≤ 75 := by
    rw [UInt8.le_iff_toNat_le, hop]
    exact h
  show ite _ _ _ = _
  rw [if_pos hle, hop]
  exact (Reads.bytes bs).map signedNumber rest

theorem reads_push_small {n : Nat} (hpos : 0 < n) (hle : n ≤ 16) :
    Reads push [UInt8.ofNat (0x50 + n)] n := by
  intro rest
  have hop : (UInt8.ofNat (0x50 + n)).toNat = 0x50 + n := by
    rw [UInt8.toNat_ofNat']
    omega
  have h75 : ¬ UInt8.ofNat (0x50 + n) ≤ 75 := by
    rw [UInt8.le_iff_toNat_le, hop]
    show ¬ 0x50 + n ≤ 75
    omega
  have hsmall : 0x51 ≤ UInt8.ofNat (0x50 + n) ∧ UInt8.ofNat (0x50 + n) ≤ 0x60 := by
    rw [UInt8.le_iff_toNat_le, UInt8.le_iff_toNat_le, hop]
    show 0x51 ≤ 0x50 + n ∧ 0x50 + n ≤ 0x60
    omega
  show ite _ _ _ = _
  rw [if_neg h75, if_pos hsmall, hop]
  congr 2
  push_cast
  omega

/-- a push that is used up is a count of the bytes behind it and these bytes, or one byte for a
number from 1 to 16 -/
theorem push_cases {op : UInt8} {rest : Bytes} {n : Int} (h : push (op :: rest) = some (n, [])) :
    (op = UInt8.ofNat rest.length ∧ signedNumber rest = n) ∨
      (rest = [] ∧ (op.toNat : Int) = 0x50 + n ∧ 0 < n ∧ n ≤ 16) := by
  have hcases : (if op ≤ 75 then (signedNumber <$> Reader.bytes op.toNat) rest
      else if 0x51 ≤ op ∧ op ≤ 0x60 then some ((op.toNat - 0x50 : Int), rest) else none)
        = some (n, []) := h
  split at hcases
  case isTrue =>
    have hmap : (Reader.bytes op.toNat rest >>= fun p => some (signedNumber p.1, p.2))
        = some (n, []) := hcases
    obtain ⟨⟨taken, left⟩, htaken, hspelt⟩ := Option.bind_eq_some_iff.1 hmap
    obtain ⟨hspelt, rfl⟩ := Prod.mk.inj (Option.some.inj hspelt)
    obtain ⟨hrest, hlen⟩ := Reader.bytes_eq_some htaken
    rw [List.append_nil] at hrest
    rw [hrest, hlen, UInt8.ofNat_toNat]
    exact .inl ⟨rfl, hspelt⟩
  case isFalse =>
    split at hcases
    case isTrue hsmall =>
      have hge : 0x51 ≤ op.toNat := UInt8.le_iff_toNat_le.1 hsmall.1
      have hle : op.toNat ≤ 0x60 := UInt8.le_iff_toNat_le.1 hsmall.2
      obtain ⟨rfl, rfl⟩ := Prod.mk.inj (Option.some.inj hcases)
      exact .inr ⟨rfl, by omega, by omega, by omega⟩
    case isFalse => cases hcases

theorem reads_heightPush (height : UInt64) : Reads push (heightPush height) height.toNat := by
  obtain ⟨h, e⟩ | ⟨hpos, hle, e⟩ | ⟨h16, hl, e⟩ := heightPush_cases height
  · rw [e, h]
    exact @reads_push_counted [] (by decide)
  · rw [e]
    exact reads_push_small hpos hle
  · rw [e]
    have := @reads_push_counted (scriptNumber height.toNat) (by omega)
    rwa [signedNumber_scriptNumber (by omega)] at this

/-! ## the shortest push -/

/-- a count of bytes that spell a height is longer than the height's push, or is that push -/
theorem eq_or_length_lt_of_spelt {height : UInt64} {rest : Bytes}
    (h : signedNumber rest = height.toNat) :
    UInt8.ofNat rest.length :: rest = heightPush height ∨
      (heightPush height).length < rest.length + 1 := by
  -- a push of one byte is shorter than any count with bytes behind it
  have hone : (heightPush height).length = 1 → rest ≠ [] →
      (heightPush height).length < rest.length + 1 := by
    intro hl hne
    have := List.length_pos_of_ne_nil hne
    omega
  obtain ⟨-, e⟩ | ⟨hpos, -, e⟩ | ⟨h16, -, e⟩ := heightPush_cases height
  · by_cases hnil : rest = []
    · rw [e, hnil]
      exact .inl rfl
    · exact .inr (hone (by rw [e]; rfl) hnil)
  · refine .inr (hone (by rw [e]; rfl) fun hnil => ?_)
    rw [hnil, signedNumber_nil] at h
    omega
  · have hne : height.toNat ≠ 0 := by omega
    have hle := length_scriptNumber_le_of_spelt hne h
    rw [e, List.length_cons]
    by_cases hlen : (scriptNumber height.toNat).length = rest.length
    · have hrest : rest = scriptNumber height.toNat := by
        rw [eq_littleEndian_of_spelt hne h, ← hlen,
          ← eq_littleEndian_of_spelt hne (signedNumber_scriptNumber hne)]
      rw [hrest]
      exact .inl rfl
    · exact .inr (by omega)

/-- whatever else pushes a height is longer -/
theorem eq_or_length_lt_of_reads_push {height : UInt64} {bs : Bytes}
    (h : Reads push bs height.toNat) :
    bs = heightPush height ∨ (heightPush height).length < bs.length := by
  cases bs with
  | nil => cases h.eq_some
  | cons op rest =>
    obtain ⟨rfl, hspelt⟩ | ⟨rfl, hop, hpos, hle⟩ := push_cases h.eq_some
    · exact eq_or_length_lt_of_spelt hspelt
    · obtain ⟨h0, -⟩ | ⟨-, -, e⟩ | ⟨h16, -⟩ := heightPush_cases height
      · rw [h0] at hpos
        exact absurd hpos (by decide)
      · have hbyte : op = UInt8.ofNat (0x50 + height.toNat) := by
          rw [← UInt8.toNat_inj, UInt8.toNat_ofNat']
          omega
        rw [e, hbyte]
        exact .inl rfl
      · omega

/-- the push of a height is the shortest one -/
theorem isMinimalPush_heightPush (height : UInt64) :
    IsMinimalPush height.toNat (heightPush height) where
  reads := reads_heightPush height
  shortest bs' h := by
    obtain rfl | hlt := eq_or_length_lt_of_reads_push h
    · exact Nat.le_refl _
    · exact Nat.le_of_lt hlt

/-- a zero byte stands on top only behind a byte that would be read as a sign -/
theorem signs_of_heightPush_eq {height : UInt64} {op : UInt8} {init : Bytes}
    (e : heightPush height = op :: (init ++ [0])) : ∃ bs top, init = bs ++ [top] ∧ 0x80 ≤ top := by
  obtain ⟨-, e'⟩ | ⟨-, -, e'⟩ | ⟨h16, -, e'⟩ := heightPush_cases height
  · rw [e] at e'
    simp at e'
  · rw [e] at e'
    simp at e'
  · -- without the zero byte the same number would be spelt, and by fewer bytes than can be
    have hne : height.toNat ≠ 0 := by omega
    obtain ⟨-, hinit⟩ := List.cons.inj (e.symm.trans e')
    have hspelt := signedNumber_scriptNumber hne
    rw [← hinit, signedNumber_of_lt init (by decide)] at hspelt
    have hzero : Bytes.ofLittleEndian (init ++ [0]) = Bytes.ofLittleEndian init := by
      rw [Bytes.ofLittleEndian_append]
      rfl
    obtain rfl | ⟨bs, top, rfl⟩ := List.eq_nil_or_concat' init
    · exact absurd (Int.ofNat.inj hspelt).symm hne
    · refine ⟨bs, top, rfl, UInt8.not_lt.1 fun htop => ?_⟩
      rw [hzero, ← signedNumber_of_lt bs htop] at hspelt
      have hle := length_scriptNumber_le_of_spelt hne hspelt
      rw [← hinit] at hle
      simp only [List.length_append, List.length_singleton] at hle
      omega

end CycleMiner.Block

namespace CycleMiner
open Block

/-- the bytes of every height are one push of it: an operation for 0, one for each of 1 to 16, or a
count and at most nine bytes; no other push of it is as short, a zero byte stands on top only to keep
the number positive, and it is read off whatever the bytes are followed by, so that no push of a
height is the front of another one's -/
theorem height_pushed_minimally (height : UInt64) :
    ((height = 0 ∧ heightPush height = [0x00]) ∨
      (1 ≤ height ∧ height ≤ 16 ∧ heightPush height = [0x50 + height.toUInt8]) ∨
      (16 < height ∧ ∃ bs, bs.length ≤ 9 ∧ heightPush height = UInt8.ofNat bs.length :: bs ∧
        signedNumber bs = height.toNat)) ∧
    (∀ rest, push (heightPush height ++ rest) = some ((height.toNat : Int), rest)) ∧
    (∀ bs, Reads push bs height.toNat →
      bs = heightPush height ∨ (heightPush height).length < bs.length) ∧
    (∀ op init, heightPush height = op :: (init ++ [0]) →
      ∃ bs top, init = bs ++ [top] ∧ 0x80 ≤ top) ∧
    (heightPush height).length ≤ 10 ∧
    (∀ height', heightPush height <+: heightPush height' → height = height') := by
  refine ⟨?_, reads_heightPush height, fun bs => eq_or_length_lt_of_reads_push,
    fun op init => signs_of_heightPush_eq, length_heightPush_le height, ?_⟩
  · obtain ⟨h, e⟩ | ⟨hpos, hle, e⟩ | ⟨h16, hl, e⟩ := heightPush_cases height
    · exact .inl ⟨h, e⟩
    · refine .inr (.inl ⟨UInt64.le_iff_toNat_le.2 hpos, UInt64.le_iff_toNat_le.2 hle, ?_⟩)
      rw [e, UInt8.ofNat_add]
      rfl
    · exact .inr (.inr ⟨UInt64.lt_iff_toNat_lt.2 h16, scriptNumber height.toNat, hl, e,
        signedNumber_scriptNumber (by omega)⟩)
  · rintro height' ⟨rest, e⟩
    have hsame := (reads_heightPush height).unique (reads_heightPush height')
      (e.trans (List.append_nil _).symm)
    exact UInt64.toNat_inj.1 (Int.ofNat.inj hsame)

example : heightPush 128 = [0x02, 0x80, 0x00] := by cbv

end CycleMiner
