import CycleMiner.Hex
import CycleMiner.Proofs.Outcome

/-!
# Which texts are hexadecimal

A text can be read if and only if its characters are digits and pair up.  The length is counted in
bytes and a digit is known by its byte; that makes no difference, since a character of several bytes
has none that is a digit.

* `Hex.IsPaired`              texts of digits that pair up;
* `Hex.exists_decode_iff`     these are the texts that can be read;
* `Hex.length_decode`         two digits are a byte;
* `Hex.length_decode_le`      so there are no more bytes than the text has.
-/

namespace CycleMiner.Hex

def numerals : List Char := "0123456789abcdefABCDEF".toList

structure IsPaired (text : String) : Prop where
  even : text.length % 2 = 0
  digits : ∀ c ∈ text.toList, c ∈ numerals

/-! ## the bytes of a digit -/

theorem isSome_value_iff :
    ∀ n < 128, (value (UInt8.ofNat n)).isSome = true ↔ Char.ofNat n ∈ numerals := by
  decide +kernel

theorem toNat_lt_of_mem_numerals {c : Char} (h : c ∈ numerals) : c.toNat < 128 := by
  have hall : numerals.all (fun c => c.toNat < 128) = true := by decide
  exact of_decide_eq_true (List.all_eq_true.1 hall c h)

theorem value_of_le {b : UInt8} (h : 128 ≤ b.toNat) : value b = none := by
  unfold value
  dsimp only
  rw [if_neg (by omega), if_neg (by omega), if_neg (by omega)]

theorem utf8EncodeChar_of_lt {c : Char} (h : c.toNat < 128) :
    String.utf8EncodeChar c = [UInt8.ofNat c.toNat] := by
  rw [String.utf8EncodeChar, Char.toNat_val]
  exact if_pos (by omega)

/-- the first byte of a character that is not ASCII -/
theorem exists_le_of_mem_utf8EncodeChar {c : Char} (h : 128 ≤ c.toNat) :
    ∃ b ∈ String.utf8EncodeChar c, 128 ≤ b.toNat := by
  have first (n : Nat) (hn : 128 ≤ n) (hlt : n < 256) (bs : Bytes) :
      ∃ b ∈ UInt8.ofNat n :: bs, 128 ≤ b.toNat := by
    refine ⟨_, List.mem_cons_self, ?_⟩
    rw [UInt8.toNat_ofNat_of_lt' hlt]
    exact hn
  rw [String.utf8EncodeChar, Char.toNat_val, if_neg (by omega)]
  split
  · exact first _ (by omega) (by omega) _
  · split
    · exact first _ (by omega) (by omega) _
    · exact first _ (by omega) (by omega) _

theorem forall_value_iff (c : Char) :
    (∀ b ∈ String.utf8EncodeChar c, (value b).isSome = true) ↔ c ∈ numerals := by
  rcases Nat.lt_or_ge c.toNat 128 with h | h
  · rw [utf8EncodeChar_of_lt h, List.forall_mem_singleton, isSome_value_iff _ h, Char.ofNat_toNat]
  · refine iff_of_false (fun hall => ?_) fun hmem => ?_
    · obtain ⟨b, hb, hle⟩ := exists_le_of_mem_utf8EncodeChar h
      have := hall b hb
      rw [value_of_le hle] at this
      cases this
    · have := toNat_lt_of_mem_numerals hmem
      omega

/-! ## texts -/

theorem forall_value_ofText (text : String) :
    (∀ b ∈ Bytes.ofText text, (value b).isSome = true) ↔ ∀ c ∈ text.toList, c ∈ numerals := by
  rw [Bytes.ofText, List.forall_mem_flatMap]
  exact forall₂_congr fun c _ => forall_value_iff c

theorem length_ofText {text : String} (h : ∀ c ∈ text.toList, c ∈ numerals) :
    (Bytes.ofText text).length = text.length := by
  have hone : ∀ cs : List Char, (∀ c ∈ cs, c ∈ numerals) →
      (cs.flatMap String.utf8EncodeChar).length = cs.length := by
    intro cs hcs
    induction cs with
    | nil => rfl
    | cons c cs ih =>
      obtain ⟨hc, hcs⟩ := List.forall_mem_cons.1 hcs
      rw [List.flatMap_cons, utf8EncodeChar_of_lt (toNat_lt_of_mem_numerals hc),
        List.singleton_append, List.length_cons, List.length_cons, ih hcs]
  rw [← String.length_toList]
  exact hone _ h

theorem exists_pairs_iff {i : Nat} {text : Bytes} (heven : text.length % 2 = 0) :
    (∃ bs, pairs i text = .ok bs) ↔ ∀ b ∈ text, (value b).isSome = true := by
  fun_induction pairs i text with
  | case1 i hi lo rest hhi =>
    refine iff_of_false nofun fun h => ?_
    have := h hi List.mem_cons_self
    rw [hhi] at this
    cases this
  | case2 i hi lo rest hlo =>
    refine iff_of_false nofun fun h => ?_
    have := h lo (List.mem_cons_of_mem hi List.mem_cons_self)
    rw [hlo] at this
    cases this
  | case3 i hi lo rest h' l' hh hl ih =>
    have hrest : rest.length % 2 = 0 := by
      rw [List.length_cons, List.length_cons] at heven
      omega
    rw [List.forall_mem_cons, List.forall_mem_cons, hh, hl, ← ih hrest]
    constructor
    · rintro ⟨bs, h⟩
      obtain ⟨bs', hbs', -⟩ := map_eq_ok.1 h
      exact ⟨rfl, rfl, bs', hbs'⟩
    · rintro ⟨-, -, bs, hbs⟩
      exact ⟨_, map_eq_ok.2 ⟨bs, hbs, rfl⟩⟩
  | case4 text i hshort =>
    match text with
    | [] => exact iff_of_true ⟨[], rfl⟩ nofun
    | [_] => cases heven
    | hi :: lo :: rest => exact (hshort hi lo rest rfl).elim

theorem length_pairs {i : Nat} {text bs : Bytes} (heven : text.length % 2 = 0)
    (h : pairs i text = .ok bs) : text.length = 2 * bs.length := by
  fun_induction pairs i text generalizing bs with
  | case1 => cases h
  | case2 => cases h
  | case3 i hi lo rest h' l' hh hl ih =>
    obtain ⟨bs, hbs, rfl⟩ := map_eq_ok.1 h
    rw [List.length_cons, List.length_cons] at heven ⊢
    rw [ih (by omega) hbs, List.length_cons]
    omega
  | case4 text i hshort =>
    obtain rfl := Except.ok.inj h
    match text with
    | [] => rfl
    | [_] => cases heven
    | hi :: lo :: rest => exact (hshort hi lo rest rfl).elim

theorem decode_eq_ok {text : String} {bs : Bytes} : decode text = .ok bs ↔
    (Bytes.ofText text).length % 2 = 0 ∧ pairs 0 (Bytes.ofText text) = .ok bs := by
  rw [decode, decodeBytes]
  split
  case isTrue h => rw [and_iff_right h]
  case isFalse h => exact iff_of_false nofun fun hall => h hall.1

theorem exists_decode_iff {text : String} : (∃ bs, decode text = .ok bs) ↔ IsPaired text := by
  constructor
  · rintro ⟨bs, h⟩
    obtain ⟨heven, hbs⟩ := decode_eq_ok.1 h
    have hdigits := (forall_value_ofText text).1 ((exists_pairs_iff heven).1 ⟨bs, hbs⟩)
    exact ⟨length_ofText hdigits ▸ heven, hdigits⟩
  · rintro ⟨heven, hdigits⟩
    rw [← length_ofText hdigits] at heven
    obtain ⟨bs, hbs⟩ := (exists_pairs_iff heven).2 ((forall_value_ofText text).2 hdigits)
    exact ⟨bs, decode_eq_ok.2 ⟨heven, hbs⟩⟩

theorem length_decode {text : String} {bs : Bytes} (h : decode text = .ok bs) :
    text.length = 2 * bs.length := by
  obtain ⟨heven, hbs⟩ := decode_eq_ok.1 h
  rw [← length_ofText (exists_decode_iff.1 ⟨bs, h⟩).digits]
  exact length_pairs heven hbs

theorem length_decode_le {text : String} {bs : Bytes} (h : decode text = .ok bs) :
    bs.length ≤ (Bytes.ofText text).length := by
  obtain ⟨heven, hbs⟩ := decode_eq_ok.1 h
  rw [length_pairs heven hbs]
  omega

end CycleMiner.Hex
