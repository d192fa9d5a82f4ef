import CycleMiner.Block.Header

/-!
# Versions with voted bits

* `blockVersion_eq`           the bits are looked at one after the other, and the first that a word
  does not have is told;
* `blockVersion_eq_ok_iff`    otherwise a bit of the version is set if it was before or is voted for;
* `blockVersion_congr`        only which bits are voted for matters;
* `blockVersion_append`       votes may be cast in turns.
-/

namespace CycleMiner

section
variable {version v : UInt32} {votes votes' : List UInt8}

theorem blockVersion_eq (version : UInt32) (votes : List UInt8) :
    blockVersion version votes = match votes.find? fun b => 32 ≤ b with
      | some bit => .error (.voteBit bit)
      | none => .ok (votes.foldl (fun (v : UInt32) bit => v ||| ((1 : UInt32) <<< bit.toUInt32))
          version) := by
  induction votes generalizing version with
  | nil => rfl
  | cons bit votes ih =>
    rw [blockVersion, List.foldl_cons]
    by_cases hbit : bit < 32
    · rw [if_pos hbit, ih, List.find?_cons_of_neg (by simpa using hbit)]
    · rw [if_neg hbit, List.find?_cons_of_pos (by simpa using hbit)]

theorem exists_blockVersion_iff (version : UInt32) (votes : List UInt8) :
    (∃ v, blockVersion version votes = .ok v) ↔ ∀ b ∈ votes, b < 32 := by
  have hnone : votes.find? (fun b => 32 ≤ b) = none ↔ ∀ b ∈ votes, b < 32 := by
    simp [List.find?_eq_none]
  rw [blockVersion_eq, ← hnone]
  cases votes.find? fun b => 32 ≤ b with
  | none => simp
  | some b => simp

/-- the bits of a version are those of the template and the voted ones -/
theorem testBit_blockVersion (h : blockVersion version votes = .ok v) (i : Nat) :
    v.toNat.testBit i = true ↔
      version.toNat.testBit i = true ∨ ∃ bit ∈ votes, bit.toNat = i := by
  induction votes generalizing version with
  | nil =>
    obtain rfl := Except.ok.inj h
    simp
  | cons bit votes ih =>
    rw [blockVersion] at h
    split at h
    case isFalse => cases h
    case isTrue hbit =>
      have hset : (1 <<< bit.toUInt32 : UInt32).toNat = 2 ^ bit.toNat := by
        have hlt : bit.toNat < 32 := UInt8.lt_iff_toNat_lt.1 hbit
        have hpow : 2 ^ bit.toNat < 2 ^ 32 := Nat.pow_lt_pow_right (by decide) hlt
        rw [UInt32.toNat_shiftLeft, UInt8.toNat_toUInt32, Nat.mod_eq_of_lt hlt, UInt32.toNat_one,
          Nat.one_shiftLeft, Nat.mod_eq_of_lt hpow]
      rw [ih h, UInt32.toNat_or, hset, Nat.testBit_or, Bool.or_eq_true, Nat.testBit_two_pow]
      simp [or_assoc]

/-- a vote succeeds with the one word whose bits are exactly those of the version and the votes -/
theorem blockVersion_eq_ok_iff :
    blockVersion version votes = .ok v ↔ (∀ b ∈ votes, b < 32) ∧
      ∀ i, v.toNat.testBit i = true ↔
        version.toNat.testBit i = true ∨ ∃ bit ∈ votes, bit.toNat = i := by
  constructor
  · exact fun h => ⟨(exists_blockVersion_iff version votes).1 ⟨v, h⟩, testBit_blockVersion h⟩
  · rintro ⟨hvotes, hbits⟩
    obtain ⟨w, hw⟩ := (exists_blockVersion_iff version votes).2 hvotes
    have hsame : w = v := by
      rw [← UInt32.toNat_inj]
      apply Nat.eq_of_testBit_eq
      intro i
      rw [Bool.eq_iff_iff, testBit_blockVersion hw, hbits]
    rw [hw, hsame]

theorem blockVersion_congr (h : ∀ b, b ∈ votes ↔ b ∈ votes') :
    blockVersion version votes = .ok v ↔ blockVersion version votes' = .ok v := by
  simp only [blockVersion_eq_ok_iff, h]

/-- the bits are set already -/
theorem blockVersion_again (h : blockVersion version votes = .ok v) :
    blockVersion v votes = .ok v := by
  obtain ⟨hvotes, hbits⟩ := blockVersion_eq_ok_iff.1 h
  refine blockVersion_eq_ok_iff.2 ⟨hvotes, fun i => ⟨.inl, ?_⟩⟩
  rintro (hi | hi)
  · exact hi
  · exact (hbits i).2 (.inr hi)

theorem blockVersion_append (version : UInt32) (votes votes' : List UInt8) :
    blockVersion version (votes ++ votes')
      = (blockVersion version votes).bind fun v => blockVersion v votes' := by
  induction votes generalizing version with
  | nil => rfl
  | cons bit votes ih =>
    rw [List.cons_append, blockVersion, blockVersion]
    split
    · exact ih _
    · rfl

end

end CycleMiner
