import CycleMiner.Proofs.Block.Version
import CycleMiner.Settings

/-!
# Votes in settings and in headers

The bits voted for are looked at twice: when settings are decoded, which have no version yet, and
when a header is made, which has one.

* `NodeSettings.HasScripts`       the scripts in settings can be decoded, and one is paid;
* `NodeSettings.preferences_eq`   then the bits decide whether the settings can;
* `voted_bits_set_exactly`        both looks refuse the same bit, and all others are set.
-/

namespace CycleMiner

namespace NodeSettings

structure HasScripts (n : NodeSettings) : Prop where
  payout : ∃ script, ofHex n.payoutScript = .ok script ∧ script ≠ []
  extra : ∃ script, n.extraScript = .ok script

theorem preferences_eq {n : NodeSettings} (h : n.HasScripts) :
    ∃ payout extra, n.preferences = match n.voteBits.find? fun b => 32 ≤ b with
      | some bit => .error (.settings (.voteBit bit))
      | none => .ok ⟨payout, extra, n.voteBits⟩ := by
  obtain ⟨payout, hpayout, hne⟩ := h.payout
  obtain ⟨extra, hextra⟩ := h.extra
  obtain ⟨b, bs, rfl⟩ := List.exists_cons_of_ne_nil hne
  refine ⟨b :: bs, extra, ?_⟩
  cases hbits : n.voteBits.find? fun b => 32 ≤ b with
  | none => simp only [preferences, hpayout, hextra, hbits]
  | some bit => simp only [preferences, hpayout, hextra, hbits]

end NodeSettings

/-- whatever the version and the votes: setting the bits succeeds if each of them is below 32, and
only then, and settings with valid scripts can be decoded with exactly these votes; the bit that is
refused is the same; otherwise a bit of the result is set if it was set or is voted for, and only
then, so that the order and repetitions do not matter, the same votes change nothing more, and votes
one after the other are votes cast in turns -/
theorem voted_bits_set_exactly (version : UInt32) (votes : List UInt8) :
    ((∃ v, blockVersion version votes = .ok v) ↔ ∀ b ∈ votes, b < 32) ∧
    (∀ n : NodeSettings, n.HasScripts → n.voteBits = votes →
      ((∃ prefs, n.preferences = .ok prefs) ↔ ∀ b ∈ votes, b < 32) ∧
      (∀ prefs, n.preferences = .ok prefs → prefs.voteBits = votes) ∧
      ∀ bit, n.preferences = .error (.settings (.voteBit bit)) ↔
        blockVersion version votes = .error (.voteBit bit)) ∧
    (∀ v, blockVersion version votes = .ok v →
      (∀ i, v.toNat.testBit i = true ↔
        version.toNat.testBit i = true ∨ ∃ bit ∈ votes, bit.toNat = i) ∧
      blockVersion v votes = .ok v) ∧
    (∀ votes', (∀ b, b ∈ votes ↔ b ∈ votes') →
      ∀ v, blockVersion version votes = .ok v ↔ blockVersion version votes' = .ok v) ∧
    ∀ votes', blockVersion version (votes ++ votes')
      = (blockVersion version votes).bind fun v => blockVersion v votes' := by
  refine ⟨exists_blockVersion_iff version votes, ?_,
    fun v h => ⟨testBit_blockVersion h, blockVersion_again h⟩,
    fun votes' h v => blockVersion_congr h, blockVersion_append version votes⟩
  rintro n hscripts rfl
  obtain ⟨payout, extra, hprefs⟩ := NodeSettings.preferences_eq hscripts
  rw [← exists_blockVersion_iff version, hprefs, blockVersion_eq]
  cases n.voteBits.find? fun b => 32 ≤ b with
  | some bit => simp
  | none => simp

end CycleMiner
