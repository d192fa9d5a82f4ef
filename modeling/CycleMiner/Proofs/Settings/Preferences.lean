import CycleMiner.Proofs.Block.Version
import CycleMiner.Proofs.Coinbase.Parts
import CycleMiner.Proofs.Work.Parts
import CycleMiner.Settings

/-!
# Settings that were checked, and the work made with them

Checking settings decodes the scripts and looks at the vote bits, so neither can stop work from being
made.  It does not look at how long the script behind the height is.  That script has to fit into 100
bytes together with the height, which only a template brings; one of 90 bytes always fits, one of 100
never does.

* `Settings.validate_eq_ok`   what is checked in settings;
* `NodeSettings.voteBits_of_preferences`   preferences vote for bits of a word;
* `Work.ofTemplate_of_plain`, `Work.ofTemplate_of_long`   work made with a payout script alone is
  made with preferences of that kind too, or the script is too long;
* `validated_settings_make_work`     the same of settings that were checked;
* `validated_settings_without_work`  settings that were checked and make no work.
-/

namespace CycleMiner

/-! ## checked settings -/

namespace NodeSettings

theorem voteBits_of_preferences {n : NodeSettings} {prefs : Preferences}
    (h : n.preferences = .ok prefs) : ∀ b ∈ prefs.voteBits, b < 32 := by
  unfold preferences at h
  split at h
  case h_1 => cases h
  case h_2 => cases h
  case h_3 =>
    split at h
    case h_1 => cases h
    case h_2 =>
      split at h
      case h_1 => cases h
      case h_2 hfind =>
        obtain rfl := Except.ok.inj h
        intro b hb
        have := List.find?_eq_none.1 hfind b hb
        rw [decide_eq_true_eq] at this
        exact UInt8.not_le.1 this

end NodeSettings

/-- every part of the settings passes its own check -/
theorem Settings.validate_eq_ok {s : Settings} :
    s.validate = .ok () ↔
      s.checkUrl = .ok () ∧ (∃ range, s.searchRange = .ok range) ∧
        (∃ prefs, s.node.preferences = .ok prefs) ∧ s.reportInterval ≠ 0 := by
  unfold validate
  cases s.checkUrl with
  | error f => simp
  | ok u =>
    cases s.searchRange with
    | error f => simp
    | ok range =>
      cases s.node.preferences with
      | error f => simp
      | ok prefs =>
        by_cases hi : s.reportInterval = 0
        · simp [hi]
        · simp [hi]

/-! ## work made with preferences -/

section
variable {t : Template} {prefs : Preferences} {w : Work}
  (hw : Work.ofTemplate t (.plain prefs.payoutScript) = .ok w)
include hw

theorem Work.ofTemplate_of_plain (hvotes : ∀ b ∈ prefs.voteBits, b < 32)
    (hl : (Block.heightPush t.height).length + prefs.extraScript.length ≤ 100) :
    ∃ w', ofTemplate t prefs = .ok w' := by
  obtain ⟨htarget, hplain, htxids, -, hprevious⟩ := exists_ofTemplate_iff.1 ⟨w, hw⟩
  obtain ⟨-, hpayments, hpayload⟩ := Coinbase.exists_ofTemplate_iff.1 hplain
  have hcoinbase : ∃ c, Coinbase.ofTemplate t prefs = .ok c := by
    refine Coinbase.exists_ofTemplate_iff.2 ⟨?_, hpayments, hpayload⟩
    rw [Coinbase.length_inputScriptOf]
    exact Nat.max_le.2 ⟨by decide, hl⟩
  exact exists_ofTemplate_iff.2
    ⟨htarget, hcoinbase, htxids, (exists_blockVersion_iff _ _).2 hvotes, hprevious⟩

theorem Work.ofTemplate_of_long
    (hl : 100 < (Block.heightPush t.height).length + prefs.extraScript.length) :
    ofTemplate t prefs = .error
      (.scriptLength ((Block.heightPush t.height).length + prefs.extraScript.length)) := by
  obtain ⟨⟨target, htarget⟩, -⟩ := exists_ofTemplate_iff.1 ⟨w, hw⟩
  have hlength : (Coinbase.inputScriptOf t.height prefs.extraScript).length
      = (Block.heightPush t.height).length + prefs.extraScript.length := by
    rw [Coinbase.length_inputScriptOf]
    omega
  refine ofTemplate_of_coinbase htarget ?_
  rw [Coinbase.ofTemplate_of_long (by rwa [hlength]), hlength]

end

/-- a template that makes work with the payout script of checked settings makes work with all of
them, if and only if height and script fit; a script of 90 bytes always does, one of 100 never -/
theorem validated_settings_make_work {s : Settings} (hs : s.validate = .ok ()) :
    ∃ prefs, s.node.preferences = .ok prefs ∧
      ∀ t w, Work.ofTemplate t (.plain prefs.payoutScript) = .ok w →
        let length := (Block.heightPush t.height).length + prefs.extraScript.length
        (length ≤ 100 → ∃ w', Work.ofTemplate t prefs = .ok w') ∧
        (100 < length → Work.ofTemplate t prefs = .error (.scriptLength length)) ∧
        (prefs.extraScript.length ≤ 90 → length ≤ 100) ∧
        (100 ≤ prefs.extraScript.length → 100 < length) := by
  obtain ⟨-, -, ⟨prefs, hprefs⟩, -⟩ := Settings.validate_eq_ok.1 hs
  refine ⟨prefs, hprefs, fun t w hw => ?_⟩
  have hle := Block.length_heightPush_le t.height
  have hpos := Block.length_heightPush_pos t.height
  refine ⟨?_, Work.ofTemplate_of_long hw, fun _ => ?_, fun _ => ?_⟩
  · exact Work.ofTemplate_of_plain hw (NodeSettings.voteBits_of_preferences hprefs)
  · show (Block.heightPush t.height).length + prefs.extraScript.length ≤ 100
    omega
  · show 100 < (Block.heightPush t.height).length + prefs.extraScript.length
    omega

/-- settings with a script behind the height and a vote -/
def Settings.voting (script : String) : Settings :=
  .standard { NodeSettings.standard "http://[::1]:10617" "52" with
    coinbaseScript := some script
    voteBits := [1] }

/-- such settings are refused for their script only -/
theorem Settings.validate_voting {script : String} {prefs : Preferences}
    (h : (voting script).node.preferences = .ok prefs) : (voting script).validate = .ok () := by
  have hurl : (voting script).checkUrl = .ok () := by
    rw [checkUrl, show (voting script).node.rpcUrl = "http://[::1]:10617" from rfl]
    decide +kernel
  have hrange : ∃ range, (voting script).searchRange = .ok range := by
    simp only [searchRange, params, voting, standard]
    exact exists_of_isOk (by decide +kernel)
  have hinterval : (voting script).reportInterval ≠ 0 := by
    show (15 : UInt64) ≠ 0
    decide
  exact validate_eq_ok.2 ⟨hurl, hrange, ⟨prefs, h⟩, hinterval⟩

theorem Work.exists_ofTemplate_paying :
    ∃ w, ofTemplate (.paying 5 1000 300) (.plain [0x52]) = .ok w :=
  exists_of_isOk (by decide +kernel)

theorem voting_settings_make_work :
    (Settings.voting "2f61622f").validate = .ok () ∧
      ∃ prefs w, (Settings.voting "2f61622f").node.preferences = .ok prefs ∧
        prefs.voteBits = [1] ∧ prefs.extraScript.length = 4 ∧
        Work.ofTemplate (.paying 5 1000 300) prefs = .ok w := by
  have hvalue : (Settings.voting "2f61622f").node.preferences
      = .ok ⟨[0x52], [0x2f, 0x61, 0x62, 0x2f], [1]⟩ := by
    decide +kernel
  have hs := Settings.validate_voting hvalue
  obtain ⟨prefs, hprefs, hwork⟩ := validated_settings_make_work hs
  obtain rfl := Except.ok.inj (hprefs.symm.trans hvalue)
  obtain ⟨plain, hplain⟩ := Work.exists_ofTemplate_paying
  obtain ⟨hfits, -, hshort, -⟩ := hwork _ plain hplain
  obtain ⟨w, hw⟩ := hfits (hshort (by decide))
  exact ⟨hs, _, w, hprefs, rfl, rfl, hw⟩

/-- a script of 100 bytes is not refused when settings are checked, and makes no work -/
theorem validated_settings_without_work :
    (Settings.voting (Hex.encode (List.replicate 100 0))).validate = .ok () ∧
      ∃ prefs w, (Settings.voting (Hex.encode (List.replicate 100 0))).node.preferences = .ok prefs ∧
        Work.ofTemplate (.paying 5 1000 300) (.plain prefs.payoutScript) = .ok w ∧
        Work.ofTemplate (.paying 5 1000 300) prefs = .error (.scriptLength 101) := by
  have hvalue : (Settings.voting (Hex.encode (List.replicate 100 0))).node.preferences
      = .ok ⟨[0x52], List.replicate 100 0, [1]⟩ := by
    decide +kernel
  have hs := Settings.validate_voting hvalue
  obtain ⟨plain, hplain⟩ := Work.exists_ofTemplate_paying
  exact ⟨hs, _, plain, hvalue, hplain, Work.ofTemplate_of_long hplain (by decide)⟩

end CycleMiner
