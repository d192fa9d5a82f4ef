import CycleMiner.Proofs.Block.Reading
import CycleMiner.Proofs.Coinbase.Payout
import CycleMiner.Proofs.Poller.Answers
import CycleMiner.Proofs.Settings.Preferences
import CycleMiner.Proofs.Target.Compact
import Mathlib.Algebra.Order.BigOperators.Group.List

/-!
# The templates that make work

A template makes work if and only if it is well-formed: each text that is needed spells what it
should, and what the miner adds to it fits.  What is wrong with one that does not is final, and the
poller stops.

* `Template.IsWellFormed`            each text and each number on its own;
* `Work.exists_targetOf_iff`, `Coinbase.exists_iff`, `InputFault.exists_ofShownHash_iff`   the parts
  of work, each with what it asks for;
* `Work.exists_iff_isWellFormed`     all of it together;
* `Work.ofTemplate_of_not_started`   payments that have not started are not looked at;
* `Coinbase.toNat_total_take`        amounts that fit are added up exactly;
* `Poller.react_of_refused`          a poller stops at a template that makes no work;
* `work_made_iff`                    all of these for a template and the preferences of a miner.
-/

namespace CycleMiner

/-- every part of a template is what it should be for these preferences -/
structure Template.IsWellFormed (t : Template) (prefs : Preferences) : Prop where
  bits : ∃ bits : UInt32, Text.IsHexNumeral t.bits bits.toNat ∧ ¬ Target.IsNegative bits ∧
    ⌊Target.compactNumber bits⌋₊ < 2 ^ 256
  script : (Block.heightPush t.height).length + prefs.extraScript.length ≤ 100
  /-- those that have not started may be anything -/
  payments : t.paymentsStarted = true → ∀ p ∈ t.payments, Hex.IsPaired p.script
  payload : t.payload = none ∨ t.payload = some "" ∨
    ∃ text, t.payload = some text ∧ Hex.IsPaired text
  hashes : ∀ tx ∈ t.transactions, Hex.IsPaired tx.hash ∧ tx.hash.length = 64
  previous : Hex.IsPaired t.previousHash ∧ t.previousHash.length = 64
  votes : ∀ bit ∈ prefs.voteBits, bit < 32

/-! ## texts -/

namespace InputFault

theorem exists_ofHex_iff {text : String} : (∃ bs, ofHex text = .ok bs) ↔ Hex.IsPaired text := by
  rw [← Hex.exists_decode_iff]
  exact exists_congr fun _ => ofHex_eq_ok

theorem ofShownHash_of_ofHex {text : String} {bs : Bytes} (h : ofHex text = .ok bs)
    (hlength : bs.length = 32) : ofShownHash text = .ok (Digest.reverse ⟨bs, hlength⟩) := by
  rw [ofShownHash, h]
  dsimp only
  rw [Digest.ofBytes?, dif_pos hlength]

/-- a hash is shown by 64 digits -/
theorem exists_ofShownHash_iff {text : String} :
    (∃ d, ofShownHash text = .ok d) ↔ Hex.IsPaired text ∧ text.length = 64 := by
  constructor
  · rintro ⟨d, h⟩
    obtain ⟨bs, hbs, hd⟩ := ofShownHash_eq_ok h
    refine ⟨Hex.exists_decode_iff.1 ⟨bs, hbs⟩, ?_⟩
    have hlength : bs.length = 32 := by
      rw [← List.length_reverse, ← hd]
      exact d.length_bytes
    rw [Hex.length_decode hbs, hlength]
  · rintro ⟨hpaired, h64⟩
    obtain ⟨bs, hbs⟩ := exists_ofHex_iff.2 hpaired
    have hlength : bs.length = 32 := by
      have := Hex.length_decode (ofHex_eq_ok.1 hbs)
      omega
    exact ⟨_, ofShownHash_of_ofHex hbs hlength⟩

end InputFault

/-! ## the parts of work -/

section
variable {t : Template} {prefs : Preferences}

/-- whichever compact form the text of a template spells, the target is its number -/
theorem Work.toNat_of_targetOf {target : Target} (h : targetOf t = .ok target) {bits : UInt32}
    (hbits : Text.IsHexNumeral t.bits bits.toNat) :
    target.toNat = ⌊Target.compactNumber bits⌋₊ := by
  obtain ⟨bits', hbits', htarget⟩ := targetOf_eq_ok.1 h
  have hsame : bits' = bits := Except.ok.inj
    ((mapError_eq_ok.1 hbits').symm.trans (Text.hexWord_of_isHexNumeral hbits))
  exact Target.toNat_of_ofCompact (hsame ▸ htarget)

theorem Work.exists_targetOf_iff : (∃ target, targetOf t = .ok target) ↔
    ∃ bits : UInt32, Text.IsHexNumeral t.bits bits.toNat ∧ ¬ Target.IsNegative bits ∧
      ⌊Target.compactNumber bits⌋₊ < 2 ^ 256 := by
  have hone (bits : UInt32) :
      InputFault.ofBits t.bits = .ok bits ↔ Text.IsHexNumeral t.bits bits.toNat :=
    mapError_eq_ok.trans Text.hexWord_eq_ok_iff
  simp only [targetOf_eq_ok, hone, ← Target.exists_ofCompact_iff, ← exists_and_left]
  exact exists_comm

namespace Coinbase

theorem exists_outputsOf_iff {ps : List Payment} :
    (∃ os, outputsOf ps = .ok os) ↔ ∀ p ∈ ps, Hex.IsPaired p.script := by
  rw [outputsOf_eq, exists_mapM_eq_ok]
  refine forall₂_congr fun p _ => ?_
  rw [← InputFault.exists_ofHex_iff]
  constructor
  · rintro ⟨o, h⟩
    obtain ⟨script, hscript, -⟩ := map_eq_ok.1 h
    exact ⟨script, hscript⟩
  · rintro ⟨script, hscript⟩
    exact ⟨_, map_eq_ok.2 ⟨script, hscript, rfl⟩⟩

theorem forall_mem_due {P : Payment → Prop} :
    (∀ p ∈ duePayments t, P p) ↔ (t.paymentsStarted = true → ∀ p ∈ t.payments, P p) := by
  unfold duePayments
  split
  case isTrue h => exact ⟨fun hall _ => hall, fun hall => hall h⟩
  case isFalse h => exact iff_of_true nofun fun hstarted => (h hstarted).elim

theorem exists_payloadOf_iff : (∃ payload, payloadOf t = .ok payload) ↔
    t.payload = none ∨ t.payload = some "" ∨ ∃ text, t.payload = some text ∧ Hex.IsPaired text := by
  constructor
  · rintro ⟨payload, h⟩
    rcases payloadOf_eq_ok h with ⟨hnone | hempty, -⟩ | ⟨text, p, htext, -, hp, -⟩
    · exact .inl hnone
    · exact .inr (.inl hempty)
    · exact .inr (.inr ⟨text, htext, Hex.exists_decode_iff.1 ⟨p, hp⟩⟩)
  · unfold payloadOf
    rintro (h | h | ⟨text, h, hpaired⟩)
    · rw [h]
      exact ⟨none, rfl⟩
    · rw [h]
      exact ⟨none, rfl⟩
    · rw [h]
      dsimp only
      split
      case isTrue => exact ⟨none, rfl⟩
      case isFalse =>
        obtain ⟨p, hp⟩ := InputFault.exists_ofHex_iff.2 hpaired
        exact ⟨some p, map_eq_ok.2 ⟨p, hp, rfl⟩⟩

theorem exists_iff : (∃ c, ofTemplate t prefs = .ok c) ↔
    (Block.heightPush t.height).length + prefs.extraScript.length ≤ 100 ∧
      (t.paymentsStarted = true → ∀ p ∈ t.payments, Hex.IsPaired p.script) ∧
      (t.payload = none ∨ t.payload = some "" ∨
        ∃ text, t.payload = some text ∧ Hex.IsPaired text) := by
  have hlength : (inputScriptOf t.height prefs.extraScript).length ≤ 100 ↔
      (Block.heightPush t.height).length + prefs.extraScript.length ≤ 100 := by
    rw [length_inputScriptOf]
    omega
  rw [exists_ofTemplate_iff, hlength, exists_outputsOf_iff, forall_mem_due, exists_payloadOf_iff]

end Coinbase

theorem Work.exists_txidsOf_iff {txs : List TemplateTransaction} :
    (∃ txids, txidsOf txs = .ok txids) ↔
      ∀ tx ∈ txs, Hex.IsPaired tx.hash ∧ tx.hash.length = 64 := by
  rw [txidsOf_eq, exists_mapM_eq_ok, List.forall_mem_map]
  exact forall₂_congr fun _ _ => InputFault.exists_ofShownHash_iff

theorem Work.exists_iff_isWellFormed :
    (∃ w, ofTemplate t prefs = .ok w) ↔ t.IsWellFormed prefs := by
  rw [exists_ofTemplate_iff, exists_targetOf_iff, Coinbase.exists_iff, exists_txidsOf_iff,
    exists_blockVersion_iff, InputFault.exists_ofShownHash_iff]
  constructor
  · rintro ⟨bits, ⟨script, payments, payload⟩, hashes, votes, previous⟩
    exact ⟨bits, script, payments, payload, hashes, previous, votes⟩
  · rintro ⟨bits, script, payments, payload, hashes, previous, votes⟩
    exact ⟨bits, ⟨script, payments, payload⟩, hashes, votes, previous⟩

/-! ## payments -/

theorem Work.ofTemplate_of_not_started (h : t.paymentsStarted = false) (ps : List Payment) :
    ofTemplate { t with payments := ps } prefs =
      (ofTemplate t prefs).map fun w => { w with template := { t with payments := ps } } := by
  -- only the coinbase looks at payments, and only at those that are due
  have hcoinbase : Coinbase.ofTemplate { t with payments := ps } prefs
      = Coinbase.ofTemplate t prefs := by
    have hdue : Coinbase.duePayments { t with payments := ps } = Coinbase.duePayments t := by
      unfold Coinbase.duePayments
      rw [h]
      rfl
    unfold Coinbase.ofTemplate
    rw [hdue]
    rfl
  have htarget : targetOf { t with payments := ps } = targetOf t := rfl
  have hheader (root : Digest) : HeaderPrefix.ofTemplate { t with payments := ps } root prefs.voteBits
      = HeaderPrefix.ofTemplate t root prefs.voteBits := rfl
  simp only [ofTemplate, htarget, hcoinbase, hheader]
  cases targetOf t with
  | error f => rfl
  | ok target =>
    cases Coinbase.ofTemplate t prefs with
    | error f => rfl
    | ok coinbase =>
      cases txidsOf t.transactions with
      | error f => rfl
      | ok txids =>
        dsimp only
        cases HeaderPrefix.ofTemplate t (Merkle.root (coinbase.txid :: txids)) prefs.voteBits with
        | error f => rfl
        | ok headerPrefix => rfl

theorem Output.sum_take_le (os : List Output) (k : Nat) : sum (os.take k) ≤ sum os := by
  rw [sum, sum, List.map_take]
  exact (List.take_sublist k _).sum_le_sum fun _ _ => Nat.zero_le _

theorem Template.due_le (t : Template) : t.due ≤ (t.payments.map (·.amount.toNat)).sum := by
  unfold due Coinbase.duePayments
  split
  · exact Nat.le_refl _
  · exact Nat.zero_le _

/-- amounts that fit into 64 bits altogether are added up exactly, from the first to the last -/
theorem Coinbase.toNat_total_take (hsum : (t.payments.map (·.amount.toNat)).sum < 2 ^ 64)
    {os : List Output} (hos : outputsOf (duePayments t) = .ok os) (k : Nat) :
    (Output.total (os.take k)).toNat = Output.sum (os.take k) := by
  have hdue : Output.sum os = t.due := sum_of_makes (outputsOf_eq_ok.1 hos)
  rw [Output.toNat_total, Nat.mod_eq_of_lt]
  calc Output.sum (os.take k) ≤ Output.sum os := Output.sum_take_le os k
    _ = t.due := hdue
    _ ≤ (t.payments.map (·.amount.toNat)).sum := t.due_le
    _ < 2 ^ 64 := hsum

end

/-! ## the poller -/

theorem Poller.react_of_refused {p : Poller} {t : Template} {f : InputFault} (s : Session)
    (hlt : p.height < t.height) (h : Work.ofTemplate t p.prefs = .error f) :
    (p.react s (.template t)).next = .giveUp (.input f) ∧
      (p.react s (.template t)).poller.state = .stopped ∧
      ∃ before, published (p.react s (.template t)).actions
        = before ++ [.credentialsRejected, .terminated] := by
  have hfault : (Answer.template t).fault? p.prefs p.height = some (.input f) := by
    rw [Answer.fault?, if_pos hlt, h]
  obtain ⟨s', before, e, -⟩ := react_of_fault? s hfault
  have hfatal : (Event.ofFault (.input f)).isFatal = true := rfl
  obtain ⟨hpublished, hnext⟩ := fail_of_isFatal p s' before hfatal
  rw [e]
  refine ⟨hnext, ?_, published before, hpublished⟩
  rw [fail_eq_of_isFatal p s' before hfatal]

/-- a template makes work if and only if it is well-formed, and what is wrong with any other is an
input error, at which every poller that needs its work stops.  The work has the height and the target
of the template, which it keeps as it is; payments that have not started make no difference to it;
and amounts that fit into 64 bits are added up exactly -/
theorem work_made_iff (t : Template) (prefs : Preferences) :
    ((∃ w, Work.ofTemplate t prefs = .ok w) ↔ t.IsWellFormed prefs) ∧
    (∀ f, Work.ofTemplate t prefs = .error f → (Fault.input f).kind = "InputError" ∧
      ∀ (p : Poller) (s : Session), p.prefs = prefs → p.height < t.height →
        (p.react s (.template t)).next = .giveUp (.input f) ∧
        (p.react s (.template t)).poller.state = .stopped ∧
        ∃ before, published (p.react s (.template t)).actions
          = before ++ [.credentialsRejected, .terminated]) ∧
    (∀ w, Work.ofTemplate t prefs = .ok w → w.template = t ∧ w.height = t.height ∧
      ∀ bits : UInt32, Text.IsHexNumeral t.bits bits.toNat →
        w.target.toNat = ⌊Target.compactNumber bits⌋₊) ∧
    (t.paymentsStarted = false → ∀ ps, Work.ofTemplate { t with payments := ps } prefs =
      (Work.ofTemplate t prefs).map fun w => { w with template := { t with payments := ps } }) ∧
    ((t.payments.map (·.amount.toNat)).sum < 2 ^ 64 →
      ∀ os, Coinbase.outputsOf (Coinbase.duePayments t) = .ok os →
        ∀ k, (Output.total (os.take k)).toNat = Output.sum (os.take k)) := by
  refine ⟨Work.exists_iff_isWellFormed, fun f h => ⟨rfl, ?_⟩, fun w h => ?_,
    Work.ofTemplate_of_not_started, fun hsum os hos => Coinbase.toNat_total_take hsum hos⟩
  · rintro p s rfl hlt
    exact Poller.react_of_refused s hlt h
  · obtain ⟨htemplate, htarget, -⟩ := Work.ofTemplate_eq_ok.1 h
    exact ⟨htemplate, height_of_ofTemplate h, fun bits => Work.toNat_of_targetOf htarget⟩

end CycleMiner
