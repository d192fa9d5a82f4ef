import CycleMiner.Proofs.Outcome
import CycleMiner.Work

/-!
# What work and blocks are made of

Making work out of a template, and a block out of a candidate, succeeds exactly if every part can be
made.

* `Work.targetOf_eq_ok`, `HeaderPrefix.ofTemplate_eq_ok`   the target and the header prefix: both
  read the compact target from the same text;
* `Work.ofTemplate_eq_ok`    the work;
* `Work.exists_ofTemplate_iff`   that there is some;
* `Candidate.bytes_eq_ok`    the block;
* `Work.txidsOf_eq`, `Candidate.transactionBytes_eq`   of the transactions of a template, work needs
  the hashes and a block the data.
-/

namespace CycleMiner

theorem Work.targetOf_eq_ok {t : Template} {target : Target} :
    targetOf t = .ok target ↔
      ∃ bits, InputFault.ofBits t.bits = .ok bits ∧ Target.ofCompact bits = .ok target := by
  unfold targetOf
  cases hb : InputFault.ofBits t.bits with
  | error f => simp
  | ok bits =>
    dsimp only
    rw [mapError_eq_ok]
    exact ⟨fun h => ⟨bits, rfl, h⟩, fun ⟨bits', e, h⟩ => by rw [Except.ok.inj e]; exact h⟩

theorem HeaderPrefix.ofTemplate_eq_ok {t : Template} {root : Digest} {votes : List UInt8}
    {h : HeaderPrefix} :
    ofTemplate t root votes = .ok h ↔
      InputFault.ofBits t.bits = .ok h.bits ∧ blockVersion t.version votes = .ok h.version ∧
        InputFault.ofShownHash t.previousHash = .ok h.previous ∧ h.root = root ∧
        h.time = t.time := by
  unfold ofTemplate
  cases InputFault.ofBits t.bits with
  | error f => simp
  | ok bits =>
    cases blockVersion t.version votes with
    | error f => simp
    | ok version =>
      cases InputFault.ofShownHash t.previousHash with
      | error f => simp
      | ok previous =>
        obtain ⟨version', previous', root', time', bits'⟩ := h
        simp only [Except.ok.injEq, HeaderPrefix.mk.injEq]
        constructor
        · rintro ⟨rfl, rfl, rfl, rfl, rfl⟩
          exact ⟨rfl, rfl, rfl, rfl, rfl⟩
        · rintro ⟨rfl, rfl, rfl, rfl, rfl⟩
          exact ⟨rfl, rfl, rfl, rfl, rfl⟩

theorem Work.ofTemplate_eq_ok {t : Template} {prefs : Preferences} {w : Work} :
    ofTemplate t prefs = .ok w ↔
      w.template = t ∧ targetOf t = .ok w.target ∧ Coinbase.ofTemplate t prefs = .ok w.coinbase ∧
        ∃ txids, txidsOf t.transactions = .ok txids ∧
          HeaderPrefix.ofTemplate t (Merkle.root (w.coinbase.txid :: txids)) prefs.voteBits
            = .ok w.headerPrefix := by
  unfold ofTemplate
  cases targetOf t with
  | error f => simp
  | ok target =>
    cases Coinbase.ofTemplate t prefs with
    | error f => simp
    | ok coinbase =>
      cases txidsOf t.transactions with
      | error f => simp
      | ok txids =>
        obtain ⟨template', target', coinbase', headerPrefix'⟩ := w
        cases hh : HeaderPrefix.ofTemplate t (Merkle.root (coinbase.txid :: txids))
            prefs.voteBits with
        | error f =>
          simp only [hh, reduceCtorEq, false_iff]
          rintro ⟨-, -, hc, txids', ht, h⟩
          obtain rfl := Except.ok.inj hc
          obtain rfl := Except.ok.inj ht
          rw [hh] at h
          cases h
        | ok headerPrefix =>
          simp only [hh, Except.ok.injEq, Work.mk.injEq]
          constructor
          · rintro ⟨rfl, rfl, rfl, rfl⟩
            exact ⟨rfl, rfl, rfl, txids, rfl, hh⟩
          · rintro ⟨rfl, rfl, rfl, _, rfl, h⟩
            exact ⟨rfl, rfl, rfl, Except.ok.inj (hh.symm.trans h)⟩

theorem Work.exists_ofTemplate_iff {t : Template} {prefs : Preferences} :
    (∃ w, ofTemplate t prefs = .ok w) ↔
      (∃ target, targetOf t = .ok target) ∧ (∃ c, Coinbase.ofTemplate t prefs = .ok c) ∧
        (∃ txids, txidsOf t.transactions = .ok txids) ∧
        (∃ version, blockVersion t.version prefs.voteBits = .ok version) ∧
        ∃ previous, InputFault.ofShownHash t.previousHash = .ok previous := by
  constructor
  · rintro ⟨w, h⟩
    obtain ⟨-, htarget, hcoinbase, txids, htxids, hheader⟩ := ofTemplate_eq_ok.1 h
    obtain ⟨-, hversion, hprevious, -⟩ := HeaderPrefix.ofTemplate_eq_ok.1 hheader
    exact ⟨⟨_, htarget⟩, ⟨_, hcoinbase⟩, ⟨txids, htxids⟩, ⟨_, hversion⟩, _, hprevious⟩
  · rintro ⟨⟨target, htarget⟩, ⟨c, hcoinbase⟩, ⟨txids, htxids⟩, ⟨version, hversion⟩, previous,
      hprevious⟩
    obtain ⟨bits, hbits, -⟩ := targetOf_eq_ok.1 htarget
    have hheader : HeaderPrefix.ofTemplate t (Merkle.root (c.txid :: txids)) prefs.voteBits
        = .ok ⟨version, previous, Merkle.root (c.txid :: txids), t.time, bits⟩ :=
      HeaderPrefix.ofTemplate_eq_ok.2 ⟨hbits, hversion, hprevious, rfl, rfl⟩
    exact ⟨⟨t, target, c, _⟩,
      ofTemplate_eq_ok.2 ⟨rfl, htarget, hcoinbase, txids, htxids, hheader⟩⟩

theorem Work.ofTemplate_of_coinbase {t : Template} {prefs : Preferences} {target : Target}
    {f : InputFault} (ht : targetOf t = .ok target) (hc : Coinbase.ofTemplate t prefs = .error f) :
    ofTemplate t prefs = .error f := by
  unfold ofTemplate
  rw [ht, hc]

theorem Candidate.bytes_eq_ok {c : Candidate} {block : Bytes} :
    c.bytes = .ok block ↔
      ∃ body, transactionBytes c.work.template.transactions = .ok body ∧
        block = c.work.header c.headerNonce ++ c.solution.bytes ++
          CompactSize.encode (1 + c.work.template.transactions.length) ++
          c.work.coinbase.bytes ++ body := by
  unfold bytes
  dsimp only
  cases ht : transactionBytes c.work.template.transactions with
  | error f => simp [Except.map]
  | ok body => simp [Except.map, eq_comm]

/-! ## transactions of a template -/

theorem Work.txidsOf_eq (txs : List TemplateTransaction) :
    txidsOf txs = (txs.map (·.hash)).mapM InputFault.ofShownHash := by
  induction txs with
  | nil => rfl
  | cons tx txs ih =>
    rw [txidsOf, List.map_cons]
    cases h : InputFault.ofShownHash tx.hash with
    | error f => rw [mapM_cons_of_error h]
    | ok d =>
      rw [mapM_cons_of_ok h, ← ih]
      cases txidsOf txs with
      | error f => rfl
      | ok ds => rfl

theorem Candidate.transactionBytes_eq (txs : List TemplateTransaction) :
    transactionBytes txs = ((txs.map (·.data)).mapM InputFault.ofHex).map List.flatten := by
  induction txs with
  | nil => rfl
  | cons tx txs ih =>
    rw [transactionBytes, List.map_cons]
    cases h : InputFault.ofHex tx.data with
    | error f => rw [mapM_cons_of_error h, Except.map]
    | ok bs =>
      rw [mapM_cons_of_ok h, ih]
      cases (txs.map (·.data)).mapM InputFault.ofHex with
      | error f => rfl
      | ok bss => rfl

end CycleMiner
