import CycleMiner.Proofs.Coinbase.Parts
import CycleMiner.Proofs.Work.Parts

/-!
# When a block can be assembled

A template's transactions have a hash, which goes into the header, and data, which go into the block.
Work is made from the hashes alone.  So a block can be assembled if and only if the data of every
transaction are hexadecimal, and work is made whether they are or not.

* `Candidate.exists_bytes_iff`        when there are bytes of a block;
* `Candidate.exists_of_bytes_error`   what is wrong if there are none;
* `Work.ofTemplate_of_hashes`         work for transactions of the same hashes;
* `block_assembled_iff`               all that can be wrong with the block of some work, and that
  it is never found when the work is made;
* `work_without_block`                work of which no block can be assembled.
-/

namespace CycleMiner

namespace Candidate

variable {c : Candidate}

theorem exists_bytes_iff : (∃ block, c.bytes = .ok block) ↔
    ∀ tx ∈ c.work.template.transactions, ∃ data, Hex.decode tx.data = .ok data := by
  have hbody : (∃ block, c.bytes = .ok block) ↔
      ∃ bss, (c.work.template.transactions.map (·.data)).mapM InputFault.ofHex = .ok bss := by
    constructor
    · rintro ⟨block, h⟩
      obtain ⟨body, hbody, -⟩ := bytes_eq_ok.1 h
      rw [transactionBytes_eq] at hbody
      obtain ⟨bss, hbss, -⟩ := map_eq_ok.1 hbody
      exact ⟨bss, hbss⟩
    · rintro ⟨bss, hbss⟩
      refine ⟨_, bytes_eq_ok.2 ⟨bss.flatten, ?_, rfl⟩⟩
      rw [transactionBytes_eq]
      exact map_eq_ok.2 ⟨bss, hbss, rfl⟩
  rw [hbody, exists_mapM_eq_ok, List.forall_mem_map]
  simp only [InputFault.ofHex_eq_ok]

theorem exists_hex_iff : (∃ text, c.hex = .ok text) ↔ ∃ block, c.bytes = .ok block := by
  constructor
  · rintro ⟨text, h⟩
    obtain ⟨block, hblock, -⟩ := map_eq_ok.1 h
    exact ⟨block, hblock⟩
  · rintro ⟨block, hblock⟩
    exact ⟨_, map_eq_ok.2 ⟨block, hblock, rfl⟩⟩

theorem exists_of_bytes_error {f : InputFault} (h : c.bytes = .error f) :
    ∃ tx ∈ c.work.template.transactions, ∃ fault,
      Hex.decode tx.data = .error fault ∧ InputFault.hex fault = f := by
  have hbody : transactionBytes c.work.template.transactions = .error f := map_eq_error.1 h
  rw [transactionBytes_eq] at hbody
  obtain ⟨data, hdata, he⟩ := exists_mem_of_mapM_eq_error (map_eq_error.1 hbody)
  obtain ⟨tx, htx, rfl⟩ := List.mem_map.1 hdata
  exact ⟨tx, htx, InputFault.ofHex_eq_error.1 he⟩

end Candidate

/-- transactions of the same hashes make the same work, whatever their data are -/
theorem Work.ofTemplate_of_hashes {t : Template} {prefs : Preferences} {w : Work}
    (hw : ofTemplate t prefs = .ok w) {txs : List TemplateTransaction}
    (h : txs.map (·.hash) = t.transactions.map (·.hash)) :
    ofTemplate { t with transactions := txs } prefs
      = .ok { w with template := { t with transactions := txs } } := by
  obtain ⟨-, htarget, hcoinbase, txids, htxids, hheader⟩ := ofTemplate_eq_ok.1 hw
  refine ofTemplate_eq_ok.2 ⟨rfl, htarget, hcoinbase, txids, ?_, hheader⟩
  rw [txidsOf_eq, h, ← txidsOf_eq]
  exact htxids

/-- a block of some work can be assembled if and only if the data of every transaction are
hexadecimal; nothing else can be wrong with it; and work does not depend on the data -/
theorem block_assembled_iff {t : Template} {prefs : Preferences} {w : Work}
    (hw : Work.ofTemplate t prefs = .ok w) :
    (∀ headerNonce solution,
      let c : Candidate := ⟨w, headerNonce, solution⟩
      ((∃ block, c.bytes = .ok block) ↔
        ∀ tx ∈ t.transactions, ∃ data, Hex.decode tx.data = .ok data) ∧
      ((∃ text, c.hex = .ok text) ↔
        ∀ tx ∈ t.transactions, ∃ data, Hex.decode tx.data = .ok data) ∧
      ∀ f, c.bytes = .error f → ∃ tx ∈ t.transactions, ∃ fault,
        Hex.decode tx.data = .error fault ∧ InputFault.hex fault = f) ∧
    ∀ txs : List TemplateTransaction, txs.map (·.hash) = t.transactions.map (·.hash) →
      Work.ofTemplate { t with transactions := txs } prefs
        = .ok { w with template := { t with transactions := txs } } := by
  obtain ⟨rfl, -⟩ := Work.ofTemplate_eq_ok.1 hw
  constructor
  · intro headerNonce solution c
    have hbytes := @Candidate.exists_bytes_iff c
    exact ⟨hbytes, Candidate.exists_hex_iff.trans hbytes, fun f => Candidate.exists_of_bytes_error⟩
  · intro txs h
    exact Work.ofTemplate_of_hashes hw h

/-- a template with one transaction -/
def Template.carrying (data : String) : Template :=
  { Template.paying 5 1000 300 with
    transactions :=
      [⟨data, "0000000000000000000000000000000000000000000000000000000000000001", 0⟩] }

theorem Work.exists_ofTemplate_carrying (data : String) :
    ∃ w, ofTemplate (.carrying data) (.plain [0x52]) = .ok w ∧ w.template = .carrying data := by
  have h : (ofTemplate (.carrying "") (.plain [0x52])).isOk = true := by decide +kernel
  obtain ⟨w, hw⟩ := exists_of_isOk h
  exact ⟨_, ofTemplate_of_hashes hw rfl, rfl⟩

theorem block_assembled_of_one_byte :
    ∃ w, Work.ofTemplate (.carrying "00") (.plain [0x52]) = .ok w ∧
      (∃ block, Candidate.bytes ⟨w, 7, [1, 2, 3, 4]⟩ = .ok block) ∧
      ∃ text, Candidate.hex ⟨w, 7, [1, 2, 3, 4]⟩ = .ok text := by
  obtain ⟨w, hw, -⟩ := Work.exists_ofTemplate_carrying "00"
  have hdata : ∀ tx ∈ (Template.carrying "00").transactions,
      ∃ data, Hex.decode tx.data = .ok data := by
    intro tx htx
    obtain rfl := List.mem_singleton.1 htx
    exact exists_of_isOk (by decide +kernel)
  obtain ⟨hbytes, hhex, -⟩ := (block_assembled_iff hw).1 7 [1, 2, 3, 4]
  exact ⟨w, hw, hbytes.2 hdata, hhex.2 hdata⟩

/-- a transaction whose data are not hexadecimal is taken into work, and no solution of it makes a
block -/
theorem work_without_block :
    ∃ w, Work.ofTemplate (.carrying "zz") (.plain [0x52]) = .ok w ∧
      ∀ headerNonce solution, ∃ f, Candidate.bytes ⟨w, headerNonce, solution⟩ = .error f := by
  obtain ⟨w, hw, ht⟩ := Work.exists_ofTemplate_carrying "zz"
  refine ⟨w, hw, fun headerNonce solution => ?_⟩
  cases hb : Candidate.bytes ⟨w, headerNonce, solution⟩ with
  | error f => exact ⟨f, rfl⟩
  | ok block =>
    have hdata := Candidate.exists_bytes_iff.1 ⟨block, hb⟩
    rw [show (Candidate.mk w headerNonce solution).work.template = _ from ht] at hdata
    obtain ⟨bs, hbs⟩ := hdata _ (List.mem_singleton.2 rfl)
    have hbad : (Hex.decode "zz").isOk = false := by decide +kernel
    rw [show Hex.decode "zz" = .ok bs from hbs] at hbad
    cases hbad

end CycleMiner
