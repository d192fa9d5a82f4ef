import CycleMiner.Proofs.Block.Transaction
import CycleMiner.Proofs.Coinbase.Parts

/-!
# The coinbase as a node reads it

A node takes the bytes of a coinbase apart by the grammar of transactions.  It finds the height in
front of the input script, and the outputs that the template and the miner ask for.

* `Coinbase.transaction`           a coinbase as a transaction with one input;
* `Transaction.IsCoinbaseOf`       what the coinbase of a template has to say;
* `Coinbase.ofBytes?_bytes`        the bytes of a coinbase are read as that transaction;
* `coinbase_reads_back`            so they are read as a coinbase of the template, down to the last
  one; and coinbases for different heights have different bytes.

Counts and lengths are written as numbers of 64 bits, so reading back asks for lists and texts that a
machine can hold (`Template.InMemory`, `Preferences.InMemory`).  The input script is short whatever
the template is, so heights can be told apart without that.
-/

namespace CycleMiner

/-! ## what a machine can hold -/

/-- lists of bytes and of records in a memory of 64 bits have fewer members -/
def memoryBound : Nat := 2 ^ 63

structure Template.InMemory (t : Template) : Prop where
  payments : t.payments.length < memoryBound
  scripts : ∀ p ∈ t.payments, (Bytes.ofText p.script).length < memoryBound
  payload : ∀ text ∈ t.payload, (Bytes.ofText text).length < memoryBound

def Preferences.InMemory (prefs : Preferences) : Prop := prefs.payoutScript.length < memoryBound

/-! ## what a coinbase has to say -/

/-- the shortest push of the height, then what the miner adds, and a zero byte only if that is too
short -/
structure Block.IsInputScript (height : UInt64) (extra script : Bytes) : Prop where
  two_le : 2 ≤ script.length
  le_hundred : script.length ≤ 100
  pieces : ∃ push, IsMinimalPush height.toNat push ∧
    (2 ≤ (push ++ extra).length ∧ script = push ++ extra ∨
      (push ++ extra).length < 2 ∧ script = push ++ extra ++ [0])

/-- what the coinbase of a template has to say -/
structure Transaction.IsCoinbaseOf (t : Template) (prefs : Preferences) (tx : Transaction) :
    Prop where
  /-- the only input spends nothing -/
  inputs : ∃ script, Block.IsInputScript t.height prefs.extraScript script ∧
    tx.inputs = [⟨Digest.zero, 0xffffffff, script, 0xffffffff⟩]
  /-- the miner is paid first, then everyone who has to be paid now -/
  outputs : ∃ own payments, own.script = prefs.payoutScript ∧ tx.outputs = own :: payments ∧
    List.Forall₂ Coinbase.Makes (if t.paymentsStarted then t.payments else []) payments
  lockTime : tx.lockTime = 0
  /-- a payload makes it a special transaction -/
  special : ∀ text, t.payload = some text → text ≠ "" →
    tx.version.toNat = 3 + 5 * 2 ^ 16 ∧ ∃ p, Hex.decode text = .ok p ∧ tx.payload = some p
  plain : t.payload = none ∨ t.payload = some "" → tx.version = 1 ∧ tx.payload = none

/-! ## a coinbase is a transaction -/

namespace Coinbase

def transaction (c : Coinbase) : Transaction where
  version := c.version
  inputs := [⟨Digest.zero, 0xffffffff, c.inputScript, 0xffffffff⟩]
  outputs := c.outputs
  lockTime := 0
  payload := c.payload

theorem bytes_transaction (c : Coinbase) : c.transaction.bytes = c.bytes := by
  have hcount : CompactSize.encode c.transaction.inputs.length = [0x01] := rfl
  have hpayload : c.transaction.payloadBytes = c.payloadBytes := by
    unfold Transaction.payloadBytes payloadBytes transaction
    cases c.payload with
    | none => rfl
    | some p => rfl
  rw [bytes, Transaction.bytes, hpayload, Transaction.inputBytes, hcount]
  simp only [transaction, Transaction.outputBytes, Input.bytes, List.flatMap_cons,
    List.flatMap_nil, List.append_nil, List.append_assoc]

variable {t : Template} {prefs : Preferences} {c : Coinbase}

theorem fitsInputs (h : ofTemplate t prefs = .ok c) : c.transaction.FitsInputs where
  count := by
    show 1 < 2 ^ 64
    decide
  scripts i hi := by
    obtain ⟨-, hle, -⟩ := ofTemplate_eq_ok.1 h
    obtain rfl := List.mem_singleton.1 hi
    exact Nat.lt_of_le_of_lt hle (by decide)

theorem length_duePayments_lt (ht : t.InMemory) : (duePayments t).length < memoryBound := by
  unfold duePayments
  split
  case isTrue => exact ht.payments
  case isFalse => decide

theorem hasPayload_version (c : Coinbase) :
    Transaction.HasPayload c.version ↔ c.payload.isSome := by
  unfold version
  split
  case isTrue h => exact iff_of_true (by decide) h
  case isFalse h => exact iff_of_false (by decide) h

theorem fits (h : ofTemplate t prefs = .ok c) (ht : t.InMemory) (hp : prefs.InMemory) :
    c.transaction.Fits where
  toFitsInputs := fitsInputs h
  outputs := by
    obtain ⟨-, -, -, payments, hpay, hout⟩ := ofTemplate_eq_ok.1 h
    have hlen := (outputsOf_eq_ok.1 hpay).length_eq
    have hdue : (duePayments t).length < memoryBound := length_duePayments_lt ht
    show c.outputs.length < 2 ^ 64
    rw [hout, List.length_cons, ← hlen]
    unfold memoryBound at hdue
    omega
  outputScripts o ho := by
    obtain ⟨-, -, -, payments, hpay, hout⟩ := ofTemplate_eq_ok.1 h
    have hbound : o.script.length < memoryBound := by
      rw [show c.transaction.outputs = _ from hout] at ho
      rcases List.mem_cons.1 ho with rfl | hmem
      · exact hp
      · obtain ⟨p, hdue, -, hscript⟩ := exists_of_mem_right (outputsOf_eq_ok.1 hpay) o hmem
        exact Nat.lt_of_le_of_lt (Hex.length_decode_le hscript) (ht.scripts p (mem_of_due hdue))
    exact Nat.lt_trans hbound (by decide)
  payload p hmem := by
    obtain ⟨-, -, hpayload, -⟩ := ofTemplate_eq_ok.1 h
    obtain ⟨-, hnone⟩ | ⟨text, p', htext, -, hdecode, hsome⟩ := payloadOf_eq_ok hpayload
    · cases hnone.symm.trans hmem
    · obtain rfl := Option.some.inj (hsome.symm.trans hmem)
      have hbound := ht.payload text htext
      exact Nat.lt_trans (Nat.lt_of_le_of_lt (Hex.length_decode_le hdecode) hbound) (by decide)
  special := hasPayload_version c

theorem ofBytes?_bytes (h : ofTemplate t prefs = .ok c) (ht : t.InMemory) (hp : prefs.InMemory) :
    Transaction.ofBytes? c.bytes = some c.transaction := by
  rw [← bytes_transaction]
  exact Transaction.ofBytes?_bytes (fits h ht hp)

/-! ## what it says -/

theorem isInputScript (h : ofTemplate t prefs = .ok c) :
    Block.IsInputScript t.height prefs.extraScript c.inputScript := by
  obtain ⟨hscript, hle, -⟩ := ofTemplate_eq_ok.1 h
  refine ⟨?_, hle, Block.heightPush t.height, Block.isMinimalPush_heightPush t.height, ?_⟩
  · rw [hscript, length_inputScriptOf]
    exact Nat.le_max_left _ _
  · rw [hscript, inputScriptOf_eq, padding]
    split
    case isTrue hlt => exact .inr ⟨hlt, rfl⟩
    case isFalse hlt => exact .inl ⟨Nat.not_lt.1 hlt, List.append_nil _⟩

theorem isCoinbaseOf (h : ofTemplate t prefs = .ok c) : c.transaction.IsCoinbaseOf t prefs := by
  obtain ⟨-, -, hpayload, payments, hpay, hout⟩ := ofTemplate_eq_ok.1 h
  have hversion : c.version = if c.payload.isSome then 0x00050003 else 1 := rfl
  refine ⟨⟨c.inputScript, isInputScript h, rfl⟩, ?_, rfl, ?_, ?_⟩
  · exact ⟨_, payments, rfl, hout, outputsOf_eq_ok.1 hpay⟩
  · intro text htext hne
    obtain ⟨hno, -⟩ | ⟨text', p, htext', -, hdecode, hsome⟩ := payloadOf_eq_ok hpayload
    · rw [htext] at hno
      rcases hno with hno | hno
      · cases hno
      · exact absurd (Option.some.inj hno) hne
    · obtain rfl := Option.some.inj (htext.symm.trans htext')
      refine ⟨?_, p, hdecode, hsome⟩
      show c.version.toNat = _
      rw [hversion, hsome]
      rfl
  · intro hno
    obtain ⟨-, hnone⟩ | ⟨text, p, htext, hne, -⟩ := payloadOf_eq_ok hpayload
    · refine ⟨?_, hnone⟩
      show c.version = _
      rw [hversion, hnone]
      rfl
    · rw [htext] at hno
      rcases hno with hno | hno
      · cases hno
      · exact absurd (Option.some.inj hno) hne

/-- the height is read off the front of the input script -/
theorem height_eq_of_bytes_eq {t' : Template} {prefs' : Preferences} {c' : Coinbase}
    (h : ofTemplate t prefs = .ok c) (h' : ofTemplate t' prefs' = .ok c')
    (e : c.bytes = c'.bytes) : t.height = t'.height := by
  rw [← bytes_transaction, ← bytes_transaction] at e
  have hinputs := Transaction.inputs_eq_of_bytes_eq (fitsInputs h) (fitsInputs h') e
  have hscript : c.inputScript = c'.inputScript := by
    injection hinputs with hinput
    injection hinput
  rw [(ofTemplate_eq_ok.1 h).1, (ofTemplate_eq_ok.1 h').1, inputScriptOf_eq, inputScriptOf_eq,
    List.append_assoc, List.append_assoc] at hscript
  have hnat := (Block.reads_heightPush t.height).unique (Block.reads_heightPush t'.height) hscript
  exact UInt64.toNat_inj.1 (Int.ofNat.inj hnat)

end Coinbase

/-- the bytes of a coinbase are read as a coinbase of its template; those of coinbases for different
heights differ -/
theorem coinbase_reads_back {t : Template} {prefs : Preferences} {c : Coinbase}
    (h : Coinbase.ofTemplate t prefs = .ok c) :
    (t.InMemory → prefs.InMemory →
      ∃ tx, Transaction.ofBytes? c.bytes = some tx ∧ tx.IsCoinbaseOf t prefs) ∧
    ∀ {t' : Template} {prefs' : Preferences} {c' : Coinbase},
      Coinbase.ofTemplate t' prefs' = .ok c' → t'.height ≠ t.height → c'.bytes ≠ c.bytes := by
  constructor
  · intro ht hp
    exact ⟨c.transaction, Coinbase.ofBytes?_bytes h ht hp, Coinbase.isCoinbaseOf h⟩
  · intro t' prefs' c' h' hne e
    exact hne (Coinbase.height_eq_of_bytes_eq h' h e)

theorem Template.inMemory_paying (height value amount : UInt64) :
    (paying height value amount).InMemory where
  payments := by
    show 1 < memoryBound
    decide
  scripts p hp := by
    obtain rfl := List.mem_singleton.1 hp
    show (Bytes.ofText "51").length < memoryBound
    decide +kernel
  payload text h := by
    obtain rfl := Option.some.inj h
    show (Bytes.ofText "beef").length < memoryBound
    decide +kernel

theorem Preferences.inMemory_plain {script : Bytes} (h : script.length < memoryBound) :
    (plain script).InMemory := h

/-- one payment, a payload and a height that takes one byte -/
theorem paying_coinbase_reads_back :
    ∃ c c', Coinbase.ofTemplate (.paying 5 1000 300) (.plain [0x52]) = .ok c ∧
      Coinbase.ofTemplate (.paying 6 1000 300) (.plain [0x52]) = .ok c' ∧
      (∃ tx, Transaction.ofBytes? c.bytes = some tx ∧
        tx.IsCoinbaseOf (.paying 5 1000 300) (.plain [0x52])) ∧
      c'.bytes ≠ c.bytes := by
  have h := Coinbase.ofTemplate_paying 5 1000 300 [0x52]
  have h' := Coinbase.ofTemplate_paying 6 1000 300 [0x52]
  have ht := Template.inMemory_paying 5 1000 300
  have hp : (Preferences.plain [0x52]).InMemory := Preferences.inMemory_plain (by decide)
  obtain ⟨hreads, hdiffer⟩ := coinbase_reads_back h
  exact ⟨_, _, h, h', hreads ht hp, hdiffer h' (by decide)⟩

end CycleMiner
