import CycleMiner.Block.Coinbase
import CycleMiner.Proofs.Bytes.Reader

/-!
# Transactions, written and read

The grammar by which a node reads a transaction: a version, the inputs and the outputs behind their
counts, a lock time, and for a special transaction a payload.  A special transaction has 3 in the
low half of its version word and its type in the high half; the one with a payload is of type 5.

* `Input`, `Transaction`, `Transaction.bytes`   a transaction and its bytes;
* `Transaction.ofBytes?`                        reads a transaction, of which no byte may be left;
* `Transaction.ofBytes?_bytes`                  a transaction is read as it was written, if its
  lengths fit into their numbers and there is a payload exactly if the version says so;
* `Transaction.inputs_eq_of_bytes_eq`           the inputs alone are read whatever stands behind.
-/

namespace CycleMiner

structure Input where
  /-- the transaction whose output is spent -/
  previous : Digest
  index : UInt32
  script : Bytes
  sequence : UInt32

structure Transaction where
  version : UInt32
  inputs : List Input
  outputs : List Output
  lockTime : UInt32
  payload : Option Bytes

/-! ## writing -/

def Input.bytes (i : Input) : Bytes :=
  i.previous.bytes ++ Bytes.ofUInt32 i.index ++ CompactSize.counted i.script ++
    Bytes.ofUInt32 i.sequence

namespace Transaction

/-- whether a version word asks for a payload -/
def HasPayload (version : UInt32) : Prop :=
  version.toNat % 2 ^ 16 = 3 ∧ version.toNat / 2 ^ 16 = 5

instance (version : UInt32) : Decidable (HasPayload version) :=
  inferInstanceAs (Decidable (_ ∧ _))

def inputBytes (tx : Transaction) : Bytes :=
  CompactSize.encode tx.inputs.length ++ tx.inputs.flatMap Input.bytes

def outputBytes (tx : Transaction) : Bytes :=
  CompactSize.encode tx.outputs.length ++ tx.outputs.flatMap Output.bytes

def payloadBytes (tx : Transaction) : Bytes := (tx.payload.map CompactSize.counted).getD []

def bytes (tx : Transaction) : Bytes :=
  Bytes.ofUInt32 tx.version ++ tx.inputBytes ++ tx.outputBytes ++ Bytes.ofUInt32 tx.lockTime ++
    tx.payloadBytes

/-- the inputs can be told from what stands behind them -/
structure FitsInputs (tx : Transaction) : Prop where
  count : tx.inputs.length < 2 ^ 64
  scripts : ∀ i ∈ tx.inputs, i.script.length < 2 ^ 64

/-- every length fits into its number, and there is a payload exactly if the version says so -/
structure Fits (tx : Transaction) : Prop extends FitsInputs tx where
  outputs : tx.outputs.length < 2 ^ 64
  outputScripts : ∀ o ∈ tx.outputs, o.script.length < 2 ^ 64
  payload : ∀ p ∈ tx.payload, p.length < 2 ^ 64
  special : HasPayload tx.version ↔ tx.payload.isSome

end Transaction

/-! ## reading -/

namespace Reader

def input : Reader Input := do
  let previous ← digest
  let index ← word
  let script ← counted
  let sequence ← word
  return ⟨previous, index, script, sequence⟩

def output : Reader Output := do
  let value ← doubleWord
  let script ← counted
  return ⟨value, script⟩

/-- a payload, if the version asks for one -/
def payload (version : UInt32) : Reader (Option Bytes) :=
  if Transaction.HasPayload version then some <$> counted else return none

def transaction : Reader Transaction := do
  let version ← word
  let inputs ← list input
  let outputs ← list output
  let lockTime ← word
  let payload ← payload version
  return ⟨version, inputs, outputs, lockTime, payload⟩

end Reader

/-- the transaction that a byte string holds, if it holds nothing else -/
def Transaction.ofBytes? (bs : Bytes) : Option Transaction := Reader.transaction.whole bs

/-! ## what is written is read back -/

theorem Input.reads_bytes {i : Input} (h : i.script.length < 2 ^ 64) :
    Reads Reader.input i.bytes i := by
  rw [bytes, List.append_assoc, List.append_assoc]
  refine (Reads.digest i.previous).bind ?_
  refine (Reads.word i.index).bind ?_
  refine (Reads.counted h).bind ?_
  exact (Reads.word i.sequence).bind_pure

theorem Output.reads_bytes {o : Output} (h : o.script.length < 2 ^ 64) :
    Reads Reader.output o.bytes o := by
  refine (Reads.doubleWord o.value).bind ?_
  exact (Reads.counted h).bind_pure

namespace Transaction

variable {tx : Transaction}

/-- field after field -/
theorem bytes_eq (tx : Transaction) : tx.bytes = Bytes.ofUInt32 tx.version ++ (tx.inputBytes ++
    (tx.outputBytes ++ (Bytes.ofUInt32 tx.lockTime ++ tx.payloadBytes))) := by
  simp only [bytes, List.append_assoc]

theorem FitsInputs.reads_inputs (h : tx.FitsInputs) :
    Reads (Reader.list Reader.input) tx.inputBytes tx.inputs :=
  Reads.list h.count fun i hi => Input.reads_bytes (h.scripts i hi)

theorem Fits.reads_outputs (h : tx.Fits) :
    Reads (Reader.list Reader.output) tx.outputBytes tx.outputs :=
  Reads.list h.outputs fun o ho => Output.reads_bytes (h.outputScripts o ho)

theorem Fits.reads_payload (h : tx.Fits) :
    Reads (Reader.payload tx.version) tx.payloadBytes tx.payload := by
  unfold Reader.payload payloadBytes
  cases hp : tx.payload with
  | none =>
    have hnot : ¬ HasPayload tx.version := by
      rw [h.special, hp]
      exact Bool.false_ne_true
    rw [if_neg hnot]
    exact Reads.pure none
  | some p =>
    have hhas : HasPayload tx.version := h.special.2 (by rw [hp]; rfl)
    rw [if_pos hhas]
    exact (Reads.counted (h.payload p hp)).map some

theorem Fits.reads_bytes (h : tx.Fits) : Reads Reader.transaction tx.bytes tx := by
  rw [bytes_eq]
  refine (Reads.word tx.version).bind ?_
  refine h.reads_inputs.bind ?_
  refine h.reads_outputs.bind ?_
  refine (Reads.word tx.lockTime).bind ?_
  exact h.reads_payload.bind_pure

theorem ofBytes?_bytes (h : tx.Fits) : ofBytes? tx.bytes = some tx := h.reads_bytes.whole_eq

/-- equal bytes have equal inputs, also if what stands behind them cannot be read back -/
theorem inputs_eq_of_bytes_eq {tx' : Transaction} (h : tx.FitsInputs) (h' : tx'.FitsInputs)
    (e : tx.bytes = tx'.bytes) : tx.inputs = tx'.inputs := by
  have front {tx : Transaction} (h : tx.FitsInputs) :
      Reads (Reader.word >>= fun _ => Reader.list Reader.input)
        (Bytes.ofUInt32 tx.version ++ tx.inputBytes) tx.inputs :=
    (Reads.word tx.version).bind h.reads_inputs
  rw [bytes_eq, bytes_eq, ← List.append_assoc, ← List.append_assoc (Bytes.ofUInt32 tx'.version)] at e
  exact (front h).unique (front h') e

end Transaction

end CycleMiner
