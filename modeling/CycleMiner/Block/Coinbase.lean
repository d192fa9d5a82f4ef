import CycleMiner.Block.HeightPush
import CycleMiner.CompactSize
import CycleMiner.InputFault
import CycleMiner.Template

/-!
# The coinbase transaction

The first transaction of a block pays out its value.  Its input spends nothing, and its input
script starts with the height; its outputs are the miner's own and, once they have started, the
template's payments, which are taken out of the value.

* `Preferences`              what the miner chooses: scripts and vote bits;
* `Coinbase.ofTemplate`      the coinbase of a template;
* `Coinbase.bytes`           the transaction's bytes;
* `Coinbase.txid`            its id, in the order in which it is hashed.

A payload makes it a special transaction: version 3 of type 5, with the payload behind everything
else.  Of several faults the script's length is told first, then the payments, then the payload.
-/

namespace CycleMiner

/-- what the miner chooses about the blocks it mines -/
structure Preferences where
  /-- the output script that is paid -/
  payoutScript : Bytes
  /-- what stands behind the height in the coinbase's input script -/
  extraScript : Bytes
  /-- bits to set in the version of every header -/
  voteBits : List UInt8
  deriving DecidableEq, Repr, Inhabited

structure Output where
  value : UInt64
  script : Bytes
  deriving DecidableEq, Repr, Inhabited

structure Coinbase where
  inputScript : Bytes
  outputs : List Output
  payload : Option Bytes
  deriving DecidableEq, Repr, Inhabited

namespace Output

def bytes (o : Output) : Bytes := Bytes.ofUInt64 o.value ++ CompactSize.counted o.script

/-- the values of outputs, added up modulo `2 ^ 64` -/
def total (os : List Output) : UInt64 := os.foldl (fun sum o => sum + o.value) 0

end Output

namespace Coinbase

/-- the version word: a payload makes it version 3 of type 5 -/
def version (c : Coinbase) : UInt32 := if c.payload.isSome then 0x00050003 else 1

/-- the bytes behind the lock time -/
def payloadBytes (c : Coinbase) : Bytes :=
  match c.payload with
  | some p => CompactSize.counted p
  | none => []

def bytes (c : Coinbase) : Bytes :=
  Bytes.ofUInt32 c.version ++ [0x01] ++ Digest.zero.bytes ++ Bytes.ofUInt32 0xffffffff ++
    CompactSize.counted c.inputScript ++ Bytes.ofUInt32 0xffffffff ++
    CompactSize.encode c.outputs.length ++ c.outputs.flatMap Output.bytes ++
    Bytes.ofUInt32 0 ++ c.payloadBytes

def txid (c : Coinbase) : Digest := doubleSha256 c.bytes

/-! ## From a template -/

/-- the input script: the height, what the miner adds, and a zero byte if that is still too short -/
def inputScriptOf (height : UInt64) (extra : Bytes) : Bytes :=
  let script := Block.heightPush height ++ extra
  if script.length < 2 then script ++ [0x00] else script

def outputsOf : List Payment → Except InputFault (List Output)
  | [] => .ok []
  | p :: rest =>
    match InputFault.ofHex p.script with
    | .error f => .error f
    | .ok script =>
      match outputsOf rest with
      | .error f => .error f
      | .ok os => .ok (⟨p.amount, script⟩ :: os)

def duePayments (t : Template) : List Payment := if t.paymentsStarted then t.payments else []

/-- the payload of a template; an empty one is none -/
def payloadOf (t : Template) : Except InputFault (Option Bytes) :=
  match t.payload with
  | none => .ok none
  | some text => if text = "" then .ok none else (InputFault.ofHex text).map some

/-- what is left of a value after a payment, 0 if the payment is larger -/
def remainder (value paid : UInt64) : UInt64 := if paid ≤ value then value - paid else 0

def ofTemplate (t : Template) (prefs : Preferences) : Except InputFault Coinbase :=
  let script := inputScriptOf t.height prefs.extraScript
  if 100 < script.length then .error (.scriptLength script.length)
  else
    match outputsOf (duePayments t) with
    | .error f => .error f
    | .ok payments =>
      match payloadOf t with
      | .error f => .error f
      | .ok payload =>
        let own : Output := ⟨remainder t.coinbaseValue (Output.total payments), prefs.payoutScript⟩
        .ok ⟨script, own :: payments, payload⟩

end Coinbase

end CycleMiner
