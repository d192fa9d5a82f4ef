import CycleMiner.Settings
import CycleMiner.Toml.Reader

/-!
# Reading settings

Settings are written as a TOML text.  A key with a default may be left out, and unknown keys do not
matter; the node's table may also be given as the array of its values in their order.

* `Settings.ofToml`    the settings in the members of a text;
* `Settings.parse`     the settings in a text;
* `Settings.load`      the settings in a file, checked.
-/

namespace CycleMiner

namespace Toml

/-- a whole number below `bound` that is not negative -/
def readNat (bound : Nat) : Toml → Option Nat
  | int n => if 0 ≤ n ∧ n < bound then some n.toNat else none
  | _ => none

def readUInt8 (v : Toml) : Option UInt8 := (readNat UInt8.size v).map UInt8.ofNat

def readUInt32 (v : Toml) : Option UInt32 := (readNat UInt32.size v).map UInt32.ofNat

def readUInt64 (v : Toml) : Option UInt64 := (readNat UInt64.size v).map UInt64.ofNat

def readString : Toml → Option String
  | string s => some s
  | _ => none

def readUInt8s : Toml → Option (List UInt8)
  | array items => items.mapM readUInt8
  | _ => none

/-- the values of a table, by their keys or by their places -/
inductive Fields where
  | named (members : Members)
  | placed (items : List Toml)

namespace Fields

/-- a value opened as a table -/
def of? : Toml → Option Fields
  | table _ members => some (named members)
  | array items => some (placed items)
  | _ => none

/-- the value with a key, which has this place in an array -/
def value? (place : Nat) (key : String) : Fields → Option Toml
  | named members => member? key members
  | placed items => items[place]?

def field {α : Type} (fs : Fields) (place : Nat) (key : String) (read : Toml → Option α) :
    Option α :=
  (fs.value? place key).bind read

def fieldOr {α : Type} (fs : Fields) (place : Nat) (key : String) (read : Toml → Option α)
    (default : α) : Option α :=
  match fs.value? place key with
  | some v => read v
  | none => some default

end Fields

end Toml

open Toml

def NodeSettings.ofFields (fs : Fields) : Option NodeSettings := do
  let rpcUrl ← fs.field 0 "rpc_url" readString
  let user ← fs.fieldOr 1 "rpc_user" readString ""
  let password ← fs.fieldOr 2 "rpc_password" readString ""
  let payoutScript ← fs.field 3 "payout_script" readString
  let base := NodeSettings.standard rpcUrl payoutScript
  let coinbaseScript ← fs.fieldOr 4 "coinbase_script" (fun v => (readString v).map some) none
  let voteBits ← fs.fieldOr 5 "vote_bits" readUInt8s base.voteBits
  let retryPause ← fs.fieldOr 6 "retry_pause_secs" readUInt64 base.retryPause
  let pollInterval ← fs.fieldOr 7 "poll_interval_secs" readUInt64 base.pollInterval
  let request ← fs.fieldOr 8 "request_timeout_secs" readUInt64 base.timeouts.request
  let longPoll ← fs.fieldOr 9 "longpoll_timeout_secs" readUInt64 base.timeouts.longPoll
  return ⟨rpcUrl, ⟨user, password⟩, payoutScript, coinbaseScript, voteBits, retryPause,
    pollInterval, ⟨request, longPoll⟩⟩

namespace Settings

def ofToml (members : Members) : Option Settings := do
  let fs := Fields.named members
  let node ← fs.field 5 "node" fun v => (Fields.of? v).bind NodeSettings.ofFields
  let base := Settings.standard node
  let workerThreads ← fs.fieldOr 0 "worker_threads" (fun v => (readNat UInt64.size v).map some) none
  let edgeBits ← fs.fieldOr 1 "edge_bits" readUInt8 base.edgeBits
  let proofSize ← fs.fieldOr 2 "proof_size" (readNat UInt64.size) base.proofSize
  let easiness ← fs.fieldOr 3 "easiness" (fun v => (readUInt32 v).map some) none
  let reportInterval ← fs.fieldOr 4 "report_interval_secs" readUInt64 base.reportInterval
  return ⟨workerThreads, edgeBits, proofSize, easiness, reportInterval, node⟩

def parse (text : String) : Except Fault Settings :=
  match (Toml.parse? text).bind ofToml with
  | some s => .ok s
  | none => .error (.settings .format)

/-- the text of a file, or why there is none -/
def textOf (path : String) (contents : Except String Bytes) : Except Fault String :=
  match contents with
  | .error reason => .error (.settings (.unreadable path reason))
  | .ok bytes =>
    match String.fromUTF8? (ByteArray.mk bytes.toArray) with
    | some text => .ok text
    | none => .error (.settings (.unreadable path "stream did not contain valid UTF-8"))

def load (path : String) (contents : Except String Bytes) : Except Fault Settings :=
  match textOf path contents with
  | .error f => .error f
  | .ok text =>
    match parse text with
    | .error f => .error f
    | .ok s =>
      match s.validate with
      | .error f => .error f
      | .ok () => .ok s

end Settings

end CycleMiner
