import CycleMiner.Block.Coinbase
import CycleMiner.Node.Client
import CycleMiner.Params
import CycleMiner.Url

/-!
# Settings

What a miner is set up with: threads, the size of its graphs, how often it reports, and its node.

* `Settings`, `NodeSettings`      the settings as they are written;
* `NodeSettings.preferences`      the scripts and vote bits of the node's settings, decoded;
* `Settings.params`, `Settings.searchRange`   the size of the graphs and the nonces searched;
* `Settings.validate`             everything that can be checked without the node.

Of several faults the address of the node is told first, then the graphs, the scripts and vote bits,
and the report interval.
-/

namespace CycleMiner

structure NodeSettings where
  rpcUrl : String
  credentials : Credentials
  /-- hexadecimal digits of the script that is paid -/
  payoutScript : String
  /-- hexadecimal digits of what stands behind the height in the coinbase -/
  coinbaseScript : Option String
  voteBits : List UInt8
  /-- seconds to wait after a fault -/
  retryPause : UInt64
  /-- seconds between two questions when the node does not hold them back -/
  pollInterval : UInt64
  timeouts : Timeouts
  deriving DecidableEq, Repr, Inhabited

namespace NodeSettings

/-- settings with everything that has a default left out -/
def standard (rpcUrl payoutScript : String) : NodeSettings :=
  ⟨rpcUrl, ⟨"", ""⟩, payoutScript, none, [], 10, 5, ⟨30, 600⟩⟩

def ofHex (text : String) : Except Fault Bytes := (InputFault.ofHex text).mapError .input

/-- the digits of the script behind the height, if there is one -/
def extraScript (n : NodeSettings) : Except Fault Bytes :=
  match n.coinbaseScript with
  | some text => ofHex text
  | none => .ok []

def preferences (n : NodeSettings) : Except Fault Preferences :=
  match ofHex n.payoutScript with
  | .error f => .error f
  | .ok [] => .error (.settings .emptyPayout)
  | .ok payout =>
    match n.extraScript with
    | .error f => .error f
    | .ok extra =>
      match n.voteBits.find? fun b => 32 ≤ b with
      | some bit => .error (.settings (.voteBit bit))
      | none => .ok ⟨payout, extra, n.voteBits⟩

end NodeSettings

structure Settings where
  /-- none or zero for one thread per core -/
  workerThreads : Option Nat
  edgeBits : UInt8
  proofSize : Nat
  /-- none for all nonces of a graph -/
  easiness : Option UInt32
  /-- seconds between reports -/
  reportInterval : UInt64
  node : NodeSettings
  deriving DecidableEq, Repr, Inhabited

namespace Settings

def standard (node : NodeSettings) : Settings :=
  ⟨none, UInt8.ofNat Params.standard.edgeBits, Params.standard.proofSize, none, 15, node⟩

/-- the threads that work on a job on a machine with so many cores -/
def threads (s : Settings) (cores : Nat) : Nat :=
  match s.workerThreads with
  | some 0 => cores
  | some n => n
  | none => cores

def params (s : Settings) : Except Fault Params :=
  (Params.make s.edgeBits.toNat s.proofSize).mapError fun f => .settings (.params f)

def searchRange (s : Settings) : Except Fault UInt32 :=
  match s.params with
  | .error f => .error f
  | .ok p =>
    (p.checkEasiness (s.easiness.getD p.defaultEasiness)).mapError fun f => .settings (.params f)

def checkUrl (s : Settings) : Except Fault Unit :=
  match Url.parse s.node.rpcUrl with
  | .error f => .error (.settings (.rpcUrl s.node.rpcUrl f))
  | .ok url =>
    if url.scheme = "http" ∨ url.scheme = "https" then .ok ()
    else .error (.settings (.scheme url.scheme))

def validate (s : Settings) : Except Fault Unit :=
  match s.checkUrl with
  | .error f => .error f
  | .ok () =>
    match s.searchRange with
    | .error f => .error f
    | .ok _ =>
      match s.node.preferences with
      | .error f => .error f
      | .ok _ => if s.reportInterval = 0 then .error (.settings .reportInterval) else .ok ()

end Settings

end CycleMiner
