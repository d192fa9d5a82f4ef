import CycleMiner.Block.Coinbase
import CycleMiner.Block.Header
import CycleMiner.Block.Merkle

/-!
# Work, and the blocks it leads to

Work is a template made ready for mining: its target, its coinbase and its header prefix.  A cycle
found in the graph of one of its headers makes a candidate, and a candidate is written out as a
block.

* `Work.ofTemplate`     the work of a template, or the first thing wrong with it;
* `Work.header`         the header with a nonce, which keys a graph;
* `Work.isMetBy`        whether a solution is good enough;
* `Candidate.bytes`     header, nonces of the cycle, transaction count, coinbase, transactions.

The bytes of the template's transactions are only read when a block is written.
-/

namespace CycleMiner

/-- the nonces of a cycle, ascending -/
abbrev Solution := List UInt32

namespace Solution

/-- the nonces as bytes, four each, least significant first -/
def bytes (s : Solution) : Bytes := s.flatMap Bytes.ofUInt32

/-- the hash of a solution, most significant byte first -/
def hash (s : Solution) : Digest := (doubleSha256 s.bytes).reverse

def text (s : Solution) : String :=
  "[" ++ String.intercalate " " (s.map fun n => String.ofList (Nat.toDigits 16 n.toNat)) ++ "]"

theorem length_bytes (s : Solution) : s.bytes.length = 4 * s.length := by
  induction s with
  | nil => rfl
  | cons n rest ih =>
    simp only [bytes] at ih
    simp only [bytes, List.flatMap_cons, List.length_append, Bytes.length_ofUInt32,
      List.length_cons, ih]
    omega

end Solution

/-- a template made ready for mining -/
structure Work where
  template : Template
  target : Target
  coinbase : Coinbase
  headerPrefix : HeaderPrefix
  deriving DecidableEq

namespace Work

def height (w : Work) : UInt64 := w.template.height

/-- the ids of a template's transactions, in the order in which they are hashed -/
def txidsOf : List TemplateTransaction → Except InputFault (List Digest)
  | [] => .ok []
  | t :: rest =>
    match InputFault.ofShownHash t.hash with
    | .error f => .error f
    | .ok d =>
      match txidsOf rest with
      | .error f => .error f
      | .ok ds => .ok (d :: ds)

def targetOf (t : Template) : Except InputFault Target :=
  match InputFault.ofBits t.bits with
  | .error f => .error f
  | .ok bits => (Target.ofCompact bits).mapError .compact

/-- the work of a template; the target is read first, then the coinbase, the transactions' hashes
and the header -/
def ofTemplate (t : Template) (prefs : Preferences) : Except InputFault Work :=
  match targetOf t with
  | .error f => .error f
  | .ok target =>
    match Coinbase.ofTemplate t prefs with
    | .error f => .error f
    | .ok coinbase =>
      match txidsOf t.transactions with
      | .error f => .error f
      | .ok txids =>
        match HeaderPrefix.ofTemplate t (Merkle.root (coinbase.txid :: txids)) prefs.voteBits with
        | .error f => .error f
        | .ok headerPrefix => .ok ⟨t, target, coinbase, headerPrefix⟩

def withTarget (w : Work) (target : Target) : Work := { w with target := target }

def header (w : Work) (nonce : UInt32) : Bytes := w.headerPrefix.header nonce

def isMetBy (w : Work) (s : Solution) : Bool := w.target.isMetBy s.hash

end Work

/-- a found cycle with the work and the header nonce it belongs to -/
structure Candidate where
  work : Work
  headerNonce : UInt32
  solution : Solution
  deriving DecidableEq

namespace Candidate

def transactionBytes : List TemplateTransaction → Except InputFault Bytes
  | [] => .ok []
  | t :: rest =>
    match InputFault.ofHex t.data with
    | .error f => .error f
    | .ok bs =>
      match transactionBytes rest with
      | .error f => .error f
      | .ok more => .ok (bs ++ more)

def bytes (c : Candidate) : Except InputFault Bytes :=
  let txs := c.work.template.transactions
  (transactionBytes txs).map fun body =>
    c.work.header c.headerNonce ++ c.solution.bytes ++ CompactSize.encode (1 + txs.length) ++
      c.work.coinbase.bytes ++ body

def hex (c : Candidate) : Except InputFault String := c.bytes.map Hex.encode

end Candidate

end CycleMiner
