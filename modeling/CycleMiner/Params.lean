/-!
# The size of a graph and of the cycles wanted in it

A graph has two sides of `2 ^ edgeBits` nodes each, and a proof is a cycle of `proofSize` edges.
The bounds are part of the type: the nodes of both sides together fit a 32-bit word, and a cycle
between two sides has even length.

* `Params.make`            the two numbers, or which of them is out of its range;
* `Params.half`            nodes on one side;
* `Params.nodeCount`       nodes on both;
* `Params.checkEasiness`   refuses a search range that is empty or larger than `nodeCount`.
-/

namespace CycleMiner

inductive ParamsFault where
  | edgeBits (got : Nat)
  | proofSize (got : Nat)
  | easiness (limit got : UInt32)
  deriving DecidableEq, Repr, Inhabited

namespace ParamsFault

def message : ParamsFault → String
  | edgeBits got => "edge_bits must be between 1 and 30, got " ++ toString got
  | proofSize got => "proof_size must be even and at least 4, got " ++ toString got
  | easiness limit got =>
    "easiness must be in 1..=" ++ toString limit.toNat ++ ", got " ++ toString got.toNat

end ParamsFault

/-- the size of a graph and of the cycles wanted in it -/
structure Params where
  edgeBits : Nat
  proofSize : Nat
  one_le_edgeBits : 1 ≤ edgeBits
  edgeBits_le : edgeBits ≤ 30
  four_le_proofSize : 4 ≤ proofSize
  proofSize_even : proofSize % 2 = 0
  deriving DecidableEq, Repr

namespace Params

/-- the size used where none is given -/
def standard : Params := ⟨24, 42, by decide, by decide, by decide, by decide⟩

instance : Inhabited Params := ⟨standard⟩

/-- parameters from two numbers; the number of edge bits is looked at first -/
def make (edgeBits proofSize : Nat) : Except ParamsFault Params :=
  if he : 1 ≤ edgeBits ∧ edgeBits ≤ 30 then
    if hp : 4 ≤ proofSize ∧ proofSize % 2 = 0 then
      .ok ⟨edgeBits, proofSize, he.1, he.2, hp.1, hp.2⟩
    else .error (.proofSize proofSize)
  else .error (.edgeBits edgeBits)

def half (p : Params) : UInt32 := 1 <<< UInt32.ofNat p.edgeBits

/-- keeps the bits of a word that number a node on one side -/
def mask (p : Params) : UInt32 := p.half - 1

def nodeCount (p : Params) : UInt32 := 2 <<< UInt32.ofNat p.edgeBits

def defaultEasiness (p : Params) : UInt32 := p.nodeCount

/-- a search range of these parameters, or the fault that it is none -/
def checkEasiness (p : Params) (easiness : UInt32) : Except ParamsFault UInt32 :=
  if easiness = 0 ∨ p.nodeCount < easiness then .error (.easiness p.nodeCount easiness)
  else .ok easiness

end Params

end CycleMiner
