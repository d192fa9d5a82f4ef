import CycleMiner.Decimal.Fixed

/-!
# Counters and interval reports

What a miner counts: edges put into tables, cycles closed, proof-size cycles rebuilt, anomalies and
refused cycles, blocks handed in, and blocks accepted.  All counts are words of 64 bits and wrap.

* `Counters`            the counts, with one function for each thing that happens;
* `IntervalReport`      how much the counts grew between two looks at them, and the rate of cycles.

A count that seems to have shrunk grew by nothing.
-/

namespace CycleMiner

structure Counters where
  edges : UInt64
  cycles : UInt64
  solutions : UInt64
  errors : UInt64
  attempted : UInt64
  accepted : UInt64
  deriving DecidableEq, Repr, Inhabited

namespace Counters

def zero : Counters := ⟨0, 0, 0, 0, 0, 0⟩

def addEdges (c : Counters) (n : UInt64) : Counters := { c with edges := c.edges + n }

def addCycle (c : Counters) : Counters := { c with cycles := c.cycles + 1 }

/-- a cycle of proof size was rebuilt -/
def addSolution (c : Counters) : Counters := { c with solutions := c.solutions + 1 }

/-- an anomaly was met, or a rebuilt cycle refused -/
def addError (c : Counters) : Counters := { c with errors := c.errors + 1 }

def addAccepted (c : Counters) : Counters :=
  { c with accepted := c.accepted + 1, attempted := c.attempted + 1 }

def addRejected (c : Counters) : Counters := { c with attempted := c.attempted + 1 }

end Counters

/-- how much a count grew -/
def growth (previous current : UInt64) : UInt64 :=
  if previous ≤ current then current - previous else 0

structure Span where
  seconds : Nat
  nanoseconds : Nat
  deriving DecidableEq, Repr, Inhabited

def Span.milliseconds (s : Span) : Nat := s.seconds * 1000 + s.nanoseconds / 1000000

structure IntervalReport where
  edges : UInt64
  cycles : UInt64
  solutions : UInt64
  errors : UInt64
  /-- thousands of cycles a second -/
  rate : Float

namespace IntervalReport

/-- the report between two looks at the counts; an interval below a millisecond is taken for one -/
def between (previous current : Counters) (span : Span) : IntervalReport :=
  let cycles := growth previous.cycles current.cycles
  { edges := growth previous.edges current.edges
    cycles := cycles
    solutions := growth previous.solutions current.solutions
    errors := growth previous.errors current.errors
    rate := cycles.toFloat / Float.ofNat (max span.milliseconds 1) }

/-- the rate with two places -/
def rateText (r : IntervalReport) : String := Decimal.fixedText 2 r.rate

end IntervalReport

end CycleMiner
