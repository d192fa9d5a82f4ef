import CycleMiner.Event.Bus

/-!
# Buses and their handles

A bus is used through handles.  A clone of a handle stands for the same bus, so those who subscribe
through one of them get what is published through any of them.

* `Exchange`          some buses, and the bus that each handle stands for;
* `ExchangeAct`       what can be done;
* `Exchange.target?`  the bus it is done with;
* `Exchange.run`      the exchange after acts, one after the other.

An act with a handle or a mailbox that does not exist changes nothing.
-/

namespace CycleMiner

/-- some buses and their handles -/
structure Exchange where
  buses : List Bus
  /-- the bus that each handle stands for -/
  handles : List Nat

inductive ExchangeAct where
  /-- a new bus with a handle -/
  | make
  /-- one more handle for the bus of this one -/
  | clone (handle : Nat)
  | subscribe (handle : Nat)
  | publish (handle : Nat) (e : Event)
  /-- the owner of a mailbox of a bus goes away -/
  | drop (bus box : Nat)
  /-- the owner of a mailbox of a bus takes the oldest event out -/
  | take (bus box : Nat)
  deriving DecidableEq

namespace Exchange

/-- one bus with one handle -/
def start : Exchange := ⟨[Bus.empty], [0]⟩

def bus (x : Exchange) (b : Nat) : Bus := x.buses.getD b Bus.empty

def target? (x : Exchange) : ExchangeAct → Option (Nat × BusAct)
  | .make | .clone _ => none
  | .subscribe h => x.handles[h]?.map (·, .subscribe)
  | .publish h e => x.handles[h]?.map (·, .publish e)
  | .drop b i => some (b, .drop i)
  | .take b i => some (b, .take i)

def step (x : Exchange) (a : ExchangeAct) : Exchange :=
  match x.target? a with
  | some (b, act) => { x with buses := x.buses.modify b (·.act act) }
  | none =>
    match a with
    | .make => ⟨x.buses ++ [Bus.empty], x.handles ++ [x.buses.length]⟩
    | .clone h => { x with handles := x.handles ++ x.handles[h]?.toList }
    | .subscribe _ | .publish _ _ | .drop _ _ | .take _ _ => x

def run (x : Exchange) (acts : List ExchangeAct) : Exchange := acts.foldl step x

end Exchange

end CycleMiner
