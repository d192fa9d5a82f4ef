import CycleMiner.Event

/-!
# The event bus

Whoever subscribes to the bus gets a mailbox of its own.  Publishing puts the event at the end of
every mailbox whose owner is still there; a mailbox that turns out to be abandoned is struck off.

* `Mailbox`            what has arrived, whether the owner is there, whether the bus still lists it;
* `Bus.subscribe`      a new empty mailbox;
* `Bus.publish`        one event to all;
* `Bus.drop`           an owner goes away;
* `Bus.take`           the owner takes the oldest event out;
* `Bus.listeners`      how many mailboxes are listed;
* `BusAct`, `Bus.act`  what can be done with a bus, and the bus after it.

An abandoned mailbox stays listed until the next event is published.
-/

namespace CycleMiner

structure Mailbox where
  /-- what has arrived and was not taken out, the oldest first -/
  queue : List Event
  alive : Bool
  listed : Bool

/-- a bus: its mailboxes in the order of subscription -/
structure Bus where
  boxes : List Mailbox

inductive BusAct where
  | subscribe
  | publish (e : Event)
  | drop (box : Nat)
  | take (box : Nat)
  deriving DecidableEq

namespace Mailbox

def deliver (b : Mailbox) (e : Event) : Mailbox :=
  if b.listed then
    if b.alive then { b with queue := b.queue ++ [e] } else { b with listed := false }
  else b

end Mailbox

namespace Bus

def empty : Bus := ⟨[]⟩

/-- the bus with one more mailbox; its number is how many there were -/
def subscribe (b : Bus) : Bus := ⟨b.boxes ++ [⟨[], true, true⟩]⟩

def listeners (b : Bus) : Nat := (b.boxes.filter (·.listed)).length

def publish (b : Bus) (e : Event) : Bus := ⟨b.boxes.map (·.deliver e)⟩

/-- how many mailboxes an event has reached, by the bus after it -/
def reached (b : Bus) (e : Event) : Nat := (b.publish e).listeners

/-- the bus after the owner of a mailbox has gone away -/
def drop (b : Bus) (i : Nat) : Bus :=
  ⟨b.boxes.modify i fun m => { m with queue := [], alive := false }⟩

/-- what waits in a mailbox, if its owner is still there -/
def waiting? (b : Bus) (i : Nat) : Option (List Event) :=
  match b.boxes[i]? with
  | some m => if m.alive then some m.queue else none
  | none => none

def take (b : Bus) (i : Nat) : Bus := ⟨b.boxes.modify i fun m => { m with queue := m.queue.tail }⟩

def act (b : Bus) : BusAct → Bus
  | .subscribe => b.subscribe
  | .publish e => b.publish e
  | .drop i => b.drop i
  | .take i => b.take i

def acts (b : Bus) (as : List BusAct) : Bus := as.foldl act b

@[simp] theorem length_publish (b : Bus) (e : Event) :
    (b.publish e).boxes.length = b.boxes.length := by
  simp [publish]

end Bus

end CycleMiner
