import CycleMiner.Fault
import CycleMiner.Log

/-!
# What the poller reports
-/

namespace CycleMiner

/-- what the poller reports -/
inductive PollNotice where
  | begins
  | ends
  | longPollEnabled
  | tip (height : UInt64)
  | gaveUp (fault : Fault)
  /-- the source will be asked again after this many seconds -/
  | retries (fault : Fault) (seconds : Nat)

namespace PollNotice

def level : PollNotice → Level
  | begins | ends => .debug
  | longPollEnabled | tip _ => .info
  | retries .. => .warn
  | gaveUp _ => .error

def text : PollNotice → String
  | begins => "Starting poller"
  | ends => "Poller stopped"
  | longPollEnabled => "Long polling activated"
  | tip height => "Current block is " ++ toString height.toNat
  | gaveUp fault => "Poller stopping: " ++ fault.message
  | retries fault seconds => fault.message ++ "; retrying in " ++ toString seconds ++ "s"

def line (n : PollNotice) : String := n.level.line n.text

end PollNotice

end CycleMiner
