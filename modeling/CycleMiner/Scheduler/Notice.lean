import CycleMiner.Event
import CycleMiner.Log

/-!
# What the scheduler reports
-/

namespace CycleMiner

/-- what the scheduler reports -/
inductive ScheduleNotice where
  | begins (threads : UInt64) (params : Params) (easiness : UInt32)
  | jobStarts (threads : UInt64) (height : UInt64) (headerNonce : UInt32) (target : Target)
  | solved (height : UInt64)
  | ends
  | newWork (height : UInt64) (target : Target)
  | submits (height : UInt64) (solution : Solution)
  | failed (fault : Fault)
  | accepted (accepted attempted : UInt64)
  | rejected (attempted : UInt64)
  | connectionFailed
  | communicationFailed
  | longPollUnavailable
  | longPollEnabled
  | tipMoved
  | credentialsRejected
  | permissionRefused
  | systemFailed
  | terminated

namespace ScheduleNotice

def level : ScheduleNotice → Level
  | jobStarts .. | tipMoved => .debug
  | begins .. | solved _ | ends | newWork .. | submits .. | accepted .. | longPollEnabled |
    terminated => .info
  | rejected _ | connectionFailed | communicationFailed | longPollUnavailable => .warn
  | failed _ | credentialsRejected | permissionRefused | systemFailed => .error

def text : ScheduleNotice → String
  | begins threads params easiness =>
    "Using " ++ toString threads.toNat ++ " threads, edge bits " ++ toString params.edgeBits ++
      ", proof size " ++ toString params.proofSize ++ ", easiness " ++ toString easiness.toNat
  | jobStarts threads height headerNonce target =>
    "Starting " ++ toString threads.toNat ++ " solvers at height " ++ toString height.toNat ++
      ", header nonce " ++ toString headerNonce.toNat ++ ", target " ++ target.hex
  | solved height => "Height " ++ toString height.toNat ++ " solved, waiting for new work"
  | ends => "Scheduler stopped"
  | newWork height target =>
    "New work at height " ++ toString height.toNat ++ ", target " ++ target.hex
  | submits height solution =>
    "Submitting block at height " ++ toString height.toNat ++ " with cycle " ++ solution.text
  | failed fault => fault.message
  | accepted n attempted =>
    "Accepted block " ++ toString n.toNat ++ " of " ++ toString attempted.toNat
  | rejected attempted => "Rejected block attempt " ++ toString attempted.toNat
  | connectionFailed => "Connection error, retrying"
  | communicationFailed => "Communication error"
  | longPollUnavailable => "Long polling failed"
  | longPollEnabled => "Long polling activated"
  | tipMoved => "Long poll detected new block"
  | credentialsRejected => "Invalid RPC username or password"
  | permissionRefused => "Permission error"
  | systemFailed => "System error"
  | terminated => "Work source terminated, exiting"

def line (n : ScheduleNotice) : String := n.level.line n.text

end ScheduleNotice

end CycleMiner
