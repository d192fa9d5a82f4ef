import CycleMiner.Params
import CycleMiner.Url.Fault

/-!
# What can be wrong with the settings
-/

namespace CycleMiner

/-- why settings are refused -/
inductive SettingsFault where
  /-- a size of the graph or of the search that is out of its range -/
  | params (fault : ParamsFault)
  | threads (got : Nat)
  /-- the file could not be read -/
  | unreadable (path reason : String)
  /-- the text is no table of settings -/
  | format
  | rpcUrl (url : String) (fault : UrlFault)
  | scheme (got : String)
  | emptyPayout
  | voteBit (bit : UInt8)
  | reportInterval
  /-- whatever else was refused -/
  | other (text : String)
  deriving DecidableEq, Repr, Inhabited

namespace SettingsFault

def message : SettingsFault → String
  | params f => f.message
  | threads got => "Invalid number of threads: " ++ toString got
  | unreadable path reason => "Failed to read config at " ++ path ++ ": " ++ reason
  | format => "Invalid config format"
  | rpcUrl url f => "Invalid rpc_url '" ++ url ++ "': " ++ f.message
  | scheme got => "rpc_url must use http or https, got '" ++ got ++ "'"
  | emptyPayout => "payout_script is empty"
  | voteBit b => "vote bit " ++ toString b.toNat ++ " does not fit a 32-bit version"
  | reportInterval => "report_interval_secs must be positive"
  | other text => text

end SettingsFault

end CycleMiner
