import CycleMiner.InputFault
import CycleMiner.Json.Decoding
import CycleMiner.Settings.Fault
import CycleMiner.Table

/-!
# Faults

Everything that can go wrong while work is fetched, graphs are searched and blocks are handed in,
with one text for each.  What a fault means for the miner is not decided here: the poller takes some
for passing and some for final (`Event.ofFault`).
-/

namespace CycleMiner

inductive ProtocolFault where
  /-- the reply to a method, under this status, is no JSON -/
  | unreadable (method status : String)
  | missingResult
  /-- the result is no template -/
  | template (fault : DecodeFault)
  | other (text : String)
  deriving DecidableEq, Repr, Inhabited

namespace ProtocolFault

/-- the text shown for a fault; what made a reply unreadable is left out -/
def message : ProtocolFault → String
  | unreadable method status => "Unreadable " ++ method ++ " response (HTTP " ++ status ++ ")"
  | missingResult => "Missing result member"
  | template f => "Bad block template: " ++ f.message
  | other text => text

end ProtocolFault

inductive Fault where
  /-- an anomaly of the table -/
  | path (fault : PathFault)
  /-- the node cannot be reached -/
  | connection (text : String)
  /-- the node refuses the credentials -/
  | authentication (text : String)
  /-- the node refuses the request -/
  | permission (text : String)
  /-- the node reports an error of its own -/
  | rpc (code : Int) (text : String)
  /-- the node's reply cannot be used -/
  | protocol (fault : ProtocolFault)
  /-- an operation of the operating system failed -/
  | io (text : String)
  /-- a text is no JSON -/
  | json (text : String)
  | url (fault : UrlFault)
  /-- a request failed on its way; `late` if for want of a connection or of time -/
  | http (late : Bool) (text : String)
  | settings (fault : SettingsFault)
  /-- another part of the miner is gone -/
  | channel (text : String)
  /-- the contents of a template or a script are malformed -/
  | input (fault : InputFault)
  /-- a task was given up -/
  | task (text : String)
  deriving DecidableEq, Repr, Inhabited

namespace Fault

/-- the word for the kind of a fault, as a program that fails shows it -/
def kind : Fault → String
  | path _ => "Cycle"
  | connection _ => "ConnectionError"
  | authentication _ => "AuthenticationError"
  | permission _ => "PermissionError"
  | rpc _ _ => "RpcError"
  | protocol _ => "ProtocolError"
  | io _ => "IoError"
  | json _ => "JsonError"
  | url _ => "UrlError"
  | http _ _ => "HttpError"
  | settings _ => "ConfigError"
  | channel _ => "ChannelError"
  | input _ => "InputError"
  | task _ => "TaskError"

/-- what stands inside the text of a fault, after its kind -/
def detail : Fault → String
  | path f => f.message
  | connection t | authentication t | permission t => t
  | io t | json t | http _ t | channel t | task t => t
  | rpc _ t => t
  | protocol f => f.message
  | url f => f.message
  | settings f => f.message
  | input f => f.message

def message (f : Fault) : String :=
  match f with
  | path _ => "Graph anomaly: " ++ f.detail
  | connection _ => "Network connection error: " ++ f.detail
  | authentication _ => "Authentication failed: " ++ f.detail
  | permission _ => "Permission denied: " ++ f.detail
  | rpc code _ => "RPC error " ++ toString code ++ ": " ++ f.detail
  | protocol _ => "Protocol violation: " ++ f.detail
  | io _ => "I/O error: " ++ f.detail
  | json _ => "JSON error: " ++ f.detail
  | url _ => "URL parse error: " ++ f.detail
  | http _ _ => "HTTP error: " ++ f.detail
  | settings _ => "Configuration error: " ++ f.detail
  | channel _ => "Thread communication error: " ++ f.detail
  | input _ => "Invalid input: " ++ f.detail
  | task _ => "Task execution error: " ++ f.detail

end Fault

end CycleMiner
