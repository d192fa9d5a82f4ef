import CycleMiner.Fault
import CycleMiner.Json.Parser
import CycleMiner.Json.Printer
import CycleMiner.Node.Status
import CycleMiner.Template.Reader
import CycleMiner.Text.Base64

/-!
# Talking to a node

A client asks a node for templates and hands blocks in.  A request carries the credentials, a
running number, a method and its parameters; what comes back is a status and a text, or nothing.

* `Credentials`, `Timeouts`   what a client is set up with;
* `Request`                   a request, and how many seconds its reply may take;
* `Delivery`                  what becomes of a request;
* `Client`                    the setup and the number of the next request;
* `Client.askTemplate`, `Client.handIn`   the two requests;
* `resultOf`                  the result in a delivery, or the fault;
* `templateOf`, `verdictOf`   what the two methods make of it.

Two statuses count by themselves: 401 and 403.  Under any other status the text counts: it has to
be JSON, an error that is not `null` counts before a result, and there has to be a result.
-/

namespace CycleMiner

structure Credentials where
  user : String
  password : String
  deriving DecidableEq, Repr, Inhabited

namespace Credentials

def authorization (c : Credentials) : String :=
  "Basic " ++ Text.base64 (Bytes.ofText (c.user ++ ":" ++ c.password))

end Credentials

/-- how many seconds replies may take -/
structure Timeouts where
  request : UInt64
  longPoll : UInt64
  deriving DecidableEq, Repr, Inhabited

structure Request where
  authorization : String
  /-- the number of the request -/
  id : UInt64
  method : String
  /-- the only parameter -/
  parameter : Json
  /-- how many seconds the reply may take -/
  timeout : UInt64
  deriving Inhabited

namespace Request

def body (r : Request) : Json :=
  .object
    [("jsonrpc", .string "1.0"), ("id", .nat r.id.toNat), ("method", .string r.method),
     ("params", .array [r.parameter])]

end Request

inductive Delivery where
  /-- a reply, and its text if all of it could be received and it is a text at all -/
  | reply (status : Nat) (text : Option String)
  /-- no connection, or no reply in time -/
  | unreachable (text : String)
  /-- a connection, but no reply that could be received -/
  | broken (text : String)
  deriving DecidableEq, Repr, Inhabited

structure Client where
  credentials : Credentials
  timeouts : Timeouts
  nextId : UInt64
  deriving DecidableEq, Repr, Inhabited

namespace Client

def make (credentials : Credentials) (timeouts : Timeouts) : Client := ⟨credentials, timeouts, 1⟩

/-- the client after a request; the number is used up whatever becomes of it -/
def advance (c : Client) : Client := { c with nextId := c.nextId + 1 }

/-- the request for a template; with a long-poll id the node may hold it back -/
def askTemplate (c : Client) (longPollId : Option String) : Request :=
  let capabilities : Json :=
    .array [.string "coinbasetxn", .string "workid", .string "longpoll"]
  match longPollId with
  | some id =>
    ⟨c.credentials.authorization, c.nextId, "getblocktemplate",
      .object [("capabilities", capabilities), ("longpollid", .string id)], c.timeouts.longPoll⟩
  | none =>
    ⟨c.credentials.authorization, c.nextId, "getblocktemplate",
      .object [("capabilities", capabilities)], c.timeouts.request⟩

def handIn (c : Client) (block : String) : Request :=
  ⟨c.credentials.authorization, c.nextId, "submitblock", .string block, c.timeouts.request⟩

end Client

def nodeError (error : Json) : Fault :=
  let code : Int := match error.member? "code" with
    | some (.int n) => if n ≤ Int64.maxValue.toInt then n else 0
    | _ => 0
  let text := match error.member? "message" with
    | some (.string s) => s
    | _ => error.text
  .rpc code text

/-- the result in a reply that could be read -/
def resultIn (reply : Json) : Except Fault Json :=
  let error := (reply.member? "error").getD .null
  if error.isNull then
    match reply.member? "result" with
    | some result => .ok result
    | none => .error (.protocol .missingResult)
  else .error (nodeError error)

def resultOf (method : String) : Delivery → Except Fault Json
  | .unreachable text => .error (.connection text)
  | .broken text => .error (.http false text)
  | .reply status text =>
    if status = 401 then .error (.authentication "RPC credentials rejected")
    else if status = 403 then .error (.permission "RPC access forbidden")
    else
      match text.bind Json.parse? with
      | none => .error (.protocol (.unreadable method (Status.text status)))
      | some reply => resultIn reply

def templateOf (d : Delivery) : Except Fault Template :=
  match resultOf "getblocktemplate" d with
  | .error f => .error f
  | .ok result => (Template.ofJson result).mapError fun f => .protocol (.template f)

inductive Verdict where
  | accepted
  | rejected (reason : String)
  deriving DecidableEq, Repr, Inhabited

def verdictOf (d : Delivery) : Except Fault Verdict :=
  match resultOf "submitblock" d with
  | .error f => .error f
  | .ok .null => .ok .accepted
  | .ok (.string reason) => .ok (.rejected reason)
  | .ok other => .ok (.rejected other.text)

end CycleMiner
