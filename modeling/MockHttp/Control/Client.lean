import MockHttp.Control.Plane
import MockHttp.Http.Outgoing

/-! # The client of a control plane

A client turns commands into requests and answers into outcomes. Any status but 200 is a
rejection.
-/

namespace MockHttp.Control

structure Client where
  /-- Without slashes at its end. -/
  url : String

inductive ClientError where
  | invalidUrl
  | cannotConnect
  | cannotBuild
  | rejected (status : Nat) (body : String)
deriving DecidableEq, Repr

def ClientError.message : ClientError → String
  | invalidUrl => "Invalid control plane url"
  | cannotConnect => "Failed to connect to control plane"
  | cannotBuild => "Failed to serialize command"
  | rejected status body =>
    "Control plane rejected the request with status " ++ Digits.text status ++ ": " ++ body

/-- The endpoint of a command and the text of its message. -/
def Command.target : Command → Endpoint × Option (List Char)
  | register r => (.registerRoute, some r.print)
  | resetPort port => (.resetPort, some (PortReset.print ⟨port⟩))
  | resetAll => (.resetAll, none)

namespace Client

def ofUrl (url : String) : Client :=
  ⟨String.ofList (url.toList.reverse.dropWhile (· == '/')).reverse⟩

def request (client : Client) (command : Command) : Except ClientError (String × Outgoing) :=
  match Uri.dialled? client.url with
  | none => .error .invalidUrl
  | some (address, authority) =>
    let (endpoint, json) := command.target
    match Outgoing.post authority endpoint.path json with
    | .ok out => .ok (address, out)
    | .error _ => .error .cannotBuild

/-- What an answer means; `none` if there is none. -/
def outcome : Option Response → Except ClientError Unit
  | none => .error .cannotConnect
  | some response =>
    if response.status = 200 then .ok ()
    else .error (.rejected response.status (Text.ofBytesLossy response.body))

end Client

/-- A request as the control plane sees it, if it arrives unchanged. -/
def Inquiry.ofOutgoing (out : Outgoing) : Inquiry :=
  ⟨out.method, String.ofList out.target.path, some out.body⟩

/-- A command sent to the control plane of a controller over a faithful connection. -/
def Client.send (client : Client) (c : Controller) (w : Surroundings) (command : Command) :
    Controller × Except ClientError Unit :=
  match client.request command with
  | .error e => (c, .error e)
  | .ok (_, out) =>
    let (c, response) := handle c w (.ofOutgoing out)
    (c, outcome (some response))

end MockHttp.Control
