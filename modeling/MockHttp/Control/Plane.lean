import MockHttp.Controller
import MockHttp.Wire.Reader

/-! # The control plane

Three paths take commands by POST. A request that is no command is refused and has no effect.
Every answer apart from the one to an unknown path is a status in JSON.
-/

namespace MockHttp.Control

structure Inquiry where
  method : String
  path : String
  /-- `none` if the body fails to arrive. -/
  body : Option Bytes

inductive Command where
  | register (r : Registration)
  | resetPort (port : Port)
  | resetAll

inductive Refusal where
  | unknownPath
  | wrongMethod
  | unreadableBody
  | invalidBody (e : Json.Error)
deriving DecidableEq, Repr

inductive Endpoint where
  | registerRoute
  | resetPort
  | resetAll
deriving DecidableEq, Repr

namespace Endpoint

def path : Endpoint → String
  | registerRoute => "/registerRoute"
  | resetPort => "/resetPort"
  | resetAll => "/resetAll"

def all : List Endpoint := [registerRoute, resetPort, resetAll]

def ofPath? (s : String) : Option Endpoint := all.find? (·.path == s)

theorem ofPath?_path (endpoint : Endpoint) : ofPath? endpoint.path = some endpoint := by
  cases endpoint <;> decide

theorem ofPath?_eq_some_iff {s : String} {endpoint : Endpoint} :
    ofPath? s = some endpoint ↔ s = endpoint.path := by
  constructor
  · intro h
    have hpath := List.find?_some h
    exact (beq_iff_eq.mp hpath).symm
  · rintro rfl
    exact ofPath?_path endpoint

end Endpoint

def message {α : Type} (read : (depth : Nat) → Json.Input → Except Json.Error (α × Json.Input))
    (body : Option Bytes) : Except Refusal α :=
  match body with
  | none => .error .unreadableBody
  | some bytes =>
    match Wire.parse read (Utf8.scan bytes) with
    | .ok v => .ok v
    | .error e => .error (.invalidBody e)

/-- The body is looked at only where a message is wanted. -/
def Inquiry.command? (q : Inquiry) : Except Refusal Command :=
  match Endpoint.ofPath? q.path with
  | none => .error .unknownPath
  | some endpoint =>
    if q.method = "POST" then
      match endpoint with
      | .registerRoute => (message Wire.readRegistration q.body).map .register
      | .resetPort => (message Wire.readPortReset q.body).map fun r => .resetPort r.port
      | .resetAll => .ok .resetAll
    else .error .wrongMethod

/-! ## Answers -/

def jsonType : Bytes := Text.bytes "application/json"

def statusResponse (code : Nat) (s : Status) : Response where
  status := code
  headers := Dict.ofList [(.contentType, jsonType)]
  body := Utf8.encode s.print

def Refusal.response (place : String) : Refusal → Response
  | unknownPath => .notFound
  | wrongMethod => statusResponse 405 (.error "Method not allowed")
  | unreadableBody => statusResponse 400 (.error "Cannot read request body")
  | invalidBody e => statusResponse 400 (.error ("Invalid request body: " ++ e.message ++ place))

def registerResponse (bindError : String) : Except RegisterError Unit → Response
  | .ok () => statusResponse 200 (.ok "Route registered")
  | .error e =>
    match e with
    | .invalidPort => statusResponse 400 (.error (e.message bindError))
    | .addressInUse _ => statusResponse 500 (.error (e.message bindError))

def perform (c : Controller) (w : Surroundings) : Command → Controller × Response
  | .register r =>
    let (c, result) := c.register w r
    (c, registerResponse w.bindError result)
  | .resetPort port =>
    (c.resetPort w port,
      statusResponse 200 (.ok ("Port " ++ Digits.text port.toNat ++ " reset")))
  | .resetAll =>
    let (c, ports) := c.resetAll
    (c, statusResponse 200 (.ok ("Reset " ++ Digits.text ports.length ++ " port(s)")))

/-- Every request is recorded with the status of its answer. -/
def handle (c : Controller) (w : Surroundings) (q : Inquiry) : Controller × Response :=
  let (c, response) := match q.command? with
    | .ok command => perform c w command
    | .error refusal => (c, refusal.response (w.place (q.body.getD [])))
  (c.record (.controlRequest q.method q.path response.status), response)

end MockHttp.Control
