import MockHttp.Registry
import MockHttp.Template

/-! # Events

What happens to the registry and what requests come in is recorded. Each event has a kind and
details. A server that starts tells its address as well.
-/

namespace MockHttp

inductive Event where
  | controlStarted
  | listenerStarted (port : Port)
  | registered (route : Route) (instructions : Nat)
  | registrationFailed (route : Route) (error : String)
  | portReset (port : Port) (wasRunning : Bool)
  | portResetForced (port : Port)
  | allReset (ports : List Port)
  | mockRequest (route : Route) (status : Nat) (vars : Option Variables)
  | controlRequest (method path : String) (status : Nat)

namespace Event

def kind : Event → String
  | controlStarted => "ControlServerStart"
  | listenerStarted _ => "MockServerStart"
  | registered .. => "RegisterRoute"
  | registrationFailed .. => "RegisterRouteError"
  | portReset .. => "ResetPort"
  | portResetForced _ => "ResetPortError"
  | allReset _ => "ResetAll"
  | mockRequest .. => "MockRequest"
  | controlRequest .. => "ControlRequest"

def portDetail (port : Port) : String × Json := ("port", .nat port.toNat)

def routeDetails (route : Route) : List (String × Json) :=
  [portDetail route.port, ("method", .string route.method), ("path", .string route.path)]

def members : Event → List (String × Json)
  | controlStarted => []
  | listenerStarted port => [portDetail port]
  | registered route instructions => routeDetails route ++ [("instructions", .nat instructions)]
  | registrationFailed route error => routeDetails route ++ [("error", .string error)]
  | portReset port wasRunning => [portDetail port, ("running", .bool wasRunning)]
  | portResetForced port => [portDetail port, ("error", .string "grace period elapsed")]
  | allReset ports => [("ports_reset", .array (ports.map fun port => .nat port.toNat))]
  | mockRequest route status vars =>
    routeDetails route ++ ("status", .nat status) ::
      match vars with
      | some vars => [("variables", .ofDict vars)]
      | none => []
  | controlRequest method path status =>
    [("method", .string method), ("path", .string path), ("status", .nat status)]

/-- The details of every event but the address of a server, which differs from run to run. -/
def details (e : Event) : Json := .ofMembers e.members

/-- Where the server that starts is listening, given the address of the control plane and the host
of the mock listeners. -/
def address? (controlAddress mockHost : String) : Event → Option String
  | controlStarted => some controlAddress
  | listenerStarted port => some (Listener.address mockHost port)
  | _ => none

def report (controlAddress mockHost : String) (e : Event) : Json :=
  .ofMembers (e.members ++
    (e.address? controlAddress mockHost).toList.map fun a => ("address", .string a))

end Event

/-! ## Replay -/

/-- What the events tell of the registry: the ports with a listener and the routes. -/
structure Replay where
  ports : List Port := []
  routes : List Route := []

namespace Replay

def step (r : Replay) : Event → Replay
  | .listenerStarted port => { r with ports := port :: r.ports }
  | .registered route _ => { r with routes := route :: r.routes }
  | .portReset port true | .portResetForced port =>
    { ports := r.ports.filter (· ≠ port), routes := r.routes.filter (·.port ≠ port) }
  | .allReset ports => { ports := r.ports.filter (· ∉ ports), routes := [] }
  | _ => r

def ofEvents (events : List Event) : Replay := events.foldl step {}

end Replay

end MockHttp
