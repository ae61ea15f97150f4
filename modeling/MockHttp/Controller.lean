import MockHttp.Event
import MockHttp.Execution.Step

/-! # The controller

A controller owns a registry and records what is done to it. Whether a port is free for a
listener and whether a reset has to cut requests off is decided by the surroundings.
-/

namespace MockHttp

structure Controller where
  registry : Registry := {}
  events : List Event := []

/-- What the world outside decides while an operation runs, and what it says of a port that cannot
be bound and of the place of an error in a body. -/
structure Surroundings where
  isFree : Port → Bool
  cutsOff : Bool := false
  bindError : String := addressInUseText
  place : Bytes → String := fun _ => ""

structure Served where
  response : Response
  delay : Nat
  event : Event

/-- A request is answered by the script of its route, or not found. -/
def Registry.serve (reg : Registry) (port : Port) (r : Request) (chance : Chance) : Served :=
  let route : Route := ⟨port, r.method, r.path⟩
  match reg.lookup route with
  | none => ⟨.notFound, 0, .mockRequest route 404 none⟩
  | some script =>
    let rendered := script.execute r chance
    ⟨rendered.response, rendered.delay,
      .mockRequest route rendered.status (some rendered.vars)⟩

namespace Controller

def record (c : Controller) (event : Event) : Controller :=
  { c with events := c.events ++ [event] }

def register (c : Controller) (w : Surroundings) (r : Registration) :
    Controller × Except RegisterError Unit :=
  match c.registry.register (w.isFree r.port) r with
  | .ok registry =>
    let started := if c.registry.isRunning r.port then [] else [Event.listenerStarted r.port]
    ({ registry, events := c.events ++ started ++ [.registered r.route r.entries.length] }, .ok ())
  | .error e => (c.record (.registrationFailed r.route (e.message w.bindError)), .error e)

/-- A port without a listener has nothing to reset. -/
def resetPort (c : Controller) (w : Surroundings) (port : Port) : Controller :=
  let event :=
    if c.registry.isRunning port then
      if w.cutsOff then Event.portResetForced port else .portReset port true
    else .portReset port false
  ({ c with registry := c.registry.clearPort port }).record event

def resetAll (c : Controller) : Controller × List Port :=
  (({ c with registry := c.registry.clear }).record (.allReset c.registry.ports),
    c.registry.ports)

def serve (c : Controller) (port : Port) (r : Request) (chance : Chance) :
    Controller × Response :=
  let served := c.registry.serve port r chance
  (c.record served.event, served.response)

end Controller

end MockHttp
