import MockHttp.Control.Client

/-! # Operations on a controller

Everything that is done to a controller is an operation. Operations that are carried out one
after the other make up a history, and each meets surroundings of its own.
-/

namespace MockHttp.Control

inductive Operation where
  | register (r : Registration)
  | resetPort (port : Port)
  | resetAll
  | inquiry (q : Inquiry)
  | command (client : Client) (command : Command)
  | request (port : Port) (r : Request) (chance : Chance)

/-- The controller behind the operation. A mock request needs a listener. -/
def Operation.perform (c : Controller) (w : Surroundings) : Operation → Controller
  | register r => (c.register w r).1
  | resetPort port => c.resetPort w port
  | resetAll => c.resetAll.1
  | inquiry q => (handle c w q).1
  | command client cmd => (client.send c w cmd).1
  | request port r chance =>
    if c.registry.isRunning port then (c.serve port r chance).1 else c

abbrev History := List (Surroundings × Operation)

def History.perform (c : Controller) (h : History) : Controller :=
  h.foldl (fun c s => s.2.perform c s.1) c

/-- Some history leads from a fresh controller to this one. -/
def Reachable (c : Controller) : Prop := ∃ h : History, h.perform {} = c

end MockHttp.Control
