import MockHttp.Instruction.Decode
import MockHttp.Wire.Message

/-! # Routes and listeners

A route leads from a port, a method and a path to a script. A listener runs on each port that has
a route. Registering a route starts the listener of its port if there is none; clearing a port
drops its routes and its listener together.
-/

namespace MockHttp

structure Route where
  port : Port
  method : String
  path : String
deriving DecidableEq, Repr

namespace Route

instance : Ord Route :=
  ⟨compareLex (compareOn port) (compareLex (compareOn method) (compareOn path))⟩

instance : Std.TransOrd Route :=
  inferInstanceAs <| Std.TransCmp
    (compareLex (compareOn port) (compareLex (compareOn method) (compareOn path)))

instance : Std.LawfulEqOrd Route where
  compare_self {a} := by
    change (compareOn port a a).then ((compareOn method a a).then (compareOn path a a)) = .eq
    simp [compareOn, Std.compare_self]
  eq_of_compare {a b} h := by
    change (compareOn port a b).then ((compareOn method a b).then (compareOn path a b)) = .eq at h
    simp only [Ordering.then_eq_eq, compareOn, Std.compare_eq_iff_eq] at h
    obtain ⟨hp, hm, hq⟩ := h
    cases a; cases b; simp_all

end Route

structure Listener where
  port : Port
deriving DecidableEq, Repr

def Listener.address (host : String) (port : Port) : String :=
  host ++ ":" ++ Digits.text port.toNat

structure Registry where
  routes : Dict Route Script := ∅
  listeners : Dict Port Listener := ∅

inductive RegisterError where
  | invalidPort
  | addressInUse (port : Port)
deriving DecidableEq, Repr

def addressInUseText : String := "Address already in use (os error 98)"

/-- A port that cannot be bound is reported in the words of the system. -/
def RegisterError.message (e : RegisterError) (bindError : String := addressInUseText) : String :=
  match e with
  | invalidPort => "Port 0 cannot host a mock route"
  | addressInUse port =>
    "Failed to start mock listener on port " ++ Digits.text port.toNat ++ ": " ++ bindError

def Registration.route (r : Registration) : Route := ⟨r.port, r.method, r.path⟩

namespace Registry

def lookup (reg : Registry) (route : Route) : Option Script := reg.routes.get? route

def isRunning (reg : Registry) (port : Port) : Bool := reg.listeners.contains port

def ports (reg : Registry) : List Port := reg.listeners.keys

/-- The route is stored only if a listener runs on its port or can be started there. -/
def register (reg : Registry) (isFree : Bool) (r : Registration) :
    Except RegisterError Registry :=
  if r.port = 0 then .error .invalidPort
  else
    let routes := reg.routes.insert r.route (Script.decode r.entries)
    if reg.isRunning r.port then .ok { reg with routes }
    else if isFree then .ok { routes, listeners := reg.listeners.insert r.port ⟨r.port⟩ }
    else .error (.addressInUse r.port)

def clearPort (reg : Registry) (port : Port) : Registry where
  routes := reg.routes.filter fun route _ => route.port ≠ port
  listeners := reg.listeners.erase port

def clear (_ : Registry) : Registry := {}

end Registry

end MockHttp
