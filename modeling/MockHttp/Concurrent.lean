import MockHttp.Controller

/-! # Operations that overlap

Operations do not wait for one another. Each is cut into steps that nothing interrupts, and the
steps of different operations come in any order. A reset first takes routes and listeners out of
the registry, then stops the servers behind them: a server that is told to stop closes its
socket, waits for its requests, and is done when none is left or when its grace period has
elapsed. Until the socket is closed the port is not free.
-/

namespace MockHttp.Concurrent

inductive Phase where
  | serving
  /-- Told to stop; the socket is still open. -/
  | told
  /-- The socket is closed; requests may be left. -/
  | draining
  /-- No requests are left; `forced` if some had to be aborted. -/
  | stopped (forced : Bool)
deriving DecidableEq, Repr

def Phase.holdsSocket : Phase → Bool
  | serving | told => true
  | draining | stopped _ => false

/-- What runs behind a listener. It outlives the listener's entry in the registry. -/
structure Server where
  port : Port
  listed : Bool := true
  phase : Phase := .serving
deriving DecidableEq, Repr

inductive Progress where
  | accepted
  | dispatched (response : Response)
  | answered (response : Response)
  | aborted

def Progress.isPending : Progress → Bool
  | accepted | dispatched _ => true
  | answered _ | aborted => false

/-- A request to a server, given by its number. -/
structure Exchange where
  server : Nat
  progress : Progress := .accepted

/-- A reset and the servers that it took out of the registry. -/
structure Reset where
  servers : List Nat
  returned : Bool := false
deriving DecidableEq, Repr

structure World where
  registry : Registry := {}
  occupied : List Port := []
  servers : List Server := []
  exchanges : List Exchange := []
  resets : List Reset := []
  results : List (Except RegisterError Unit) := []

inductive Action where
  | register (r : Registration)
  /-- The part of a reset that changes the registry. -/
  | detach (port : Port)
  | detachAll
  | tell (server : Nat)
  | close (server : Nat)
  | accept (server : Nat)
  /-- The head of the request has arrived and the route is looked up. -/
  | dispatch (exchange : Nat) (r : Request) (chance : Chance)
  | answer (exchange : Nat)
  | drain (server : Nat)
  | expire (server : Nat)
  | conclude (reset : Nat)

namespace World

def isFree (w : World) (port : Port) : Bool :=
  port ∉ w.occupied && !w.servers.any fun s => s.port == port && s.phase.holdsSocket

def isBusy (w : World) (server : Nat) : Bool :=
  w.exchanges.any fun e => e.server == server && e.progress.isPending

def setPhase (w : World) (server : Nat) (phase : Phase) : World :=
  { w with servers := w.servers.modify server fun s => { s with phase } }

def setProgress (w : World) (exchange : Nat) (progress : Progress) : World :=
  { w with exchanges := w.exchanges.modify exchange fun e => { e with progress } }

def abort (w : World) (server : Nat) : World :=
  { w with
    exchanges := w.exchanges.map fun e =>
      if e.server == server && e.progress.isPending then { e with progress := .aborted } else e }

def register (w : World) (r : Registration) : World :=
  match w.registry.register (w.isFree r.port) r with
  | .error e => { w with results := w.results ++ [.error e] }
  | .ok registry =>
    let started := if w.registry.isRunning r.port then [] else [{ port := r.port }]
    { w with registry, servers := w.servers ++ started, results := w.results ++ [.ok ()] }

/-- Takes the listed servers on some ports off the list, for a new reset. -/
def detachWhere (w : World) (registry : Registry) (stops : Port → Bool) : World :=
  let leaves (s : Server) : Bool := s.listed && stops s.port
  let numbers := (List.range w.servers.length).filter fun i => (w.servers[i]?).any leaves
  { w with
    registry
    servers := w.servers.map fun s => if leaves s then { s with listed := false } else s
    resets := w.resets ++ [{ servers := numbers }] }

def isOver (w : World) (reset : Reset) : Bool :=
  reset.servers.all fun i =>
    match w.servers[i]? with
    | some ⟨_, _, .stopped _⟩ => true
    | _ => false

/-- The world behind an action; `none` if the action is not possible now. -/
def step? (w : World) : Action → Option World
  | .register r => some (w.register r)
  | .detach port => some (w.detachWhere (w.registry.clearPort port) (· == port))
  | .detachAll => some (w.detachWhere w.registry.clear fun _ => true)
  | .tell i =>
    match w.servers[i]? with
    | some ⟨_, false, .serving⟩ => some (w.setPhase i .told)
    | _ => none
  | .close i =>
    match w.servers[i]? with
    | some ⟨_, _, .told⟩ => some (w.setPhase i .draining)
    | _ => none
  | .accept i =>
    match w.servers[i]? with
    | some s =>
      if s.phase.holdsSocket then some { w with exchanges := w.exchanges ++ [{ server := i }] }
      else none
    | none => none
  | .dispatch i r chance =>
    match w.exchanges[i]? with
    | some ⟨server, .accepted⟩ =>
      (w.servers[server]?).map fun s =>
        w.setProgress i (.dispatched (w.registry.serve s.port r chance).response)
    | _ => none
  | .answer i =>
    match w.exchanges[i]? with
    | some ⟨_, .dispatched response⟩ => some (w.setProgress i (.answered response))
    | _ => none
  | .drain i =>
    match w.servers[i]? with
    | some ⟨_, _, .draining⟩ =>
      if w.isBusy i then none else some (w.setPhase i (.stopped false))
    | _ => none
  | .expire i =>
    match w.servers[i]? with
    | some ⟨_, _, .draining⟩ =>
      if w.isBusy i then some ((w.abort i).setPhase i (.stopped true)) else none
    | _ => none
  | .conclude i =>
    match w.resets[i]? with
    | some reset =>
      if w.isOver reset then
        some { w with resets := w.resets.set i { reset with returned := true } }
      else none
    | none => none

def run? (w : World) (actions : List Action) : Option World := actions.foldlM step? w

end World

end MockHttp.Concurrent
