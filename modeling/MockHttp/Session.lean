import MockHttp.Control.Client

/-! # Sessions

A session is one controller with its control plane, used step by step over a network with a
clock. Mock requests may still be in flight when the next step begins. A reset waits for those
of the listeners it stops, at most for the grace period, and cuts the rest off.
-/

namespace MockHttp

open Control

inductive Link where
  | connected
  | severed
deriving DecidableEq, Repr

abbrev Transfer := Except TransferError Response

/-- A mock request that is not answered yet. -/
structure Flight where
  port : Port
  due : Nat
  response : Response
  event : Event
  slot : Option Nat

structure Settings where
  link : Link
  /-- In milliseconds. -/
  grace : Nat
  controlAddress : String
  mockHost : String
  /-- The host that mock requests name. -/
  namedHost : String

structure Session where
  settings : Settings
  controller : Controller := {}
  occupied : List Port := []
  now : Nat := 0
  flights : List Flight := []
  /-- The answers of the background requests so far, in the order of the requests. -/
  background : List (Option Transfer) := []
  chances : Nat → Chance

namespace Session

def start (settings : Settings) (chances : Nat → Chance) : Session where
  settings
  controller := ({} : Controller).record .controlStarted
  chances

def surroundings (s : Session) (cutsOff : Bool) : Surroundings where
  isFree port := port ∉ s.occupied
  cutsOff

/-! ## Time -/

def deliver (s : Session) (slot : Option Nat) (answer : Transfer) : Session :=
  match slot with
  | some i => { s with background := s.background.set i (some answer) }
  | none => s

def land (s : Session) (f : Flight) : Session :=
  { s with controller := s.controller.record f.event }.deliver f.slot (.ok f.response)

/-- Lets time pass; the requests that are due are answered in the order in which they are. -/
def settle (s : Session) (time : Nat) : Session :=
  let ready := (s.flights.filter (·.due ≤ time)).mergeSort fun f g => f.due ≤ g.due
  let s := ready.foldl land s
  { s with now := time, flights := s.flights.filter (time < ·.due) }

/-- Waits for the requests to some ports, at most for the grace period. Tells whether any had to
be cut off. -/
def drain (s : Session) (stops : Port → Bool) : Session × Bool :=
  let latest := ((s.flights.filter (stops ·.port)).map (·.due)).foldl max s.now
  let limit := s.now + s.settings.grace
  let s := s.settle (min latest limit)
  let late := s.flights.filter (stops ·.port)
  let s := late.foldl (fun s f => s.deliver f.slot (.error .cutOff)) s
  ({ s with flights := s.flights.filter (!stops ·.port) }, !late.isEmpty)

/-! ## Requests -/

/-- The request as it arrives: the host is named first, and blanks around values are lost. -/
def onTheWire (s : Session) (r : Request) : Request :=
  let isPad (b : UInt8) := b == 0x20 || b == 9
  let strip (value : Bytes) := ((value.dropWhile isPad).reverse.dropWhile isPad).reverse
  { r with
    headers := (.host, Text.bytes s.settings.namedHost) ::
      r.headers.map fun h => (h.1, strip h.2) }

def dispatch (s : Session) (port : Port) (r : Request) (slot : Option Nat) :
    Session × Option Flight :=
  if s.settings.link = .connected ∧ s.controller.registry.isRunning port then
    let served := s.controller.registry.serve port r (s.chances 0)
    let f : Flight := ⟨port, s.now + served.delay, served.response, served.event, slot⟩
    ({ s with flights := s.flights ++ [f], chances := fun n => s.chances (n + 1) }, some f)
  else (s, none)

def await (s : Session) (port : Port) (r : Request) : Session × Transfer :=
  match s.dispatch port r none with
  | (s, some f) => (s.settle f.due, .ok f.response)
  | (s, none) => (s, .error .cannotConnect)

def headStart : Nat := 60

def awaitLater (s : Session) (port : Port) (r : Request) : Session :=
  let slot := s.background.length
  match s.dispatch port r (some slot) with
  | (s, some _) => { s with background := s.background ++ [none] }.settle (s.now + headStart)
  | (s, none) =>
    let refused : Transfer := .error .cannotConnect
    { s with background := s.background ++ [some refused] }.settle (s.now + headStart)

def join (s : Session) : Session × List Transfer :=
  let latest := (s.flights.map (·.due)).foldl max s.now
  let s := s.settle latest
  ({ s with background := [] }, s.background.map (·.getD (Except.error TransferError.cutOff)))

/-! ## Operations -/

def register (s : Session) (r : Registration) : Session × Except RegisterError Unit :=
  let (controller, result) := s.controller.register (s.surroundings false) r
  ({ s with controller }, result)

def resetPort (s : Session) (port : Port) : Session :=
  let (s, cutsOff) := s.drain (· == port)
  { s with controller := s.controller.resetPort (s.surroundings cutsOff) port }

def resetAll (s : Session) : Session × List Port :=
  let (s, _) := s.drain fun _ => true
  let (controller, ports) := s.controller.resetAll
  ({ s with controller }, ports)

/-- The listeners that a request to the control plane stops. -/
def stoppedBy (q : Inquiry) (port : Port) : Bool :=
  match q.command? with
  | .ok (.resetPort p) => port == p
  | .ok .resetAll => true
  | _ => false

def control (s : Session) (q : Inquiry) : Session × Response :=
  let (s, cutsOff) := s.drain (stoppedBy q)
  let (controller, response) := handle s.controller (s.surroundings cutsOff) q
  ({ s with controller }, response)

def listenerAt? (s : Session) (address : String) : Option Port :=
  s.controller.registry.ports.find? fun port =>
    Listener.address s.settings.mockHost port == address

def exchange (s : Session) (address : String) (out : Outgoing) : Session × Option Response :=
  if s.settings.link = .severed then (s, none)
  else if address = s.settings.controlAddress then
    let (s, response) := s.control (.ofOutgoing out)
    (s, some response)
  else
    match s.listenerAt? address with
    | none => (s, none)
    | some port =>
      let (s, answer) := s.await port
        (Request.ofParts out.method out.target out.headers (some out.body))
      (s, answer.toOption)

def command (s : Session) (client : Client) (command : Command) :
    Session × Except ClientError Unit :=
  match client.request command with
  | .error e => (s, .error e)
  | .ok (address, out) =>
    let (s, response) := s.exchange address out
    (s, Client.outcome response)

def occupy (s : Session) (port : Port) : Session := { s with occupied := port :: s.occupied }

/-- Tells whether another program held the port. -/
def release (s : Session) (port : Port) : Session × Bool :=
  ({ s with occupied := s.occupied.filter (· ≠ port) }, port ∈ s.occupied)

end Session

end MockHttp
