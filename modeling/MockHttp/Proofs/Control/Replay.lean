import MockHttp.Proofs.Control.Independence

/-! # Events tell the registry

A sink receives each event as a kind and its details. Whoever follows these records, from no ports
and no routes, arrives behind every history at the ports and the routes of the controller, and no
record comes unexpected: a port that starts was not running, and one that is stopped was.
-/

namespace MockHttp

/-! ## Following records -/

namespace Details

def asPort? : Json → Option Port
  | .number (.int n) => some (UInt16.ofNat n.toNat)
  | _ => none

def port? (details : Json) : Option Port := (details.member? "port").bind asPort?

def text? (key : String) (details : Json) : Option String :=
  match details.member? key with
  | some (.string s) => some s
  | _ => none

def route? (details : Json) : Option Route := do
  return ⟨← port? details, ← text? "method" details, ← text? "path" details⟩

def saysRunning (details : Json) : Bool :=
  match details.member? "running" with
  | some (.bool b) => b
  | _ => false

def stoppedPorts (details : Json) : List Port :=
  match details.member? "ports_reset" with
  | some (.array items) => items.filterMap asPort?
  | _ => []

theorem asPort?_nat (port : Port) : asPort? (.nat port.toNat) = some port := by
  simp [asPort?, Json.nat, Json.int]

theorem filterMap_asPort? (ports : List Port) :
    (ports.map fun port => Json.nat port.toNat).filterMap asPort? = ports := by
  have hread : asPort? ∘ (fun port : Port => Json.nat port.toNat) = some := funext asPort?_nat
  rw [List.filterMap_map, hread, List.filterMap_some]

end Details

/-- An event as a sink receives it. -/
def Event.reported (controlAddress mockHost : String) (e : Event) : String × Json :=
  (e.kind, e.report controlAddress mockHost)

namespace Replay

def start (r : Replay) (port : Port) : Replay := { r with ports := port :: r.ports }

def add (r : Replay) (route : Route) : Replay := { r with routes := route :: r.routes }

def stop (r : Replay) (port : Port) : Replay where
  ports := r.ports.filter (· ≠ port)
  routes := r.routes.filter (·.port ≠ port)

def stopAll (r : Replay) (ports : List Port) : Replay where
  ports := r.ports.filter (· ∉ ports)
  routes := []

/-- Follows a record. Those of other kinds change nothing, nor does a reset that found no listener
on its port. -/
def observe (r : Replay) (kind : String) (details : Json) : Replay :=
  if kind = "MockServerStart" then (Details.port? details).elim r r.start
  else if kind = "RegisterRoute" then (Details.route? details).elim r r.add
  else if kind = "ResetPortError" ∨ kind = "ResetPort" ∧ Details.saysRunning details = true then
    (Details.port? details).elim r r.stop
  else if kind = "ResetAll" then r.stopAll (Details.stoppedPorts details)
  else r

def ofRecords (records : List (String × Json)) : Replay :=
  records.foldl (fun r record => r.observe record.1 record.2) {}

section Records

open Details
open Json (member?_ofMembers)

variable {controlAddress mockHost : String}

theorem stoppedPorts_allReset (ports : List Port) :
    stoppedPorts ((Event.allReset ports).report controlAddress mockHost) = ports := by
  simp only [stoppedPorts, Event.report, Event.members, Event.address?, Option.toList,
    List.map_nil, List.append_nil, member?_ofMembers, Assoc.ofList, List.foldl_cons,
    List.foldl_nil, Assoc.get?_insert, if_true]
  exact filterMap_asPort? ports

theorem observe_reported (r : Replay) (e : Event) :
    r.observe e.kind (e.report controlAddress mockHost) = r.step e := by
  cases e with
  | listenerStarted port =>
    simp [observe, Event.kind, Event.report, Event.members, Event.address?, port?,
      member?_ofMembers, Assoc.ofList, Assoc.get?_insert, Event.portDetail, asPort?_nat, start,
      step]
  | registered route =>
    simp [observe, Event.kind, Event.report, Event.members, Event.address?, route?, port?, text?,
      member?_ofMembers, Assoc.ofList, Assoc.get?_insert, Event.routeDetails, Event.portDetail,
      asPort?_nat, add, step]
  | portReset port wasRunning =>
    cases wasRunning <;>
      simp [observe, Event.kind, Event.report, Event.members, Event.address?, port?, saysRunning,
        member?_ofMembers, Assoc.ofList, Assoc.get?_insert, Event.portDetail, asPort?_nat, stop,
        step]
  | portResetForced port =>
    simp [observe, Event.kind, Event.report, Event.members, Event.address?, port?,
      member?_ofMembers, Assoc.ofList, Assoc.get?_insert, Event.portDetail, asPort?_nat, stop,
      step]
  | allReset ports =>
    simp [observe, Event.kind, stoppedPorts_allReset, stopAll, step]
  | controlStarted | registrationFailed | mockRequest | controlRequest =>
    simp [observe, Event.kind, step]

theorem ofRecords_reported (events : List Event) :
    ofRecords (events.map (Event.reported controlAddress mockHost)) = ofEvents events := by
  have hstep : (fun r (e : Event) =>
      let record := e.reported controlAddress mockHost
      r.observe record.1 record.2) = step := by
    funext r e
    exact observe_reported r e
  rw [ofRecords, ofEvents, List.foldl_map, hstep]

end Records

theorem ofEvents_concat (events : List Event) (e : Event) :
    ofEvents (events ++ [e]) = (ofEvents events).step e := by
  simp [ofEvents]

/-- What must have been replayed already where an event is recorded. -/
def Expects (r : Replay) : Event → Prop
  | .listenerStarted port => port ∉ r.ports
  | .registered route _ => route.port ∈ r.ports
  | .portReset port wasRunning => wasRunning = true ↔ port ∈ r.ports
  | .portResetForced port => port ∈ r.ports
  | .allReset ports => ∀ port, port ∈ ports ↔ port ∈ r.ports
  | _ => True

def Orderly (events : List Event) : Prop :=
  ∀ before e after, events = before ++ e :: after → (ofEvents before).Expects e

theorem Orderly.concat {events : List Event} {e : Event} (h : Orderly events)
    (he : (ofEvents events).Expects e) : Orderly (events ++ [e]) := by
  intro before e' after heq
  rcases List.eq_nil_or_concat after with rfl | ⟨after, last, rfl⟩
  · obtain ⟨rfl, hlast⟩ := List.append_inj' heq rfl
    cases hlast
    exact he
  · rw [List.concat_eq_append, ← List.cons_append, ← List.append_assoc] at heq
    exact h before e' after (List.append_inj_left' heq rfl)

end Replay

/-! ## What is recorded of a registry -/

/-- Replaying the events gives the ports and the routes of the registry. -/
structure Registry.RecordedBy (reg : Registry) (events : List Event) : Prop where
  mem_ports_iff (port : Port) :
    port ∈ (Replay.ofEvents events).ports ↔ reg.isRunning port = true
  mem_routes_iff (route : Route) :
    route ∈ (Replay.ofEvents events).routes ↔ ∃ script, reg.lookup route = some script
  orderly : Replay.Orderly events

theorem Registry.Coherent.clearPort_eq_self {reg : Registry} (hc : reg.Coherent) {port : Port}
    (h : reg.isRunning port = false) : reg.clearPort port = reg := by
  apply Registry.eq_of_agreeAt
  intro other
  by_cases ho : other = port
  · subst ho
    have hmem : other ∉ reg.ports := fun hmem =>
      Bool.false_ne_true (h.symm.trans (Registry.mem_ports_iff.mp hmem))
    exact (Registry.agreeAt_clearPort other reg).trans (hc.agreeAt_of_not_mem_ports hmem)
  · exact Registry.agreeAt_clearPort_of_ne ho

namespace Registry.RecordedBy

variable {reg reg' : Registry} {events : List Event}

theorem empty : ({} : Registry).RecordedBy [] where
  mem_ports_iff port := by
    constructor
    · intro h
      cases h
    · intro h
      cases h
  mem_routes_iff route := by
    constructor
    · intro h
      cases h
    · rintro ⟨_, h⟩
      cases h
  orderly before e after h := by simp at h

theorem unchanged {e : Event} (h : reg.RecordedBy events)
    (he : (Replay.ofEvents events).Expects e)
    (hstep : (Replay.ofEvents events).step e = Replay.ofEvents events) :
    reg.RecordedBy (events ++ [e]) where
  mem_ports_iff port := by
    rw [Replay.ofEvents_concat, hstep]
    exact h.mem_ports_iff port
  mem_routes_iff route := by
    rw [Replay.ofEvents_concat, hstep]
    exact h.mem_routes_iff route
  orderly := h.orderly.concat he

theorem listenerStarted {port : Port} (h : reg.RecordedBy events)
    (hr : reg.isRunning port = false) (listener : Listener) :
    RecordedBy { reg with listeners := reg.listeners.insert port listener }
      (events ++ [.listenerStarted port]) where
  mem_ports_iff other := by
    rw [Replay.ofEvents_concat]
    simp only [Replay.step, List.mem_cons, h.mem_ports_iff]
    by_cases ho : other = port <;> simp [isRunning, Dict.contains, ho]
  mem_routes_iff route := by
    rw [Replay.ofEvents_concat]
    exact h.mem_routes_iff route
  orderly := by
    refine h.orderly.concat fun hmem => ?_
    have hrun := (h.mem_ports_iff port).mp hmem
    exact Bool.false_ne_true (hr.symm.trans hrun)

theorem registered {route : Route} (h : reg.RecordedBy events)
    (hr : reg.isRunning route.port = true) (script : Script) (instructions : Nat) :
    RecordedBy { reg with routes := reg.routes.insert route script }
      (events ++ [.registered route instructions]) where
  mem_ports_iff port := by
    rw [Replay.ofEvents_concat]
    exact h.mem_ports_iff port
  mem_routes_iff other := by
    rw [Replay.ofEvents_concat]
    simp only [Replay.step, List.mem_cons, h.mem_routes_iff, lookup, Dict.get?_insert]
    by_cases ho : other = route <;> simp [ho]
  orderly := h.orderly.concat ((h.mem_ports_iff route.port).mpr hr)

theorem clearPort {port : Port} {e : Event} (h : reg.RecordedBy events)
    (hr : reg.isRunning port = true)
    (he : e = .portReset port true ∨ e = .portResetForced port) :
    (reg.clearPort port).RecordedBy (events ++ [e]) where
  mem_ports_iff other := by
    have hstep : other ∈ ((Replay.ofEvents events).step e).ports ↔
        other ∈ (Replay.ofEvents events).ports ∧ other ≠ port := by
      rcases he with rfl | rfl <;> simp [Replay.step]
    rw [Replay.ofEvents_concat, hstep, h.mem_ports_iff, isRunning_clearPort, and_comm]
  mem_routes_iff route := by
    have hstep : route ∈ ((Replay.ofEvents events).step e).routes ↔
        route ∈ (Replay.ofEvents events).routes ∧ route.port ≠ port := by
      rcases he with rfl | rfl <;> simp [Replay.step]
    rw [Replay.ofEvents_concat, hstep, h.mem_routes_iff, lookup_clearPort]
    by_cases hp : route.port = port <;> simp [hp]
  orderly := by
    have hmem := (h.mem_ports_iff port).mpr hr
    refine h.orderly.concat ?_
    rcases he with rfl | rfl
    · exact iff_of_true rfl hmem
    · exact hmem

theorem clearPort_of_not_isRunning {port : Port} (h : reg.RecordedBy events) (hc : reg.Coherent)
    (hr : reg.isRunning port = false) :
    (reg.clearPort port).RecordedBy (events ++ [.portReset port false]) := by
  rw [hc.clearPort_eq_self hr]
  refine h.unchanged ?_ rfl
  refine iff_of_false Bool.false_ne_true fun hmem => ?_
  have hrun := (h.mem_ports_iff port).mp hmem
  exact Bool.false_ne_true (hr.symm.trans hrun)

theorem clear (h : reg.RecordedBy events) :
    reg.clear.RecordedBy (events ++ [.allReset reg.ports]) where
  mem_ports_iff port := by
    rw [Replay.ofEvents_concat]
    have hrun : reg.clear.isRunning port = false := rfl
    simp [Replay.step, h.mem_ports_iff, Registry.mem_ports_iff, hrun]
  mem_routes_iff route := by
    rw [Replay.ofEvents_concat]
    simp [Replay.step, lookup_clear]
  orderly := by
    refine h.orderly.concat fun port => ?_
    rw [Registry.mem_ports_iff, h.mem_ports_iff]

end Registry.RecordedBy

/-! ## What a controller records -/

namespace Controller

variable {c : Controller}

def IsRecorded (c : Controller) : Prop := c.registry.RecordedBy c.events

theorem IsRecorded.record {e : Event} (h : c.IsRecorded)
    (he : (Replay.ofEvents c.events).Expects e)
    (hstep : (Replay.ofEvents c.events).step e = Replay.ofEvents c.events) :
    (c.record e).IsRecorded :=
  h.unchanged he hstep

/-- The start of a listener is recorded ahead of the route that it is started for. -/
theorem IsRecorded.register (h : c.IsRecorded) (w : Surroundings) (r : Registration) :
    (c.register w r).1.IsRecorded := by
  cases hreg : c.registry.register (w.isFree r.port) r with
  | error e =>
    have heq : (c.register w r).1 =
        c.record (.registrationFailed r.route (e.message w.bindError)) := by
      simp [Controller.register, hreg]
    rw [heq]
    exact h.record trivial rfl
  | ok reg =>
    have heq : (c.register w r).1 = { registry := reg, events := c.events ++
        (if c.registry.isRunning r.port then [] else [.listenerStarted r.port]) ++
          [.registered r.route r.entries.length] } := by
      simp [Controller.register, hreg]
    obtain ⟨-, -, rfl⟩ := Registry.register_eq_ok_iff.mp hreg
    rw [heq]
    cases hr : c.registry.isRunning r.port with
    | true =>
      simp only [if_true, List.append_nil]
      exact Registry.RecordedBy.registered h hr _ _
    | false =>
      simp only [Bool.false_eq_true, if_false]
      have hstart := Registry.RecordedBy.listenerStarted h hr ⟨r.port⟩
      refine @Registry.RecordedBy.registered _ _ r.route hstart ?_ _ _
      simp [Registry.isRunning, Dict.contains, Registration.route]

theorem IsRecorded.resetPort (h : c.IsRecorded) (hc : c.registry.Coherent) (w : Surroundings)
    (port : Port) : (c.resetPort w port).IsRecorded := by
  unfold Controller.resetPort IsRecorded
  cases hr : c.registry.isRunning port with
  | true =>
    refine Registry.RecordedBy.clearPort h hr ?_
    cases w.cutsOff with
    | true => exact .inr rfl
    | false => exact .inl rfl
  | false => exact Registry.RecordedBy.clearPort_of_not_isRunning h hc hr

theorem IsRecorded.resetAll (h : c.IsRecorded) : c.resetAll.1.IsRecorded :=
  Registry.RecordedBy.clear h

theorem IsRecorded.serve (h : c.IsRecorded) (port : Port) (r : Request) (chance : Chance) :
    (c.serve port r chance).1.IsRecorded := by
  have hevent : ∃ route status vars,
      (c.registry.serve port r chance).event = .mockRequest route status vars := by
    unfold Registry.serve
    dsimp only
    split
    · exact ⟨_, _, _, rfl⟩
    · exact ⟨_, _, _, rfl⟩
  obtain ⟨route, status, vars, hevent⟩ := hevent
  have heq : (c.serve port r chance).1 = c.record (.mockRequest route status vars) :=
    congrArg c.record hevent
  rw [heq]
  exact h.record trivial rfl

end Controller

namespace Control

variable {c : Controller}

theorem isRecorded_command (h : c.IsRecorded) (hc : c.registry.Coherent) (w : Surroundings)
    (cmd : Command) : (Control.perform c w cmd).1.IsRecorded := by
  cases cmd with
  | register r => exact h.register w r
  | resetPort port => exact h.resetPort hc w port
  | resetAll => exact h.resetAll

theorem isRecorded_handle (h : c.IsRecorded) (hc : c.registry.Coherent) (w : Surroundings)
    (q : Inquiry) : (handle c w q).1.IsRecorded := by
  unfold handle
  cases q.command? with
  | ok cmd => exact (isRecorded_command h hc w cmd).record trivial rfl
  | error refusal => exact h.record trivial rfl

theorem isRecorded_perform (h : c.IsRecorded) (hc : c.registry.Coherent) (w : Surroundings)
    (op : Operation) : (op.perform c w).IsRecorded := by
  cases op with
  | register r => exact h.register w r
  | resetPort port => exact h.resetPort hc w port
  | resetAll => exact h.resetAll
  | inquiry q => exact isRecorded_handle h hc w q
  | command client cmd =>
    simp only [Operation.perform, Client.send]
    cases client.request cmd with
    | error e => exact h
    | ok out => exact isRecorded_handle h hc w _
  | request port r chance =>
    simp only [Operation.perform]
    split
    · exact h.serve port r chance
    · exact h

theorem History.isRecorded_perform (history : History) (h : c.IsRecorded)
    (hc : c.registry.Coherent) : (history.perform c).IsRecorded := by
  induction history generalizing c with
  | nil => exact h
  | cons s history ih =>
    exact ih (Control.isRecorded_perform h hc s.1 s.2) (Control.coherent_perform hc s.1 s.2)

def served (planes : Nat) : Controller where
  events := List.replicate planes .controlStarted

theorem isRecorded_served (planes : Nat) : (served planes).IsRecorded := by
  induction planes with
  | zero => exact .empty
  | succ planes ih =>
    have heq : served (planes + 1) = (served planes).record .controlStarted := by
      simp [served, Controller.record, List.replicate_succ']
    rw [heq]
    exact ih.record trivial rfl

/-- Behind any history the records tell which ports run and which routes there are, and each record
is expected by those in front of it, wherever the servers listen. -/
theorem History.records_tell_registry (planes : Nat) (history : History)
    (controlAddress mockHost : String) :
    let c := history.perform (served planes)
    let record := Event.reported controlAddress mockHost
    let told := Replay.ofRecords (c.events.map record)
    (∀ port, port ∈ told.ports ↔ port ∈ c.registry.ports) ∧
    (∀ route, route ∈ told.routes ↔ ∃ script, c.registry.lookup route = some script) ∧
    ∀ before e after, c.events = before ++ e :: after →
      (Replay.ofRecords (before.map record)).Expects e := by
  intro c record told
  have htold : told = Replay.ofEvents c.events := Replay.ofRecords_reported c.events
  have h : c.IsRecorded :=
    history.isRecorded_perform (isRecorded_served planes) Registry.Coherent.empty
  refine ⟨fun port => ?_, fun route => ?_, fun before e after heq => ?_⟩
  · rw [htold, h.mem_ports_iff, Registry.mem_ports_iff]
  · rw [htold, h.mem_routes_iff]
  · rw [Replay.ofRecords_reported]
    exact h.orderly before e after heq

end Control

end MockHttp
