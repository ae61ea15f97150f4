import MockHttp.Proofs.Control.Listeners

/-! # Operations on different ports

What is done to one port reads and changes nothing that belongs to another port. So operations on
different ports can be exchanged, and resetting all ports is resetting each of them, in any order.
-/

namespace MockHttp

namespace Registry

/-- The two registries hold the same routes and the same listener for a port. -/
structure AgreeAt (port : Port) (reg reg' : Registry) : Prop where
  lookup {route : Route} : route.port = port → reg.lookup route = reg'.lookup route
  listener : reg.listeners.get? port = reg'.listeners.get? port

variable {reg reg' reg'' : Registry} {port : Port}

namespace AgreeAt

theorem refl (port : Port) (reg : Registry) : AgreeAt port reg reg := ⟨fun _ => rfl, rfl⟩

theorem symm (h : AgreeAt port reg reg') : AgreeAt port reg' reg :=
  ⟨fun hr => (h.lookup hr).symm, h.listener.symm⟩

theorem trans (h : AgreeAt port reg reg') (h' : AgreeAt port reg' reg'') :
    AgreeAt port reg reg'' :=
  ⟨fun hr => (h.lookup hr).trans (h'.lookup hr), h.listener.trans h'.listener⟩

theorem isRunning_eq (h : AgreeAt port reg reg') : reg.isRunning port = reg'.isRunning port :=
  congrArg Option.isSome h.listener

end AgreeAt

/-- A registry is made of what it holds for each port. -/
theorem eq_of_agreeAt (h : ∀ port, AgreeAt port reg reg') : reg = reg' := by
  have hroutes : reg.routes = reg'.routes :=
    Dict.ext_get? fun route => (h route.port).lookup rfl
  have hlisteners : reg.listeners = reg'.listeners := Dict.ext_get? fun port => (h port).listener
  cases reg
  cases reg'
  simp_all

/-! ## Registrations -/

section Register

variable {isFree : Bool} {r : Registration}

theorem agreeAt_register_of_ne (h : reg.register isFree r = .ok reg') (hp : port ≠ r.port) :
    AgreeAt port reg' reg where
  lookup {route} hr := by
    have hne : route ≠ r.route := by
      rintro rfl
      exact hp hr.symm
    exact (lookup_of_register h route).trans (if_neg hne)
  listener := by
    obtain ⟨-, -, rfl⟩ := register_eq_ok_iff.mp h
    cases reg.isRunning r.port with
    | true => rfl
    | false => exact (Dict.get?_insert ..).trans (if_neg hp)

theorem agreeAt_register_congr {next next' : Registry} (hagree : AgreeAt r.port reg reg')
    (h : reg.register isFree r = .ok next) (h' : reg'.register isFree r = .ok next') :
    AgreeAt r.port next next' where
  lookup {route} hr := by
    rw [lookup_of_register h, lookup_of_register h', hagree.lookup hr]
  listener := by
    obtain ⟨-, -, rfl⟩ := register_eq_ok_iff.mp h
    obtain ⟨-, -, rfl⟩ := register_eq_ok_iff.mp h'
    simp only [hagree.isRunning_eq]
    cases reg'.isRunning r.port with
    | true => exact hagree.listener
    | false => simp

theorem register_register (h : reg.register isFree r = .ok reg') (isFree' : Bool) :
    reg'.register isFree' r = .ok reg' := by
  have hrun : reg'.isRunning r.port = true := (isRunning_of_register h r.port).mpr (.inl rfl)
  obtain ⟨hp, -, -⟩ := register_eq_ok_iff.mp h
  refine register_eq_ok_iff.mpr ⟨hp, .inl hrun, ?_⟩
  have hroutes : reg'.routes = reg'.routes.insert r.route (Script.decode r.entries) := by
    apply Dict.ext_get?
    intro route
    rw [Dict.get?_insert]
    split
    · next hr => exact (lookup_of_register h route).trans (if_pos hr)
    · rfl
  rw [← hroutes, if_pos hrun]

end Register

/-! ## Resets -/

theorem agreeAt_clearPort_of_ne {other : Port} (h : port ≠ other) :
    AgreeAt port (reg.clearPort other) reg where
  lookup hr := (lookup_clearPort ..).trans (if_neg (hr ▸ h))
  listener := (Dict.get?_erase ..).trans (if_neg h)

theorem agreeAt_clearPort (port : Port) (reg : Registry) :
    AgreeAt port (reg.clearPort port) {} where
  lookup hr := (lookup_clearPort ..).trans (if_pos hr)
  listener := (Dict.get?_erase ..).trans (if_pos rfl)

theorem clearPort_clearPort (reg : Registry) (port : Port) :
    (reg.clearPort port).clearPort port = reg.clearPort port := by
  apply eq_of_agreeAt
  intro other
  by_cases h : other = port
  · subst h
    exact (agreeAt_clearPort ..).trans (agreeAt_clearPort ..).symm
  · exact agreeAt_clearPort_of_ne h

theorem agreeAt_foldl_clearPort (ports : List Port) (reg : Registry) (port : Port) :
    AgreeAt port (ports.foldl clearPort reg) (if port ∈ ports then {} else reg) := by
  induction ports generalizing reg with
  | nil => exact .refl port reg
  | cons first rest ih =>
    refine (ih (reg.clearPort first)).trans ?_
    by_cases hrest : port ∈ rest
    · simp only [hrest, List.mem_cons, or_true, if_true]
      exact .refl port {}
    · by_cases hfirst : port = first
      · subst hfirst
        simp only [hrest, List.mem_cons, true_or, if_true, if_false]
        exact agreeAt_clearPort port reg
      · simp only [hrest, hfirst, List.mem_cons, or_self, if_false]
        exact agreeAt_clearPort_of_ne hfirst

theorem Coherent.agreeAt_of_not_mem_ports (hc : reg.Coherent) (h : port ∉ reg.ports) :
    AgreeAt port {} reg where
  lookup {route} hr := by
    have hn : ¬ reg.HasRoute port := by rwa [← hc.isRunning_iff, ← mem_ports_iff]
    cases hl : reg.lookup route with
    | none => rfl
    | some script => exact (hn ⟨route, script, hl, hr⟩).elim
  listener := by
    cases hl : reg.listeners.get? port with
    | none => rfl
    | some listener =>
      exact (h (mem_ports_iff.mpr (Dict.contains_iff.mpr ⟨listener, hl⟩))).elim

theorem Coherent.foldl_clearPort (hc : reg.Coherent) {ports : List Port}
    (h : ∀ port, port ∈ reg.ports → port ∈ ports) :
    ports.foldl Registry.clearPort reg = reg.clear := by
  apply eq_of_agreeAt
  intro port
  have hfold := agreeAt_foldl_clearPort ports reg port
  by_cases hp : port ∈ ports
  · rwa [if_pos hp] at hfold
  · rw [if_neg hp] at hfold
    exact hfold.trans (hc.agreeAt_of_not_mem_ports fun hmem => hp (h port hmem)).symm

theorem Coherent.map_port_listeners (hc : reg.Coherent) :
    reg.listeners.values.map Listener.port = reg.ports := by
  rw [Dict.values, ports, Dict.keys, List.map_map]
  refine List.map_congr_left fun entry he => ?_
  exact hc.port_of_listener (Dict.get?_eq_some_iff.mpr he)

end Registry

/-! ## Operations of a controller -/

inductive PortOperation where
  | register (r : Registration)
  | reset (port : Port)

namespace PortOperation

def port : PortOperation → Port
  | register r => r.port
  | reset port => port

def perform (c : Controller) (w : Surroundings) :
    PortOperation → Controller × Except RegisterError Unit
  | register r => c.register w r
  | reset port => (c.resetPort w port, .ok ())

variable {c d : Controller} {w : Surroundings} {op : PortOperation}

open Registry

theorem agreeAt_perform_of_ne {port : Port} (h : port ≠ op.port) :
    AgreeAt port (op.perform c w).1.registry c.registry := by
  cases op with
  | register r =>
    cases hres : (c.register w r).2 with
    | ok u => exact agreeAt_register_of_ne (Controller.register_eq_ok_iff.mp hres) h
    | error e =>
      simp only [perform, Controller.registry_register_of_error hres]
      exact .refl ..
  | reset port => exact agreeAt_clearPort_of_ne h

theorem result_perform_congr (h : AgreeAt op.port c.registry d.registry) :
    (op.perform c w).2 = (op.perform d w).2 := by
  cases op with
  | register r =>
    have hrun : c.registry.isRunning r.port = d.registry.isRunning r.port := h.isRunning_eq
    simp only [perform, Controller.result_register, hrun]
  | reset port => rfl

theorem agreeAt_perform_congr (h : AgreeAt op.port c.registry d.registry) :
    AgreeAt op.port (op.perform c w).1.registry (op.perform d w).1.registry := by
  cases op with
  | register r =>
    have hresult : (c.register w r).2 = (d.register w r).2 := result_perform_congr h
    cases hc : (c.register w r).2 with
    | ok u =>
      have hd : (d.register w r).2 = .ok () := hresult.symm.trans hc
      exact agreeAt_register_congr h (Controller.register_eq_ok_iff.mp hc)
        (Controller.register_eq_ok_iff.mp hd)
    | error e =>
      simp only [perform, Controller.registry_register_of_error hc,
        Controller.registry_register_of_error (hresult.symm.trans hc)]
      exact h
  | reset port => exact (agreeAt_clearPort ..).trans (agreeAt_clearPort ..).symm

variable {a b : PortOperation} {v : Surroundings}

/-- The one that comes second finds its port as if it came first. -/
theorem agreeAt_other (h : a.port ≠ b.port) :
    AgreeAt a.port (b.perform c w).1.registry c.registry :=
  agreeAt_perform_of_ne h

theorem registry_perform_comm (h : a.port ≠ b.port) :
    (b.perform (a.perform c v).1 w).1.registry = (a.perform (b.perform c w).1 v).1.registry := by
  apply eq_of_agreeAt
  intro port
  by_cases ha : port = a.port
  · subst ha
    have hb : AgreeAt a.port (b.perform (a.perform c v).1 w).1.registry
        (a.perform c v).1.registry := agreeAt_other h
    exact hb.trans (agreeAt_perform_congr (agreeAt_other h).symm)
  · have hfirst : AgreeAt port (a.perform (b.perform c w).1 v).1.registry
        (b.perform c w).1.registry := agreeAt_perform_of_ne ha
    by_cases hb : port = b.port
    · subst hb
      exact (agreeAt_perform_congr (agreeAt_other h.symm)).trans hfirst.symm
    · exact (agreeAt_perform_of_ne hb).trans ((agreeAt_perform_of_ne ha).trans
        ((agreeAt_perform_of_ne hb).symm.trans hfirst.symm))

end PortOperation

namespace Controller

theorem registry_foldl_resetPort (c : Controller) (w : Port → Surroundings) (ports : List Port) :
    (ports.foldl (fun c port => c.resetPort (w port) port) c).registry =
      ports.foldl Registry.clearPort c.registry := by
  induction ports generalizing c with
  | nil => rfl
  | cons port rest ih => exact ih (c.resetPort (w port) port)

theorem register_of_ok {c : Controller} {w : Surroundings} {r : Registration} {reg : Registry}
    (h : c.registry.register (w.isFree r.port) r = .ok reg) :
    (c.register w r).1.registry = reg ∧ (c.register w r).2 = .ok () := by
  unfold register
  rw [h]
  exact ⟨rfl, rfl⟩

theorem register_register (c : Controller) (w : Surroundings) (r : Registration) :
    ((c.register w r).1.register w r).1.registry = (c.register w r).1.registry ∧
      ((c.register w r).1.register w r).2 = (c.register w r).2 := by
  cases hres : (c.register w r).2 with
  | ok u =>
    have hagain := Registry.register_register (register_eq_ok_iff.mp hres) (w.isFree r.port)
    exact register_of_ok hagain
  | error e =>
    have hsame : (c.register w r).1.registry = c.registry := registry_register_of_error hres
    have hagain : ((c.register w r).1.register w r).2 = .error e := by
      rw [result_register, hsame, ← result_register, hres]
    exact ⟨registry_register_of_error hagain, hagain⟩

/-- Operations on different ports can be exchanged without a difference in the registry or in
their results. Resetting all ports is the same as resetting those that are running, in any order,
and names them in ascending order. What is done twice in a row is done. -/
theorem perform_comm_of_reachable {c : Controller} (h : Control.Reachable c) :
    (∀ (a b : PortOperation) (v w : Surroundings), a.port ≠ b.port →
      (b.perform (a.perform c v).1 w).1.registry = (a.perform (b.perform c w).1 v).1.registry ∧
        (a.perform c v).2 = (a.perform (b.perform c w).1 v).2 ∧
        (b.perform (a.perform c v).1 w).2 = (b.perform c w).2) ∧
    (∀ (ports : List Port) (w : Port → Surroundings), ports.Perm c.registry.ports →
      (ports.foldl (fun c port => c.resetPort (w port) port) c).registry =
        c.resetAll.1.registry) ∧
    (c.resetAll.2 = c.registry.ports ∧
      c.registry.listeners.values.map Listener.port = c.registry.ports ∧
      c.registry.ports.Pairwise (· < ·)) ∧
    (∀ (port : Port) (w v : Surroundings),
      ((c.resetPort w port).resetPort v port).registry = (c.resetPort w port).registry) ∧
    c.resetAll.1.resetAll.1.registry = c.resetAll.1.registry ∧
    ∀ (w : Surroundings) (r : Registration),
      ((c.register w r).1.register w r).1.registry = (c.register w r).1.registry ∧
        ((c.register w r).1.register w r).2 = (c.register w r).2 := by
  have hc : c.registry.Coherent := by
    obtain ⟨history, rfl⟩ := h
    exact history.coherent_perform .empty
  refine ⟨fun a b v w hne => ?_, fun ports w hperm => ?_, ?_, ?_, rfl, c.register_register⟩
  · exact ⟨PortOperation.registry_perform_comm hne,
      PortOperation.result_perform_congr (PortOperation.agreeAt_other hne).symm,
      PortOperation.result_perform_congr (PortOperation.agreeAt_other hne.symm)⟩
  · rw [registry_foldl_resetPort]
    exact hc.foldl_clearPort fun port hp => hperm.mem_iff.mpr hp
  · exact ⟨rfl, hc.map_port_listeners, c.registry.ports_ascending⟩
  · exact fun port w v => Registry.clearPort_clearPort c.registry port

/-- Two ports with routes are reset in descending order, and a route on one of them is exchanged
with a reset of the other. -/
theorem perform_comm_behind_mixedHistory :
    let c := Control.mixedHistory.perform {}
    let w : Surroundings := { isFree := fun _ => false }
    let again : PortOperation := .register ⟨80, "PUT", "/f", []⟩
    let reset : PortOperation := .reset 9001
    Control.Reachable c ∧ again.port ≠ reset.port ∧ [9001, 80].Perm c.registry.ports ∧
      (reset.perform (again.perform c w).1 w).1.registry =
        (again.perform (reset.perform c w).1 w).1.registry ∧
      (again.perform (reset.perform c w).1 w).2 = .ok () ∧
      ((c.resetPort w 9001).resetPort w 80).registry = c.resetAll.1.registry ∧
      c.resetAll.2 = [80, 9001] := by
  intro c w again reset
  have h : Control.Reachable c := ⟨Control.mixedHistory, rfl⟩
  have hports : c.registry.ports = [80, 9001] := by decide
  have hperm : [9001, 80].Perm c.registry.ports := hports ▸ List.Perm.swap ..
  have hne : again.port ≠ reset.port := by decide
  obtain ⟨hexchange, hall, hnamed, -, -, -⟩ := perform_comm_of_reachable h
  exact ⟨h, hne, hperm, (hexchange again reset w w hne).1, by rfl,
    hall [9001, 80] (fun _ => w) hperm, hnamed.1.trans hports⟩

end Controller

end MockHttp
