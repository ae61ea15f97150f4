import MockHttp.Proofs.Control.Effect

/-! # Listeners and routes agree

A listener runs on exactly the ports that have a route. Registering a route, clearing a port and
clearing everything keep it so, and so does every operation on a controller, whether it succeeds
or not.
-/

namespace MockHttp

namespace Registry

def HasRoute (reg : Registry) (port : Port) : Prop :=
  ∃ route script, reg.lookup route = some script ∧ route.port = port

/-- Listeners stand under their own ports, which are the ports of the routes and never 0. -/
structure Coherent (reg : Registry) : Prop where
  isRunning_iff (port : Port) : reg.isRunning port = true ↔ reg.HasRoute port
  not_isRunning_zero : reg.isRunning 0 = false
  port_of_listener {port : Port} {listener : Listener} :
    reg.listeners.get? port = some listener → listener.port = port

variable {reg reg' : Registry} {isFree : Bool} {r : Registration}

theorem mem_ports_iff {port : Port} : port ∈ reg.ports ↔ reg.isRunning port = true :=
  Dict.mem_keys_iff

theorem ports_ascending (reg : Registry) : reg.ports.Pairwise (· < ·) :=
  reg.listeners.pairwise_keys.imp fun h => Std.compare_eq_lt.mp h

/-! ## Listeners behind a change -/

theorem isRunning_of_register (h : reg.register isFree r = .ok reg') (port : Port) :
    reg'.isRunning port = true ↔ port = r.port ∨ reg.isRunning port = true := by
  obtain ⟨-, -, rfl⟩ := register_eq_ok_iff.mp h
  cases hr : reg.isRunning r.port with
  | false =>
    by_cases hp : port = r.port <;> simp [isRunning, Dict.contains, hp]
  | true =>
    simp only [if_true]
    constructor
    · exact .inr
    · rintro (rfl | hp)
      · exact hr
      · exact hp

theorem isRunning_clearPort (reg : Registry) (port other : Port) :
    (reg.clearPort port).isRunning other = true ↔
      other ≠ port ∧ reg.isRunning other = true := by
  by_cases h : other = port <;> simp [isRunning, clearPort, Dict.contains, h]

/-! ## Routes behind a change -/

theorem hasRoute_of_register (h : reg.register isFree r = .ok reg') (port : Port) :
    reg'.HasRoute port ↔ port = r.port ∨ reg.HasRoute port := by
  have hl := lookup_of_register h
  constructor
  · rintro ⟨route, script, hs, rfl⟩
    rw [hl] at hs
    split at hs
    · next he => exact .inl (congrArg Route.port he)
    · exact .inr ⟨route, script, hs, rfl⟩
  · rintro (rfl | ⟨route, script, hs, rfl⟩)
    · exact ⟨r.route, _, (hl r.route).trans (if_pos rfl), rfl⟩
    · by_cases he : route = r.route
      · exact ⟨route, _, (hl route).trans (if_pos he), rfl⟩
      · exact ⟨route, script, (hl route).trans ((if_neg he).trans hs), rfl⟩

theorem hasRoute_clearPort (reg : Registry) (port other : Port) :
    (reg.clearPort port).HasRoute other ↔ other ≠ port ∧ reg.HasRoute other := by
  constructor
  · rintro ⟨route, script, hs, rfl⟩
    rw [lookup_clearPort] at hs
    split at hs
    · cases hs
    · next hne => exact ⟨hne, route, script, hs, rfl⟩
  · rintro ⟨hne, route, script, hs, rfl⟩
    exact ⟨route, script, (lookup_clearPort ..).trans ((if_neg hne).trans hs), rfl⟩

/-! ## What keeps a registry coherent -/

namespace Coherent

theorem empty : ({} : Registry).Coherent where
  isRunning_iff port := by
    constructor
    · intro h
      cases h
    · rintro ⟨_, _, h, -⟩
      cases h
  not_isRunning_zero := rfl
  port_of_listener h := by cases h

theorem register (hc : reg.Coherent) (h : reg.register isFree r = .ok reg') :
    reg'.Coherent where
  isRunning_iff port := by
    rw [isRunning_of_register h, hasRoute_of_register h, hc.isRunning_iff]
  not_isRunning_zero := by
    obtain ⟨hp, -, -⟩ := register_eq_ok_iff.mp h
    rw [Bool.eq_false_iff, ne_eq, isRunning_of_register h]
    rintro (h0 | h0)
    · exact hp h0.symm
    · exact Bool.false_ne_true (hc.not_isRunning_zero.symm.trans h0)
  port_of_listener {port listener} hl := by
    obtain ⟨-, -, rfl⟩ := register_eq_ok_iff.mp h
    cases hr : reg.isRunning r.port with
    | true => exact hc.port_of_listener (by simpa [hr] using hl)
    | false =>
      simp only [hr, Bool.false_eq_true, if_false, Dict.get?_insert] at hl
      split at hl
      · next hp => cases hl; exact hp.symm
      · exact hc.port_of_listener hl

theorem clearPort (hc : reg.Coherent) (port : Port) : (reg.clearPort port).Coherent where
  isRunning_iff other := by
    rw [isRunning_clearPort, hasRoute_clearPort, hc.isRunning_iff]
  not_isRunning_zero := by
    rw [Bool.eq_false_iff, ne_eq, isRunning_clearPort, hc.not_isRunning_zero]
    exact fun h => Bool.false_ne_true h.2
  port_of_listener {other listener} hl := by
    simp only [Registry.clearPort, Dict.get?_erase] at hl
    split at hl
    · cases hl
    · exact hc.port_of_listener hl

end Coherent

end Registry

namespace Control

open Registry

variable {c : Controller}

theorem coherent_apply (hc : c.registry.Coherent) (w : Surroundings) (cmd : Command) :
    (cmd.apply c w).Coherent := by
  cases cmd with
  | register r =>
    cases hres : (c.register w r).2 with
    | ok u => exact hc.register (Controller.register_eq_ok_iff.mp hres)
    | error e =>
      have he : Command.apply c w (.register r) = c.registry :=
        Controller.registry_register_of_error hres
      exact he ▸ hc
  | resetPort port => exact hc.clearPort port
  | resetAll => exact .empty

theorem coherent_perform (hc : c.registry.Coherent) (w : Surroundings) (op : Operation) :
    (op.perform c w).registry.Coherent := by
  rw [registry_perform]
  cases op.command? with
  | none => exact hc
  | some cmd => exact coherent_apply hc w cmd

theorem History.coherent_perform (h : History) (hc : c.registry.Coherent) :
    (h.perform c).registry.Coherent := by
  induction h generalizing c with
  | nil => exact hc
  | cons s h ih => exact ih (Control.coherent_perform hc s.1 s.2)

/-- The registry of a reachable controller is coherent, so that no route is stored for port 0, and
the ports that are listed are those of the routes in strictly ascending order. -/
theorem coherent_of_reachable (h : Reachable c) :
    c.registry.Coherent ∧ (∀ route, route.port = 0 → c.registry.lookup route = none) ∧
      (∀ port, port ∈ c.registry.ports ↔ c.registry.HasRoute port) ∧
      c.registry.ports.Pairwise (· < ·) := by
  obtain ⟨history, rfl⟩ := h
  have hc : (history.perform {}).registry.Coherent := history.coherent_perform .empty
  refine ⟨hc, fun route h0 => ?_, fun port => ?_, ports_ascending _⟩
  · rw [Option.eq_none_iff_forall_ne_some]
    intro script hs
    have hrun := (hc.isRunning_iff 0).mpr ⟨route, script, hs, h0⟩
    exact Bool.false_ne_true (hc.not_isRunning_zero.symm.trans hrun)
  · rw [mem_ports_iff, hc.isRunning_iff]

/-- Routes on two ports, a port that is taken by another program, port 0, and a reset. -/
def mixedHistory : History :=
  let free : Surroundings := { isFree := fun _ => true }
  [(free, .register ⟨9001, "GET", "/a", []⟩), (free, .register ⟨80, "GET", "/b", []⟩),
    ({ isFree := fun _ => false }, .register ⟨81, "GET", "/c", []⟩),
    (free, .register ⟨0, "GET", "/d", []⟩), (free, .register ⟨9002, "GET", "/e", []⟩),
    (free, .resetPort 9002)]

theorem coherent_behind_mixedHistory :
    Reachable (mixedHistory.perform {}) ∧ (mixedHistory.perform {}).registry.ports = [80, 9001] ∧
      (mixedHistory.perform {}).registry.Coherent := by
  have h : Reachable (mixedHistory.perform {}) := ⟨mixedHistory, rfl⟩
  exact ⟨h, by decide, (coherent_of_reachable h).1⟩

end Control

end MockHttp
