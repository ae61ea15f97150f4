import MockHttp.Control.Operation

/-! # What operations do to the registry

An operation asks for at most one command, whichever way it takes to the controller, and changes
the registry as that command does. A registration that fails changes nothing.
-/

namespace MockHttp

namespace Registry

variable {reg reg' : Registry} {isFree : Bool} {r : Registration}

/-- What a successful registration has checked and what it leaves behind. -/
theorem register_eq_ok_iff : reg.register isFree r = .ok reg' ↔
    r.port ≠ 0 ∧ (reg.isRunning r.port = true ∨ isFree = true) ∧
      reg' = { routes := reg.routes.insert r.route (Script.decode r.entries),
               listeners := if reg.isRunning r.port then reg.listeners
                 else reg.listeners.insert r.port ⟨r.port⟩ } := by
  unfold register
  by_cases hp : r.port = 0
  · simp [hp]
  · cases hr : reg.isRunning r.port <;> cases isFree <;> simp [hp, eq_comm]

theorem lookup_of_register (h : reg.register isFree r = .ok reg') (route : Route) :
    reg'.lookup route =
      if route = r.route then some (Script.decode r.entries) else reg.lookup route := by
  obtain ⟨-, -, rfl⟩ := register_eq_ok_iff.mp h
  exact Dict.get?_insert ..

theorem lookup_clearPort (reg : Registry) (port : Port) (route : Route) :
    (reg.clearPort port).lookup route =
      if route.port = port then none else reg.lookup route := by
  unfold lookup clearPort
  rw [Dict.get?_filter]
  by_cases h : route.port = port <;> cases reg.routes.get? route <;> simp [h]

theorem lookup_clear (reg : Registry) (route : Route) : reg.clear.lookup route = none := rfl

theorem response_serve (reg : Registry) (port : Port) (r : Request) (chance : Chance) :
    (reg.serve port r chance).response =
      match reg.lookup ⟨port, r.method, r.path⟩ with
      | some script => script.respond r chance
      | none => .notFound := by
  simp only [serve]
  cases reg.lookup ⟨port, r.method, r.path⟩ <;> rfl

end Registry

namespace Controller

theorem result_register (c : Controller) (w : Surroundings) (r : Registration) :
    (c.register w r).2 =
      if r.port = 0 then .error .invalidPort
      else if c.registry.isRunning r.port = true ∨ w.isFree r.port = true then .ok ()
      else .error (.addressInUse r.port) := by
  unfold register Registry.register
  by_cases hp : r.port = 0
  · simp [hp]
  · cases c.registry.isRunning r.port <;> cases w.isFree r.port <;> simp [hp]

theorem register_eq_ok_iff {c : Controller} {w : Surroundings} {r : Registration} :
    (c.register w r).2 = .ok () ↔
      c.registry.register (w.isFree r.port) r = .ok (c.register w r).1.registry := by
  unfold register
  cases c.registry.register (w.isFree r.port) r <;> simp

theorem registry_register_of_error {c : Controller} {w : Surroundings} {r : Registration}
    {e : RegisterError} (h : (c.register w r).2 = .error e) :
    (c.register w r).1.registry = c.registry := by
  unfold register at h ⊢
  cases hr : c.registry.register (w.isFree r.port) r with
  | ok reg => rw [hr] at h; cases h
  | error e' => rfl

end Controller

namespace Control

/-- What an operation asks for. A client asks for what the control plane makes of its request. -/
def Operation.command? : Operation → Option Command
  | register r => some (.register r)
  | resetPort port => some (.resetPort port)
  | resetAll => some .resetAll
  | inquiry q => q.command?.toOption
  | command client cmd =>
    match client.request cmd with
    | .ok (_, out) => (Inquiry.ofOutgoing out).command?.toOption
    | .error _ => none
  | request .. => none

def Command.apply (c : Controller) (w : Surroundings) : Command → Registry
  | register r => (c.register w r).1.registry
  | resetPort port => c.registry.clearPort port
  | resetAll => c.registry.clear

theorem registry_perform_command (c : Controller) (w : Surroundings) (cmd : Command) :
    (Control.perform c w cmd).1.registry = cmd.apply c w := by
  cases cmd <;> rfl

theorem registry_handle (c : Controller) (w : Surroundings) (q : Inquiry) :
    (handle c w q).1.registry =
      match q.command? with
      | .ok cmd => cmd.apply c w
      | .error _ => c.registry := by
  unfold handle
  cases q.command? with
  | ok cmd => exact registry_perform_command c w cmd
  | error refusal => rfl

theorem response_handle {c : Controller} {w : Surroundings} {q : Inquiry} {command : Command}
    (h : q.command? = .ok command) : (handle c w q).2 = (perform c w command).2 := by
  simp [handle, h]

/-- Operations change the registry through their commands only. -/
theorem registry_perform (c : Controller) (w : Surroundings) (op : Operation) :
    (op.perform c w).registry =
      match op.command? with
      | some cmd => cmd.apply c w
      | none => c.registry := by
  cases op with
  | register r => rfl
  | resetPort port => rfl
  | resetAll => rfl
  | inquiry q =>
    simp only [Operation.perform, Operation.command?, registry_handle]
    cases q.command? <;> rfl
  | command client cmd =>
    simp only [Operation.perform, Operation.command?, Client.send]
    cases client.request cmd with
    | error e => rfl
    | ok out =>
      simp only [registry_handle]
      cases (Inquiry.ofOutgoing out.2).command? <;> rfl
  | request port r chance =>
    simp only [Operation.perform, Operation.command?]
    split <;> rfl

theorem History.perform_concat (c : Controller) (h : History) (step : Surroundings × Operation) :
    History.perform c (h ++ [step]) = step.2.perform (h.perform c) step.1 := by
  simp [History.perform]

end Control

end MockHttp
