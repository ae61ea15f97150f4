import MockHttp.Proofs.Control.Effect
import MockHttp.Proofs.LastWrite

/-! # The route table behind a history

A route leads to the script of its last successful registration, unless its port was cleared
since. What else happens, and what fails, has no influence on it.
-/

namespace MockHttp.Control

/-- One operation and the surroundings that it meets. -/
abbrev Occurrence := Surroundings × Operation

/-- The operation registers a route, directly or through the control plane, and succeeds. -/
def Registers (c : Controller) (s : Occurrence) (r : Registration) : Prop :=
  s.2.command? = some (.register r) ∧ (c.register s.1 r).2 = .ok ()

def Clears (s : Occurrence) (port : Port) : Prop :=
  s.2.command? = some (.resetPort port) ∨ s.2.command? = some .resetAll

section Step

variable {c : Controller} {s : Occurrence} {r : Registration} {route : Route}

theorem Registers.not_clears (h : Registers c s r) (port : Port) : ¬ Clears s port := by
  obtain ⟨hr, -⟩ := h
  rintro (hc | hc) <;> rw [hr] at hc <;> cases hc

theorem Registers.unique {r' : Registration} (h : Registers c s r) (h' : Registers c s r') :
    r = r' := by
  have he := h.1.symm.trans h'.1
  cases he
  rfl

theorem lookup_perform_of_registers (h : Registers c s r) :
    (s.2.perform c s.1).registry.lookup r.route = some (Script.decode r.entries) := by
  obtain ⟨hr, hok⟩ := h
  rw [registry_perform, hr]
  have hreg := Controller.register_eq_ok_iff.mp hok
  exact (Registry.lookup_of_register hreg r.route).trans (if_pos rfl)

theorem lookup_perform_of_clears (h : Clears s route.port) :
    (s.2.perform c s.1).registry.lookup route = none := by
  rw [registry_perform]
  rcases h with h | h <;> rw [h]
  · exact (Registry.lookup_clearPort ..).trans (if_pos rfl)
  · exact Registry.lookup_clear c.registry route

/-- Other registrations, failed ones, resets of other ports, refused inquiries and mock requests
leave a route as it is. -/
theorem lookup_perform_of_other (hr : ∀ r, Registers c s r → r.route ≠ route)
    (hc : ¬ Clears s route.port) :
    (s.2.perform c s.1).registry.lookup route = c.registry.lookup route := by
  obtain ⟨w, op⟩ := s
  rw [registry_perform]
  cases hcmd : op.command? with
  | none => rfl
  | some cmd =>
    cases cmd with
    | register r =>
      cases hres : (c.register w r).2 with
      | ok u =>
        have hreg := Controller.register_eq_ok_iff.mp hres
        exact (Registry.lookup_of_register hreg route).trans
          (if_neg fun he => hr r ⟨hcmd, hres⟩ he.symm)
      | error e => exact congrArg (·.lookup route) (Controller.registry_register_of_error hres)
    | resetPort port =>
      refine (Registry.lookup_clearPort ..).trans (if_neg fun he => hc ?_)
      exact .inl (he ▸ hcmd)
    | resetAll => exact (hc (.inr hcmd)).elim

/-- What a step writes to a route: a script, or nothing where its port is cleared. -/
inductive WritesRoute (route : Route) (c : Controller) (s : Occurrence) : Option Script → Prop where
  | registered {r : Registration} : Registers c s r → r.route = route →
      WritesRoute route c s (some (Script.decode r.entries))
  | cleared : Clears s route.port → WritesRoute route c s none

theorem WritesRoute.unique {a b : Option Script} (ha : WritesRoute route c s a)
    (hb : WritesRoute route c s b) : a = b := by
  cases ha with
  | registered hr _ =>
    cases hb with
    | registered hr' _ => rw [hr.unique hr']
    | cleared hc => exact (hr.not_clears _ hc).elim
  | cleared hc =>
    cases hb with
    | registered hr _ => exact (hr.not_clears _ hc).elim
    | cleared _ => rfl

theorem lookup_perform_step (route : Route) (c : Controller) (s : Occurrence) :
    WritesRoute route c s ((s.2.perform c s.1).registry.lookup route) ∨
      (∀ v, ¬ WritesRoute route c s v) ∧
        (s.2.perform c s.1).registry.lookup route = c.registry.lookup route := by
  by_cases hc : Clears s route.port
  · left
    rw [lookup_perform_of_clears hc]
    exact .cleared hc
  · by_cases hr : ∃ r, Registers c s r ∧ r.route = route
    · left
      obtain ⟨r, hr, rfl⟩ := hr
      rw [lookup_perform_of_registers hr]
      exact .registered hr rfl
    · right
      have hn : ∀ r, Registers c s r → r.route ≠ route := fun r h he => hr ⟨r, h, he⟩
      refine ⟨fun v hv => ?_, lookup_perform_of_other hn hc⟩
      cases hv with
      | registered h he => exact hn _ h he
      | cleared h => exact hc h

end Step

namespace History

def stateAt (h : History) (k : Nat) : Controller := History.perform {} (h.take k)

def RegistersAt (h : History) (k : Nat) (r : Registration) : Prop :=
  ∃ s, h[k]? = some s ∧ Registers (h.stateAt k) s r

def ClearsAt (h : History) (k : Nat) (port : Port) : Prop := ∃ s, h[k]? = some s ∧ Clears s port

/-- The last successful registration of its route, with no reset of its port behind it. -/
def Keeps (h : History) (r : Registration) : Prop :=
  ∃ k, h.RegistersAt k r ∧ ∀ j, k < j →
    (∀ r', h.RegistersAt j r' → r'.route ≠ r.route) ∧ ¬ h.ClearsAt j r.port

variable {h : History} {route : Route}

theorem lastWrite_lookup (h : History) (route : Route) :
    LastWrite (WritesAt (History.perform {}) (WritesRoute route) h) none
      ((h.perform {}).registry.lookup route) :=
  lastWrite_of_step (fun c : Controller => c.registry.lookup route)
    (fun h s => by rw [History.perform_concat]; exact lookup_perform_step route _ s) h

theorem writesAt_some_iff {k : Nat} {script : Script} :
    WritesAt (History.perform {}) (WritesRoute route) h k (some script) ↔
      ∃ r, h.RegistersAt k r ∧ r.route = route ∧ Script.decode r.entries = script := by
  constructor
  · rintro ⟨s, hs, hw⟩
    cases hw with
    | registered hr he => exact ⟨_, ⟨s, hs, hr⟩, he, rfl⟩
  · rintro ⟨r, ⟨s, hs, hr⟩, he, rfl⟩
    exact ⟨s, hs, .registered hr he⟩

theorem writesAt_none_iff {k : Nat} :
    WritesAt (History.perform {}) (WritesRoute route) h k none ↔ h.ClearsAt k route.port := by
  constructor
  · rintro ⟨s, hs, hw⟩
    cases hw with
    | cleared hc => exact ⟨s, hs, hc⟩
  · rintro ⟨s, hs, hc⟩
    exact ⟨s, hs, .cleared hc⟩

theorem keeps_iff {script : Script} :
    (∃ r, h.Keeps r ∧ r.route = route ∧ Script.decode r.entries = script) ↔
      ∃ k, WritesAt (History.perform {}) (WritesRoute route) h k (some script) ∧
        ∀ j, k < j → ∀ v, ¬ WritesAt (History.perform {}) (WritesRoute route) h j v := by
  constructor
  · rintro ⟨r, ⟨k, hk, hlast⟩, rfl, rfl⟩
    refine ⟨k, writesAt_some_iff.mpr ⟨r, hk, rfl, rfl⟩, fun j hj v hv => ?_⟩
    obtain ⟨hother, hclear⟩ := hlast j hj
    cases v with
    | none => exact hclear (writesAt_none_iff.mp hv)
    | some script =>
      obtain ⟨r', hr', he, -⟩ := writesAt_some_iff.mp hv
      exact hother r' hr' he
  · rintro ⟨k, hk, hlast⟩
    obtain ⟨r, hr, rfl, rfl⟩ := writesAt_some_iff.mp hk
    refine ⟨r, ⟨k, hr, fun j hj => ⟨fun r' hr' he => ?_, fun hc => ?_⟩⟩, rfl, rfl⟩
    · exact hlast j hj _ (writesAt_some_iff.mpr ⟨r', hr', he, rfl⟩)
    · exact hlast j hj none (writesAt_none_iff.mpr hc)

theorem lookup_eq_some_iff {script : Script} :
    (h.perform {}).registry.lookup route = some script ↔
      ∃ r, h.Keeps r ∧ r.route = route ∧ Script.decode r.entries = script := by
  rw [keeps_iff]
  have hw := h.lastWrite_lookup route
  constructor
  · intro he
    rw [he] at hw
    cases hw with
    | written hk hlast => exact ⟨_, hk, hlast⟩
  · rintro ⟨k, hk, hlast⟩
    refine hw.unique (fun j v w hv hv' => ?_) (.written hk hlast)
    obtain ⟨s, hs, hv⟩ := hv
    obtain ⟨s', hs', hv'⟩ := hv'
    cases hs.symm.trans hs'
    exact hv.unique hv'

theorem lookup_eq_none_iff :
    (h.perform {}).registry.lookup route = none ↔ ∀ r, h.Keeps r → r.route ≠ route := by
  rw [Option.eq_none_iff_forall_ne_some]
  constructor
  · intro hn r hr he
    exact hn _ (lookup_eq_some_iff.mpr ⟨r, hr, he, rfl⟩)
  · intro hn script hs
    obtain ⟨r, hr, he, -⟩ := lookup_eq_some_iff.mp hs
    exact hn r hr he

theorem serve_eq (c : Controller) (port : Port) (r : Request) (chance : Chance) :
    (c.serve port r chance).2 =
      match c.registry.lookup ⟨port, r.method, r.path⟩ with
      | some script => script.respond r chance
      | none => .notFound :=
  c.registry.response_serve port r chance

/-- The routes behind any history, and the answers to mock requests, are those of the last
successful registrations. A step that neither registers a route nor clears its port leaves the
route alone. -/
theorem lookup_perform_iff_keeps (h : History) :
    (∀ route script, (h.perform {}).registry.lookup route = some script ↔
      ∃ r, h.Keeps r ∧ r.route = route ∧ Script.decode r.entries = script) ∧
    (∀ route, (h.perform {}).registry.lookup route = none ↔ ∀ r, h.Keeps r → r.route ≠ route) ∧
    (∀ port request chance,
      (∀ r, h.Keeps r → r.route = ⟨port, request.method, request.path⟩ →
        ((h.perform {}).serve port request chance).2 =
          (Script.decode r.entries).respond request chance) ∧
      ((∀ r, h.Keeps r → r.route ≠ ⟨port, request.method, request.path⟩) →
        ((h.perform {}).serve port request chance).2 =
          { status := 404, headers := ∅, body := [] })) ∧
    ∀ s route, (∀ r, Registers (h.perform {}) s r → r.route ≠ route) → ¬ Clears s route.port →
      (History.perform {} (h ++ [s])).registry.lookup route =
        (h.perform {}).registry.lookup route := by
  refine ⟨fun _ _ => lookup_eq_some_iff, fun _ => lookup_eq_none_iff, ?_, ?_⟩
  · intro port request chance
    rw [serve_eq]
    constructor
    · intro r hr he
      rw [lookup_eq_some_iff.mpr ⟨r, hr, he, rfl⟩]
    · intro hn
      rw [lookup_eq_none_iff.mpr hn]
      rfl
  · intro s route hr hc
    rw [History.perform_concat]
    exact lookup_perform_of_other hr hc

end History

end MockHttp.Control
