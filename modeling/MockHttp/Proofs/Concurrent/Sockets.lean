import MockHttp.Proofs.Concurrent.Consistency

/-! # Sockets that outlive their listeners

A reset takes the listener out of the registry at once, but the socket behind it is closed later.
In between, no listener runs on the port and yet it is not free: a registration that comes then
fails, though no other program holds the port. Run one after the other, in either order, the reset
and the registration would both succeed.
-/

namespace MockHttp.Concurrent

namespace World

/-- A server that a reset has taken off the list still holds the port; the reset waits for it. -/
def IsClosing (w : World) (port : Port) : Prop :=
  ∃ (i : Nat) (s : Server) (reset : Reset), w.servers[i]? = some s ∧ s.listed = false ∧
    s.port = port ∧ s.phase.holdsSocket = true ∧
    reset ∈ w.resets ∧ i ∈ reset.servers ∧ reset.returned = false

variable {w w' : World}

theorem isFree_eq_false_iff {port : Port} : w.isFree port = false ↔
    port ∈ w.occupied ∨ ∃ s ∈ w.servers, s.port = port ∧ s.phase.holdsSocket = true := by
  simp only [isFree, Bool.and_eq_false_iff, decide_eq_false_iff_not, not_not,
    Bool.not_eq_eq_eq_not, Bool.not_false, List.any_eq_true, Bool.and_eq_true, beq_iff_eq]

/-- Without a listener, a port is held from outside or by a server on its way out. -/
theorem Consistent.isFree_eq_false_iff (hw : w.Consistent) {port : Port}
    (hport : w.registry.isRunning port = false) :
    w.isFree port = false ↔ port ∈ w.occupied ∨ w.IsClosing port := by
  rw [World.isFree_eq_false_iff]
  refine or_congr_right ⟨?_, ?_⟩
  · rintro ⟨s, hmem, rfl, hsocket⟩
    obtain ⟨i, hs⟩ := List.getElem?_of_mem hmem
    have hlisted : s.listed = false := Bool.eq_false_iff.mpr fun h =>
      Bool.false_ne_true (hport.symm.trans ((hw.isRunning_iff s.port).mpr ⟨i, s, hs, h, rfl⟩))
    obtain ⟨reset, hr, hi⟩ := hw.reset_of_delisted hs hlisted
    have hreturned : reset.returned = false := by
      refine Bool.eq_false_iff.mpr fun h => ?_
      obtain ⟨t, forced, ht, hp⟩ := hw.stopped_of_returned hr h i hi
      cases hs.symm.trans ht
      simp [hp, Phase.holdsSocket] at hsocket
    exact ⟨i, s, reset, hs, hlisted, rfl, hsocket, hr, hi, hreturned⟩
  · rintro ⟨i, s, -, hs, -, hport, hsocket, -⟩
    exact ⟨s, List.mem_of_getElem? hs, hport, hsocket⟩

theorem results_register (w : World) (r : Registration) : (w.register r).results =
    w.results ++ [(w.registry.register (w.isFree r.port) r).map fun _ => ()] := by
  simp only [World.register]
  split
  · next h => rw [h]; rfl
  · next h => rw [h]; rfl

theorem register_addressInUse {w : World} {r : Registration} :
    (w.register r).results = w.results ++ [.error (.addressInUse r.port)] ↔
      r.port ≠ 0 ∧ w.registry.isRunning r.port = false ∧ w.isFree r.port = false := by
  rw [results_register, List.append_cancel_left_eq, Registry.register]
  by_cases hp : r.port = 0
  · simp [hp, Except.map]
  · cases w.registry.isRunning r.port <;> cases w.isFree r.port <;> simp [hp, Except.map]

theorem Step.occupied {a : Action} (h : Step w a w') : w'.occupied = w.occupied := by
  cases h with
  | register r =>
    simp only [World.register]
    split <;> rfl
  | _ => rfl

end World

open World

theorem Run.occupied_eq {run : Run} {k : Nat} {w : World} (h : run.at? k = some w) :
    w.occupied = run.occupied :=
  Run.persists (Q := fun w => w.occupied = run.occupied) (fun hs hw => hs.occupied.trans hw)
    (Nat.zero_le k) at?_zero h rfl

/-- Behind any run, a registration finds the address in use exactly if no listener runs on its
port and the port is held by another program, or by a server that a reset has removed and has not
seen closed yet. -/
theorem Run.register_addressInUse_iff (run : Run) (r : Registration) :
    (run.final.register r).results = run.final.results ++ [.error (.addressInUse r.port)] ↔
      r.port ≠ 0 ∧ run.final.registry.isRunning r.port = false ∧
        (r.port ∈ run.occupied ∨ run.final.IsClosing r.port) := by
  have hw : run.final.Consistent := Run.consistent run.at?_length
  rw [register_addressInUse, ← Run.occupied_eq run.at?_length]
  exact and_congr_right fun _ => and_congr_right fun hport => hw.isFree_eq_false_iff hport

/-- No other program holds a port. A registration between the two halves of a reset of its port
fails, but in front of the reset and behind it, it succeeds. -/
theorem register_amid_reset :
    let hello : Registration := { port := 9001, method := "GET", path := "/hello", entries := [] }
    let stop : List Action := [.tell 0, .close 0, .drain 0, .conclude 0]
    let results (actions : List Action) := ((fresh []).run? actions).map World.results
    results ([.register hello, .detach 9001, .register hello] ++ stop) =
        some [.ok (), .error (.addressInUse 9001)] ∧
      results ([.register hello, .register hello, .detach 9001] ++ stop) = some [.ok (), .ok ()] ∧
      results ([.register hello, .detach 9001] ++ stop ++ [.register hello]) =
        some [.ok (), .ok ()] :=
  ⟨rfl, rfl, rfl⟩

end MockHttp.Concurrent
