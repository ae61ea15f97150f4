import MockHttp.Proofs.Concurrent.Run
import MockHttp.Proofs.Control.Listeners

/-! # Registry, servers and requests agree

A listener runs where a serving server is listed. A server that is no longer listed belongs to a
reset, the reset returns only when the server is done, and a server that is done has no request
left. Every step keeps it so.
-/

namespace MockHttp.Concurrent

namespace World

def Idle (w : World) (server : Nat) : Prop :=
  ∀ e ∈ w.exchanges, e.server = server → e.progress.isPending = false

theorem isBusy_eq_false_iff {w : World} {server : Nat} :
    w.isBusy server = false ↔ w.Idle server := by
  simp [isBusy, Idle]

def Stopped (w : World) (server : Nat) : Prop :=
  ∃ s forced, w.servers[server]? = some s ∧ s.phase = .stopped forced

theorem isOver_iff {w : World} {reset : Reset} :
    w.isOver reset = true ↔ ∀ i ∈ reset.servers, w.Stopped i := by
  rw [isOver, List.all_eq_true]
  refine forall₂_congr fun i _ => ?_
  constructor
  · intro h
    split at h
    · next hs => exact ⟨_, _, hs, rfl⟩
    · cases h
  · rintro ⟨⟨port, listed, phase⟩, forced, hs, rfl⟩
    rw [hs]

/-- The registry, the servers, the requests and the resets agree. -/
structure Consistent (w : World) : Prop where
  serving_of_listed {i : Nat} {s : Server} :
    w.servers[i]? = some s → s.listed = true → s.phase = .serving
  isRunning_iff (port : Port) : w.registry.isRunning port = true ↔
    ∃ (i : Nat) (s : Server), w.servers[i]? = some s ∧ s.listed = true ∧ s.port = port
  reset_of_delisted {i : Nat} {s : Server} :
    w.servers[i]? = some s → s.listed = false → ∃ reset ∈ w.resets, i ∈ reset.servers
  stopped_of_returned {reset : Reset} : reset ∈ w.resets → reset.returned = true →
    ∀ i ∈ reset.servers, w.Stopped i
  idle_of_stopped {i : Nat} : w.Stopped i → w.Idle i

namespace Consistent

variable {w w' : World}

theorem fresh (occupied : List Port) : (World.fresh occupied).Consistent where
  serving_of_listed h := by cases h
  isRunning_iff port := by
    constructor
    · intro h
      cases h
    · rintro ⟨i, s, h, -⟩
      cases h
  reset_of_delisted h := by cases h
  stopped_of_returned h := by cases h
  idle_of_stopped h := by
    obtain ⟨s, forced, h, -⟩ := h
    cases h

/-! ## Registrations and resets -/

theorem with_results (hw : w.Consistent) (results : List (Except RegisterError Unit)) :
    ({ w with results } : World).Consistent :=
  { hw with }

theorem start (hw : w.Consistent) {registry : Registry} {port : Port}
    (h : ∀ other, registry.isRunning other = true ↔
      other = port ∨ w.registry.isRunning other = true) :
    ({ w with registry, servers := w.servers ++ [{ port := port }] } : World).Consistent := by
  constructor
  case serving_of_listed =>
    intro i s hs hlisted
    rcases getElem?_concat hs with hs | rfl
    · exact hw.serving_of_listed hs hlisted
    · rfl
  case isRunning_iff =>
    intro other
    rw [h, hw.isRunning_iff]
    constructor
    · rintro (rfl | ⟨i, s, hs, hrest⟩)
      · exact ⟨_, _, List.getElem?_concat_length, rfl, rfl⟩
      · exact ⟨i, s, getElem?_append_of_some hs _, hrest⟩
    · rintro ⟨i, s, hs, hlisted, hport⟩
      rcases getElem?_concat hs with hs | rfl
      · exact .inr ⟨i, s, hs, hlisted, hport⟩
      · exact .inl hport.symm
  case reset_of_delisted =>
    intro i s hs hlisted
    rcases getElem?_concat hs with hs | rfl
    · exact hw.reset_of_delisted hs hlisted
    · cases hlisted
  case stopped_of_returned =>
    intro reset hr hreturned i hi
    obtain ⟨s, forced, hs, hp⟩ := hw.stopped_of_returned hr hreturned i hi
    exact ⟨s, forced, getElem?_append_of_some hs _, hp⟩
  case idle_of_stopped =>
    rintro i ⟨s, forced, hs, hp⟩
    rcases getElem?_concat hs with hs | rfl
    · exact hw.idle_of_stopped ⟨s, forced, hs, hp⟩
    · cases hp

theorem register (hw : w.Consistent) (r : Registration) : (w.register r).Consistent := by
  simp only [World.register]
  split
  · exact hw.with_results _
  · next registry hreg =>
    have hrunning := Registry.isRunning_of_register hreg
    cases hr : w.registry.isRunning r.port with
    | true =>
      have hsame : ∀ port, registry.isRunning port = true ↔ w.registry.isRunning port = true :=
        fun port => (hrunning port).trans (or_iff_right_of_imp fun hport => hport ▸ hr)
      rw [if_pos rfl, List.append_nil]
      exact { hw with isRunning_iff := fun port => (hsame port).trans (hw.isRunning_iff port) }
    | false => exact (hw.start hrunning).with_results _

theorem detachWhere (hw : w.Consistent) {registry : Registry} {stops : Port → Bool}
    (h : ∀ port, registry.isRunning port = true ↔
      stops port = false ∧ w.registry.isRunning port = true) :
    (w.detachWhere registry stops).Consistent := by
  have stopped_iff : ∀ {i : Nat}, (w.detachWhere registry stops).Stopped i ↔ w.Stopped i := by
    intro i
    simp only [Stopped, getElem?_detachWhere, Option.map_eq_some_iff]
    constructor
    · rintro ⟨-, forced, ⟨s, hs, rfl⟩, hp⟩
      exact ⟨s, forced, hs, by split at hp <;> exact hp⟩
    · rintro ⟨s, forced, hs, hp⟩
      exact ⟨_, forced, ⟨s, hs, rfl⟩, by split <;> exact hp⟩
  constructor
  case serving_of_listed =>
    intro i s hs hlisted
    rw [getElem?_detachWhere] at hs
    obtain ⟨s, hold, rfl⟩ := Option.map_eq_some_iff.mp hs
    split at hlisted
    · cases hlisted
    · next hstays =>
      rw [if_neg hstays]
      exact hw.serving_of_listed hold hlisted
  case isRunning_iff =>
    intro port
    refine (h port).trans ?_
    rw [hw.isRunning_iff]
    simp only [getElem?_detachWhere, Option.map_eq_some_iff]
    constructor
    · rintro ⟨hstops, i, s, hs, hlisted, rfl⟩
      exact ⟨i, s, ⟨s, hs, if_neg (by simp [hstops])⟩, hlisted, rfl⟩
    · rintro ⟨i, -, ⟨s, hs, rfl⟩, hlisted, rfl⟩
      split at hlisted
      · cases hlisted
      · next hstays =>
        rw [if_neg hstays]
        have hstops : stops s.port = false := by simpa [hlisted] using hstays
        exact ⟨hstops, i, s, hs, hlisted, rfl⟩
  case reset_of_delisted =>
    intro i s hs hlisted
    rw [getElem?_detachWhere] at hs
    obtain ⟨s, hold, rfl⟩ := Option.map_eq_some_iff.mp hs
    rw [resets_detachWhere]
    split at hlisted
    · next hleaves =>
      exact ⟨_, List.mem_concat_self, mem_detached_iff.mpr ⟨s, hold, hleaves⟩⟩
    · obtain ⟨reset, hr, hi⟩ := hw.reset_of_delisted hold hlisted
      exact ⟨reset, List.mem_append_left _ hr, hi⟩
  case stopped_of_returned =>
    intro reset hr hreturned i hi
    rw [resets_detachWhere, List.mem_append, List.mem_singleton] at hr
    rcases hr with hr | rfl
    · exact stopped_iff.mpr (hw.stopped_of_returned hr hreturned i hi)
    · cases hreturned
  case idle_of_stopped =>
    intro i hi
    exact hw.idle_of_stopped (stopped_iff.mp hi)

/-! ## The end of a server -/

theorem setPhase (hw : w.Consistent) {i : Nat} {s : Server} {phase : Phase}
    (hs : w.servers[i]? = some s) (hlisted : s.listed = false) (hrunning : ¬ w.Stopped i)
    (hidle : ∀ forced, phase = .stopped forced → w.Idle i) : (w.setPhase i phase).Consistent := by
  have other : ∀ {j : Nat}, j ≠ i → (w.setPhase i phase).servers[j]? = w.servers[j]? := by
    intro j hj
    rw [getElem?_setPhase]
    simp [hj.symm]
  have own : (w.setPhase i phase).servers[i]? = some { s with phase } := by
    rw [getElem?_setPhase, hs]
    simp
  constructor
  case serving_of_listed =>
    intro j t ht ht'
    by_cases hj : j = i
    · subst hj
      cases own.symm.trans ht
      exact (Bool.false_ne_true (hlisted.symm.trans ht')).elim
    · exact hw.serving_of_listed ((other hj).symm.trans ht) ht'
  case isRunning_iff =>
    intro port
    refine (hw.isRunning_iff port).trans ?_
    refine exists_congr fun j => ?_
    by_cases hj : j = i
    · subst hj
      simp [own, hs, hlisted]
    · rw [other hj]
  case reset_of_delisted =>
    intro j t ht ht'
    by_cases hj : j = i
    · subst hj
      exact hw.reset_of_delisted hs hlisted
    · exact hw.reset_of_delisted ((other hj).symm.trans ht) ht'
  case stopped_of_returned =>
    intro reset hr hreturned j hj
    have hstopped := hw.stopped_of_returned hr hreturned j hj
    have hne : j ≠ i := fun h => hrunning (h ▸ hstopped)
    obtain ⟨t, forced, ht, hp⟩ := hstopped
    exact ⟨t, forced, (other hne).trans ht, hp⟩
  case idle_of_stopped =>
    rintro j ⟨t, forced, ht, hp⟩
    by_cases hj : j = i
    · subst hj
      cases own.symm.trans ht
      exact hidle forced hp
    · exact hw.idle_of_stopped ⟨t, forced, (other hj).symm.trans ht, hp⟩

/-- A reset returns when all its servers are done. -/
theorem conclude (hw : w.Consistent) {n : Nat} {reset : Reset} (hr : w.resets[n]? = some reset)
    (hover : w.isOver reset = true) :
    ({ w with resets := w.resets.set n { reset with returned := true } } : World).Consistent where
  serving_of_listed := hw.serving_of_listed
  isRunning_iff := hw.isRunning_iff
  reset_of_delisted {i _} hs hlisted := by
    obtain ⟨other, hother, hi⟩ := hw.reset_of_delisted hs hlisted
    obtain ⟨m, hm⟩ := List.getElem?_of_mem hother
    by_cases hmn : n = m
    · subst hmn
      cases hr.symm.trans hm
      have hn := (List.getElem?_eq_some_iff.mp hr).1
      exact ⟨_, List.mem_of_getElem? (List.getElem?_set_self hn), hi⟩
    · exact ⟨other, List.mem_of_getElem? ((List.getElem?_set_ne hmn).trans hm), hi⟩
  stopped_of_returned hmem hreturned := by
    rcases List.mem_or_eq_of_mem_set hmem with hmem | rfl
    · exact hw.stopped_of_returned hmem hreturned
    · exact isOver_iff.mp hover
  idle_of_stopped := hw.idle_of_stopped

/-! ## Requests -/

theorem with_exchanges (hw : w.Consistent) {exchanges : List Exchange}
    (h : ∀ i, w.Stopped i → ({ w with exchanges } : World).Idle i) :
    ({ w with exchanges } : World).Consistent :=
  { hw with idle_of_stopped := h _ }

theorem accept (hw : w.Consistent) {i : Nat} (hrunning : ¬ w.Stopped i) :
    ({ w with exchanges := w.exchanges ++ [{ server := i }] } : World).Consistent := by
  refine hw.with_exchanges fun j hj e he hserver => ?_
  rcases List.mem_append.mp he with he | he
  · exact hw.idle_of_stopped hj e he hserver
  · cases List.mem_singleton.mp he
    cases hserver
    exact (hrunning hj).elim

theorem setProgress (hw : w.Consistent) {i : Nat} {e : Exchange} (he : w.exchanges[i]? = some e)
    (hpending : e.progress.isPending = true) (progress : Progress) :
    (w.setProgress i progress).Consistent := by
  refine hw.with_exchanges fun j hj e' he' hserver => ?_
  obtain ⟨m, hm⟩ := List.getElem?_of_mem he'
  rw [← World.setProgress, getElem?_setProgress] at hm
  obtain ⟨old, hold, rfl⟩ := Option.map_eq_some_iff.mp hm
  have hidle := hw.idle_of_stopped hj old (List.mem_of_getElem? hold)
  by_cases him : i = m
  · subst him
    cases he.symm.trans hold
    rw [if_pos rfl] at hserver
    exact (Bool.false_ne_true ((hidle hserver).symm.trans hpending)).elim
  · rw [if_neg him] at hserver ⊢
    exact hidle hserver

theorem idle_abort (w : World) (i : Nat) : (w.abort i).Idle i := by
  intro e he hserver
  obtain ⟨old, -, rfl⟩ := List.mem_map.mp he
  split
  · rfl
  · next hstays =>
    rw [if_neg hstays] at hserver
    simpa [hserver] using hstays

theorem abort (hw : w.Consistent) (i : Nat) : (w.abort i).Consistent := by
  refine hw.with_exchanges fun j hj e he hserver => ?_
  obtain ⟨old, hold, rfl⟩ := List.mem_map.mp he
  split
  · rfl
  · next hstays =>
    rw [if_neg hstays] at hserver
    exact hw.idle_of_stopped hj old hold hserver

/-! ## Every step -/

theorem not_stopped {i : Nat} {s : Server} (hs : w.servers[i]? = some s)
    (hphase : ∀ forced, s.phase ≠ .stopped forced) : ¬ w.Stopped i := by
  rintro ⟨t, forced, ht, hp⟩
  cases hs.symm.trans ht
  exact hphase forced hp

theorem not_listed (hw : w.Consistent) {i : Nat} {s : Server} (hs : w.servers[i]? = some s)
    (hphase : s.phase ≠ .serving) : s.listed = false :=
  Bool.eq_false_iff.mpr fun h => hphase (hw.serving_of_listed hs h)

theorem step (hw : w.Consistent) {a : Action} (h : Step w a w') : w'.Consistent := by
  cases h with
  | register r => exact hw.register r
  | detach port =>
    refine hw.detachWhere fun other => ?_
    rw [Registry.isRunning_clearPort, beq_eq_false_iff_ne]
  | detachAll =>
    refine hw.detachWhere fun port => ?_
    simp [Registry.isRunning, Registry.clear, Dict.contains]
  | tell hs hlisted hphase =>
    refine hw.setPhase hs hlisted (not_stopped hs ?_) ?_ <;> simp [hphase]
  | close hs hphase =>
    refine hw.setPhase hs (hw.not_listed hs ?_) (not_stopped hs ?_) ?_ <;> simp [hphase]
  | accept hs hsocket =>
    refine hw.accept (not_stopped hs ?_)
    intro forced hp
    simp [hp, Phase.holdsSocket] at hsocket
  | dispatch r chance he hs => exact hw.setProgress he rfl _
  | answer he => exact hw.setProgress he rfl _
  | drain hs hphase hbusy =>
    refine hw.setPhase hs (hw.not_listed hs ?_) (not_stopped hs ?_)
      fun _ _ => isBusy_eq_false_iff.mp hbusy <;> simp [hphase]
  | @expire i s hs hphase hbusy =>
    have hlisted : s.listed = false := hw.not_listed hs (by simp [hphase])
    have hrunning : ¬ (w.abort i).Stopped i := not_stopped hs (by simp [hphase])
    exact (hw.abort i).setPhase hs hlisted hrunning fun _ _ => idle_abort w i
  | conclude hr hover => exact hw.conclude hr hover

end Consistent

end World

theorem Run.consistent {run : Run} {k : Nat} {w : World} (h : run.at? k = some w) :
    w.Consistent :=
  Run.invariant World.Consistent.fresh (fun hs hw => hw.step hs) h

end MockHttp.Concurrent
