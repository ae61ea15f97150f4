import MockHttp.Proofs.Concurrent.Sockets
import MockHttp.Session

/-! # Operations that nothing interrupts

A reset is cut into many steps, but if no other operation begins between the first and the last of
them, it does to the registry what the controller does at once. So operations that come one after
the other lead to the registry that a session with the same operations has, whatever requests come
and go meanwhile.
-/

namespace MockHttp.Concurrent

open Control

def Action.isOperation : Action → Bool
  | register _ | detach _ | detachAll => true
  | _ => false

namespace World

/-- No reset is under way. -/
structure Settled (w : World) : Prop where
  consistent : w.Consistent
  stopped {i : Nat} {s : Server} : w.servers[i]? = some s → s.listed = false → w.Stopped i

/-- The action begins a reset, and no operation begins before the reset is over. -/
def Uninterrupted (w : World) (first : Action) (w' : World) : Prop :=
  ∃ between : List Action, (∀ a ∈ between, a.isOperation = false) ∧
    w.run? (first :: between ++ [.conclude w.resets.length]) = some w'

def wasForced (w : World) (server : Nat) : Bool :=
  (w.servers[server]?).any fun s => s.phase == .stopped true

variable {w w' u v : World} {a first : Action} {i : Nat} {port : Port}

/-! ## Steps that begin no operation -/

theorem Step.registry (h : Step w a w') (ha : a.isOperation = false) :
    w'.registry = w.registry := by
  cases h with
  | register | detach | detachAll => cases ha
  | _ => rfl

theorem Step.stopped (h : Step w a w') (hi : w.Stopped i) : w'.Stopped i := by
  obtain ⟨s, forced, hs, hp⟩ := hi
  have of_setPhase {j : Nat} {t : Server} {phase : Phase} {exchanges : List Exchange}
      (ht : w.servers[j]? = some t) (hphase : t.phase ≠ .stopped forced) :
      (({ w with exchanges } : World).setPhase j phase).Stopped i := by
    refine ⟨s, forced, ?_, hp⟩
    rw [getElem?_setPhase, hs, Option.map_some, if_neg]
    rintro rfl
    cases hs.symm.trans ht
    exact hphase hp
  cases h with
  | register r => exact ⟨s, forced, getElem?_register_of_some hs r, hp⟩
  | detach | detachAll =>
    refine ⟨_, forced, by rw [getElem?_detachWhere, hs, Option.map_some], ?_⟩
    split <;> exact hp
  | tell ht _ hphase | close ht hphase | drain ht hphase | expire ht hphase =>
    exact of_setPhase ht (by simp [hphase])
  | accept | dispatch | answer | conclude => exact ⟨s, forced, hs, hp⟩

theorem Step.reset (h : Step w a w') {n : Nat} {reset : Reset} (hr : w.resets[n]? = some reset) :
    ∃ reset', w'.resets[n]? = some reset' ∧ reset'.servers = reset.servers := by
  cases h with
  | register r =>
    refine ⟨reset, ?_, rfl⟩
    simp only [World.register]
    split <;> exact hr
  | detach | detachAll =>
    exact ⟨reset, (List.getElem?_append_left (List.getElem?_eq_some_iff.mp hr).1).trans hr, rfl⟩
  | @conclude m other hother hover =>
    by_cases hm : m = n
    · subst hm
      cases hr.symm.trans hother
      exact ⟨_, List.getElem?_set_self (List.getElem?_eq_some_iff.mp hr).1, rfl⟩
    · exact ⟨reset, (List.getElem?_set_ne hm).trans hr, rfl⟩
  | tell | close | accept | dispatch | answer | drain | expire => exact ⟨reset, hr, rfl⟩

theorem Step.listed (h : Step w a w') (ha : a.isOperation = false) {s' : Server}
    (hs : w'.servers[i]? = some s') (hlisted : s'.listed = false) :
    ∃ s, w.servers[i]? = some s ∧ s.listed = false := by
  rcases h.delisted hs hlisted with hbefore | ⟨n, s, hremoves⟩
  · exact hbefore
  · rcases hremoves.action with rfl | rfl <;> cases ha

theorem run?_cons (actions : List Action) :
    w.run? (a :: actions) = (w.step? a).bind fun u => u.run? actions := rfl

theorem run?_append (actions rest : List Action) :
    w.run? (actions ++ rest) = (w.run? actions).bind fun u => u.run? rest := by
  simp only [run?, List.foldlM_append]
  rfl

theorem run?_keeps {Q : World → Prop} {actions : List Action}
    (keep : ∀ {w a w'}, Step w a w' → a.isOperation = false → Q w → Q w')
    (hactions : ∀ a ∈ actions, a.isOperation = false) (hrun : w.run? actions = some w')
    (hw : Q w) : Q w' := by
  induction actions generalizing w with
  | nil =>
    cases hrun
    exact hw
  | cons a actions ih =>
    rw [run?_cons] at hrun
    obtain ⟨u, hu, hrest⟩ := Option.bind_eq_some_iff.mp hrun
    have ha := hactions a List.mem_cons_self
    exact ih (fun b hb => hactions b (List.mem_cons_of_mem a hb)) hrest
      (keep (step_of_step? hu) ha hw)

theorem exists_reset_of_run? {actions : List Action} {n : Nat} {reset : Reset}
    (hactions : ∀ a ∈ actions, a.isOperation = false) (hrun : w.run? actions = some w')
    (hr : w.resets[n]? = some reset) :
    ∃ reset', w'.resets[n]? = some reset' ∧ reset'.servers = reset.servers := by
  refine run?_keeps (Q := fun u => ∃ reset', u.resets[n]? = some reset' ∧
    reset'.servers = reset.servers) ?_ hactions hrun ⟨reset, hr, rfl⟩
  rintro u a u' hs - ⟨between, hbetween, hsame⟩
  obtain ⟨reset', hr', hservers⟩ := hs.reset hbetween
  exact ⟨reset', hr', hservers.trans hsame⟩

theorem Step.stopped_of_conclude {n : Nat} {reset : Reset} (h : Step w (.conclude n) w')
    (hr : w.resets[n]? = some reset) : ∀ i ∈ reset.servers, w'.Stopped i := by
  cases h with
  | conclude hr' hover =>
    cases hr.symm.trans hr'
    exact isOver_iff.mp hover

/-! ## A reset from its first step to its last -/

section Reset

variable {registry : Registry} {stops : Port → Bool}

theorem exists_or_mem_detached {s' : Server}
    (hs : (w.detachWhere registry stops).servers[i]? = some s') (hlisted : s'.listed = false) :
    (∃ s, w.servers[i]? = some s ∧ s.listed = false) ∨ i ∈ w.detached stops := by
  rw [getElem?_detachWhere] at hs
  obtain ⟨s, hbefore, rfl⟩ := Option.map_eq_some_iff.mp hs
  split at hlisted
  · next hleaves => exact .inr (mem_detached_iff.mpr ⟨s, hbefore, hleaves⟩)
  · exact .inl ⟨s, hbefore, hlisted⟩

/-- The registry is as the first step has left it, and no server that it removed is left. -/
theorem Settled.uninterrupted (hw : w.Settled)
    (hfirst : w.step? first = some (w.detachWhere registry stops))
    (h : w.Uninterrupted first w') :
    w'.Settled ∧ w'.registry = registry ∧ w'.occupied = w.occupied ∧
      ∀ i ∈ w.detached stops, w'.Stopped i := by
  obtain ⟨between, hbetween, hrun⟩ := h
  rw [List.cons_append, run?_cons, hfirst, Option.bind_some, run?_append] at hrun
  obtain ⟨v, hv, hlast⟩ := Option.bind_eq_some_iff.mp hrun
  have hlast : Step v (.conclude w.resets.length) w' := by
    rw [run?_cons, Option.bind_eq_some_iff] at hlast
    obtain ⟨_, hstep, hsame⟩ := hlast
    cases hsame
    exact step_of_step? hstep
  have hbegin := step_of_step? hfirst
  have keeps {Q : World → Prop}
      (keep : ∀ {w a w'}, Step w a w' → a.isOperation = false → Q w → Q w')
      (hQ : Q (w.detachWhere registry stops)) : Q w' :=
    keep hlast rfl (run?_keeps keep hbetween hv hQ)
  have hconsistent : w'.Consistent :=
    keeps (fun hs _ hw => hw.step hs) (hw.consistent.step hbegin)
  have hregistry : w'.registry = registry :=
    keeps (Q := fun u => u.registry = registry) (fun hs ha hu => (hs.registry ha).trans hu) rfl
  have hoccupied : w'.occupied = w.occupied :=
    keeps (Q := fun u => u.occupied = w.occupied) (fun hs _ hu => hs.occupied.trans hu) rfl
  have hstopped : ∀ i ∈ w.detached stops, w'.Stopped i := by
    have hopened : (w.detachWhere registry stops).resets[w.resets.length]? =
        some { servers := w.detached stops } := List.getElem?_concat_length
    obtain ⟨reset, hr, hservers⟩ := exists_reset_of_run? hbetween hv hopened
    exact fun i hi => hlast.stopped_of_conclude hr i (hservers.symm ▸ hi)
  have hdelisted : ∀ i s, w'.servers[i]? = some s → s.listed = false →
      w.Stopped i ∨ i ∈ w.detached stops := by
    refine keeps (Q := fun u => ∀ i s, u.servers[i]? = some s → s.listed = false →
      w.Stopped i ∨ i ∈ w.detached stops) ?_ ?_
    · intro u a u' hs ha hu i s hi hlisted
      obtain ⟨t, ht, ht'⟩ := hs.listed ha hi hlisted
      exact hu i t ht ht'
    · intro i s hi hlisted
      rcases exists_or_mem_detached hi hlisted with ⟨t, ht, ht'⟩ | hremoved
      · exact .inl (hw.stopped ht ht')
      · exact .inr hremoved
  refine ⟨⟨hconsistent, fun {i s} hi hlisted => ?_⟩, hregistry, hoccupied, hstopped⟩
  rcases hdelisted i s hi hlisted with hbefore | hremoved
  · exact keeps (fun hs _ hu => hs.stopped hu) (hbegin.stopped hbefore)
  · exact hstopped i hremoved

theorem exists_stop {s : Server} (hs : w.servers[i]? = some s) (hlisted : s.listed = false)
    (hphase : s.phase = .serving) :
    ∃ actions w', (∀ a ∈ actions, a.isOperation = false) ∧ w.run? actions = some w' ∧
      w'.Stopped i ∧ w'.resets = w.resets ∧ ∀ j ≠ i, w'.servers[j]? = w.servers[j]? := by
  let told := w.setPhase i .told
  let closed := told.setPhase i .draining
  have htold : told.servers[i]? = some { s with phase := .told } := by
    rw [getElem?_setPhase, hs, Option.map_some, if_pos rfl]
  have hclosed : closed.servers[i]? = some { s with phase := .draining } := by
    rw [getElem?_setPhase, htold, Option.map_some, if_pos rfl]
  have htell : w.step? (.tell i) = some told := step?_of_step (.tell hs hlisted hphase)
  have hclose : told.step? (.close i) = some closed := step?_of_step (.close htold rfl)
  obtain ⟨last, v, forced, hoperation, hlast, hservers, hresets⟩ :
      ∃ (last : Action) (v : World) (forced : Bool), last.isOperation = false ∧
        closed.step? last = some (v.setPhase i (.stopped forced)) ∧
        v.servers = closed.servers ∧ v.resets = w.resets := by
    cases hbusy : closed.isBusy i with
    | false =>
      exact ⟨.drain i, closed, false, rfl, step?_of_step (.drain hclosed rfl hbusy), rfl, rfl⟩
    | true =>
      exact ⟨.expire i, closed.abort i, true, rfl, step?_of_step (.expire hclosed rfl hbusy), rfl,
        rfl⟩
  refine ⟨[.tell i, .close i, last], v.setPhase i (.stopped forced), fun a ha => ?_, ?_,
    ⟨{ s with phase := .stopped forced }, forced, ?_, rfl⟩, hresets, fun j hj => ?_⟩
  · simp only [List.mem_cons, List.not_mem_nil, or_false] at ha
    rcases ha with rfl | rfl | rfl
    · rfl
    · rfl
    · exact hoperation
  · rw [run?_cons, htell, Option.bind_some, run?_cons, hclose, Option.bind_some, run?_cons, hlast]
    rfl
  · rw [getElem?_setPhase, hservers, hclosed, Option.map_some, if_pos rfl]
  · simp only [getElem?_setPhase, hservers, closed, told, if_neg (Ne.symm hj), Option.map_id']

theorem exists_stops {servers : List Nat} (hnodup : servers.Nodup)
    (hs : ∀ i ∈ servers, ∃ s, w.servers[i]? = some s ∧ s.listed = false ∧ s.phase = .serving) :
    ∃ actions w', (∀ a ∈ actions, a.isOperation = false) ∧ w.run? actions = some w' ∧
      (∀ i ∈ servers, w'.Stopped i) ∧ w'.resets = w.resets ∧
      ∀ j ∉ servers, w'.servers[j]? = w.servers[j]? := by
  induction servers generalizing w with
  | nil => exact ⟨[], w, by simp, rfl, by simp, rfl, fun _ _ => rfl⟩
  | cons i servers ih =>
    obtain ⟨hi, hnodup⟩ := List.nodup_cons.mp hnodup
    obtain ⟨s, hsi, hlisted, hphase⟩ := hs i List.mem_cons_self
    obtain ⟨actions, u, hactions, hrun, hstopped, hresets, hothers⟩ :=
      exists_stop hsi hlisted hphase
    obtain ⟨actions', w', hactions', hrun', hstopped', hresets', hothers'⟩ :=
      ih hnodup fun j hj => by
        rw [hothers j (ne_of_mem_of_not_mem hj hi)]
        exact hs j (List.mem_cons_of_mem i hj)
    refine ⟨actions ++ actions', w', ?_, ?_, ?_, hresets'.trans hresets, fun j hj => ?_⟩
    · intro a ha
      exact (List.mem_append.mp ha).elim (hactions a) (hactions' a)
    · rw [run?_append, hrun]
      exact hrun'
    · intro j hj
      rcases List.mem_cons.mp hj with rfl | hj
      · obtain ⟨t, forced, ht, hp⟩ := hstopped
        exact ⟨t, forced, (hothers' j hi).trans ht, hp⟩
      · exact hstopped' j hj
    · obtain ⟨hne, hj⟩ := List.ne_and_not_mem_of_not_mem_cons hj
      exact (hothers' j hj).trans (hothers j hne)

/-- A reset that has begun comes to its end without the help of another operation. -/
theorem Consistent.exists_uninterrupted (hw : w.Consistent)
    (hfirst : w.step? first = some (w.detachWhere registry stops)) :
    ∃ w', w.Uninterrupted first w' := by
  have hserving : ∀ i ∈ w.detached stops, ∃ s, (w.detachWhere registry stops).servers[i]? = some s ∧
      s.listed = false ∧ s.phase = .serving := by
    intro i hi
    obtain ⟨s, hs, hlisted, hstops⟩ := mem_detached_iff.mp hi
    have hphase : s.phase = .serving := hw.serving_of_listed hs hlisted
    refine ⟨{ s with listed := false }, ?_, rfl, hphase⟩
    rw [getElem?_detachWhere, hs, Option.map_some, if_pos ⟨hlisted, hstops⟩]
  have hnodup : (w.detached stops).Nodup := List.nodup_range.filter _
  obtain ⟨between, v, hbetween, hrun, hstopped, hresets, -⟩ := exists_stops hnodup hserving
  have hreset : v.resets[w.resets.length]? = some { servers := w.detached stops } := by
    rw [hresets, resets_detachWhere]
    exact List.getElem?_concat_length
  let concluded : World :=
    { v with resets := v.resets.set w.resets.length ⟨w.detached stops, true⟩ }
  have hlast : v.step? (.conclude w.resets.length) = some concluded :=
    step?_of_step (.conclude hreset (isOver_iff.mpr hstopped))
  refine ⟨concluded, between, hbetween, ?_⟩
  rw [List.cons_append, run?_cons, hfirst, Option.bind_some, run?_append, hrun, Option.bind_some,
    run?_cons, hlast]
  rfl

end Reset

/-! ## One operation -/

theorem Settled.fresh (occupied : List Port) : (World.fresh occupied).Settled where
  consistent := .fresh occupied
  stopped h := by cases h

theorem Settled.isFree_eq (hw : w.Settled) (h : w.registry.isRunning port = false) :
    w.isFree port = decide (port ∉ w.occupied) := by
  have hclosing : ¬ w.IsClosing port := by
    rintro ⟨i, s, -, hs, hlisted, -, hsocket, -⟩
    obtain ⟨t, forced, ht, hp⟩ := hw.stopped hs hlisted
    cases hs.symm.trans ht
    simp [hp, Phase.holdsSocket] at hsocket
  have hiff := hw.consistent.isFree_eq_false_iff h
  rw [or_iff_left hclosing] at hiff
  by_cases hport : port ∈ w.occupied
  · rw [hiff.mpr hport]
    simp [hport]
  · have hfree : w.isFree port = true := by
      rw [← Bool.not_eq_false]
      exact mt hiff.mp hport
    rw [hfree]
    simp [hport]

def surroundings (w : World) (cutsOff : Bool) : Surroundings where
  isFree port := port ∉ w.occupied
  cutsOff

theorem Settled.register (hw : w.Settled) (r : Registration) : (w.register r).Settled where
  consistent := hw.consistent.register r
  stopped {i s} hs hlisted := by
    rcases getElem?_register hs with hs | rfl
    · exact (Step.register r).stopped (hw.stopped hs hlisted)
    · cases hlisted

theorem Settled.registry_register_eq (hw : w.Settled) (r : Registration) :
    w.registry.register (w.isFree r.port) r =
      w.registry.register ((w.surroundings false).isFree r.port) r := by
  cases hrunning : w.registry.isRunning r.port with
  | true => simp only [Registry.register, hrunning, if_true]
  | false => rw [hw.isFree_eq hrunning, surroundings]

/-- A registration has the result that it has with the controller. -/
theorem Settled.register_eq (hw : w.Settled) (r : Registration) {c : Controller}
    (hc : c.registry = w.registry) :
    (w.register r).registry = (c.register (w.surroundings false) r).1.registry ∧
      (w.register r).results = w.results ++ [(c.register (w.surroundings false) r).2] := by
  simp only [World.register, Controller.register, hc, hw.registry_register_eq]
  cases w.registry.register ((w.surroundings false).isFree r.port) r with
  | error e => exact ⟨hc.symm, rfl⟩
  | ok registry => exact ⟨rfl, rfl⟩

theorem occupied_register (w : World) (r : Registration) : (w.register r).occupied = w.occupied :=
  (Step.register r).occupied

theorem Consistent.isRunning_iff_detached (hw : w.Consistent) :
    w.registry.isRunning port = true ↔ w.detached (· == port) ≠ [] := by
  rw [hw.isRunning_iff, ← List.isEmpty_eq_false_iff, List.isEmpty_eq_false_iff_exists_mem]
  simp only [mem_detached_iff, beq_iff_eq]

/-- The reset of a port that is not interrupted leaves the registry that the controller leaves, and
records what the controller records if a server that is stopped by force counts as cut off. -/
theorem Settled.resetPort_eq (hw : w.Settled) (h : w.Uninterrupted (.detach port) w')
    {c : Controller} (hc : c.registry = w.registry) :
    let removed := w.detached (· == port)
    let cutsOff := removed.any w'.wasForced
    let performed := c.resetPort (w.surroundings cutsOff) port
    w'.Settled ∧ w'.occupied = w.occupied ∧ w'.registry = performed.registry ∧
      performed.events = c.events ++
        [if removed = [] then .portReset port false
          else if cutsOff then .portResetForced port else .portReset port true] ∧
      ∀ i ∈ removed, w'.Stopped i ∧ w'.Idle i := by
  intro removed cutsOff performed
  obtain ⟨hsettled, hregistry, hoccupied, hstopped⟩ := hw.uninterrupted rfl h
  have hrunning : c.registry.isRunning port = true ↔ removed ≠ [] := by
    rw [hc]
    exact hw.consistent.isRunning_iff_detached
  refine ⟨hsettled, hoccupied, ?_, ?_,
    fun i hi => ⟨hstopped i hi, hsettled.consistent.idle_of_stopped (hstopped i hi)⟩⟩
  · rw [hregistry, ← hc]
    rfl
  · change c.events ++ [if c.registry.isRunning port then
      if cutsOff then Event.portResetForced port else .portReset port true
      else .portReset port false] = _
    by_cases hremoved : removed = []
    · rw [if_neg (mt hrunning.mp (not_not.mpr hremoved)), if_pos hremoved]
    · rw [if_pos (hrunning.mpr hremoved), if_neg hremoved]

/-- The reset of all ports stops a server on each port that the controller names. -/
theorem Settled.resetAll_eq (hw : w.Settled) (h : w.Uninterrupted .detachAll w')
    {c : Controller} (hc : c.registry = w.registry) :
    let removed := w.detached fun _ => true
    w'.Settled ∧ w'.occupied = w.occupied ∧ w'.registry = c.resetAll.1.registry ∧
      (∀ port, port ∈ c.resetAll.2 ↔
        ∃ i ∈ removed, ∃ s, w.servers[i]? = some s ∧ s.port = port) ∧
      ∀ i ∈ removed, w'.Stopped i ∧ w'.Idle i := by
  intro removed
  obtain ⟨hsettled, hregistry, hoccupied, hstopped⟩ := hw.uninterrupted rfl h
  refine ⟨hsettled, hoccupied, hregistry, fun port => ?_,
    fun i hi => ⟨hstopped i hi, hsettled.consistent.idle_of_stopped (hstopped i hi)⟩⟩
  have hports : port ∈ c.resetAll.2 ↔ c.registry.isRunning port = true :=
    Registry.mem_ports_iff
  rw [hports, hc, hw.consistent.isRunning_iff]
  simp only [removed, mem_detached_iff]
  constructor
  · rintro ⟨i, s, hs, hlisted, hport⟩
    exact ⟨i, ⟨s, hs, hlisted, trivial⟩, s, hs, hport⟩
  · rintro ⟨i, ⟨s, hs, hlisted, -⟩, t, ht, hport⟩
    cases hs.symm.trans ht
    exact ⟨i, s, hs, hlisted, hport⟩

end World

end MockHttp.Concurrent

namespace MockHttp

/-! ## Sessions -/

namespace Session

variable {s : Session}

/-- The session has the registry of the world, and the same ports are held from outside. -/
structure Shows (s : Session) (w : Concurrent.World) : Prop where
  registry : s.controller.registry = w.registry
  occupied : s.occupied = w.occupied

variable {w : Concurrent.World}

theorem Shows.surroundings (h : s.Shows w) (cutsOff : Bool) :
    s.surroundings cutsOff = w.surroundings cutsOff := by
  rw [Session.surroundings, Concurrent.World.surroundings, h.occupied]

theorem Shows.deliver (h : s.Shows w) (slot : Option Nat) (answer : Transfer) :
    (s.deliver slot answer).Shows w := by
  cases slot <;> exact ⟨h.registry, h.occupied⟩

theorem Shows.land (h : s.Shows w) (f : Flight) : (s.land f).Shows w := by
  have hrecorded : ({ s with controller := s.controller.record f.event } : Session).Shows w :=
    ⟨h.registry, h.occupied⟩
  exact hrecorded.deliver f.slot (.ok f.response)

theorem Shows.settle (h : s.Shows w) (time : Nat) : (s.settle time).Shows w := by
  have hlanded (flights : List Flight) : (flights.foldl Session.land s).Shows w := by
    induction flights generalizing s with
    | nil => exact h
    | cons f flights ih => exact ih (h.land f)
  exact ⟨(hlanded _).registry, (hlanded _).occupied⟩

theorem Shows.cutOff (h : s.Shows w) (flights : List Flight) :
    (flights.foldl (fun s f => s.deliver f.slot (.error .cutOff)) s).Shows w := by
  induction flights generalizing s with
  | nil => exact h
  | cons f flights ih => exact ih (h.deliver f.slot _)

theorem Shows.drain (h : s.Shows w) (stops : Port → Bool) : (s.drain stops).1.Shows w :=
  ⟨((h.settle _).cutOff _).registry, ((h.settle _).cutOff _).occupied⟩

open Control in
def obey (s : Session) : Command → Session
  | .register r => (s.register r).1
  | .resetPort port => s.resetPort port
  | .resetAll => s.resetAll.1

end Session

namespace Concurrent

open Control World

/-- Operations one after the other; requests come and go in between as well. -/
inductive Sequential : World → List Command → World → Prop where
  | done {w : World} : Sequential w [] w
  | other {w u w' : World} {a : Action} {commands : List Command} : Step w a u →
      a.isOperation = false → Sequential u commands w' → Sequential w commands w'
  | register {w w' : World} {commands : List Command} (r : Registration) :
      Sequential (w.register r) commands w' → Sequential w (.register r :: commands) w'
  | resetPort {w u w' : World} {port : Port} {commands : List Command} :
      w.Uninterrupted (.detach port) u → Sequential u commands w' →
      Sequential w (.resetPort port :: commands) w'
  | resetAll {w u w' : World} {commands : List Command} : w.Uninterrupted .detachAll u →
      Sequential u commands w' → Sequential w (.resetAll :: commands) w'

theorem World.Settled.other {w w' : World} {a : Action} (hw : w.Settled) (h : Step w a w')
    (ha : a.isOperation = false) : w'.Settled where
  consistent := hw.consistent.step h
  stopped hs hlisted := by
    obtain ⟨t, ht, ht'⟩ := h.listed ha hs hlisted
    exact h.stopped (hw.stopped ht ht')

theorem exists_sequential {w : World} (hw : w.Settled) (commands : List Command) :
    ∃ w', Sequential w commands w' := by
  induction commands generalizing w with
  | nil => exact ⟨w, .done⟩
  | cons command commands ih =>
    cases command with
    | register r =>
      obtain ⟨w', h⟩ := ih (hw.register r)
      exact ⟨w', .register r h⟩
    | resetPort port =>
      have hfirst : w.step? (.detach port) = some (w.detachWhere _ _) := rfl
      obtain ⟨u, hu⟩ := hw.consistent.exists_uninterrupted hfirst
      obtain ⟨w', h⟩ := ih (hw.uninterrupted rfl hu).1
      exact ⟨w', .resetPort hu h⟩
    | resetAll =>
      have hfirst : w.step? .detachAll = some (w.detachWhere _ _) := rfl
      obtain ⟨u, hu⟩ := hw.consistent.exists_uninterrupted hfirst
      obtain ⟨w', h⟩ := ih (hw.uninterrupted rfl hu).1
      exact ⟨w', .resetAll hu h⟩

/-- A session that is given the same commands goes along with the world. -/
theorem Sequential.shows {w w' : World} {commands : List Command} (h : Sequential w commands w')
    (hw : w.Settled) {s : Session} (hs : s.Shows w) :
    w'.Settled ∧ (commands.foldl Session.obey s).Shows w' := by
  induction h generalizing s with
  | done => exact ⟨hw, hs⟩
  | other hstep ha _ ih =>
    exact ih (hw.other hstep ha)
      ⟨hs.registry.trans (hstep.registry ha).symm, hs.occupied.trans hstep.occupied.symm⟩
  | @register w w' commands r _ ih =>
    refine ih (hw.register r) ⟨?_, hs.occupied.trans (w.occupied_register r).symm⟩
    rw [(hw.register_eq r hs.registry).1, ← hs.surroundings]
    rfl
  | @resetPort w u w' port commands hreset _ ih =>
    have hdrained := hs.drain (· == port)
    obtain ⟨hu, hoccupied, hregistry, -⟩ := hw.resetPort_eq hreset hdrained.registry
    exact ih hu ⟨hregistry.symm, hdrained.occupied.trans hoccupied.symm⟩
  | @resetAll w u w' commands hreset _ ih =>
    have hdrained := hs.drain fun _ => true
    obtain ⟨hu, hoccupied, hregistry, -⟩ := hw.resetAll_eq hreset hdrained.registry
    exact ih hu ⟨hregistry.symm, hdrained.occupied.trans hoccupied.symm⟩

end Concurrent

end MockHttp
