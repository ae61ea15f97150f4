import Mathlib.Data.List.Basic
import MockHttp.Concurrent

/-! # Steps of overlapping operations

The relation `Step` says what each action finds and what it leaves behind. A request is accepted,
dispatched, and answered or aborted, each by one kind of action. A server leaves the registry
through a reset only.
-/

namespace MockHttp.Concurrent

namespace World

inductive Step (w : World) : Action → World → Prop where
  | register (r : Registration) : Step w (.register r) (w.register r)
  | detach (port : Port) :
      Step w (.detach port) (w.detachWhere (w.registry.clearPort port) (· == port))
  | detachAll : Step w .detachAll (w.detachWhere w.registry.clear fun _ => true)
  | tell {i : Nat} {s : Server} : w.servers[i]? = some s → s.listed = false →
      s.phase = .serving → Step w (.tell i) (w.setPhase i .told)
  | close {i : Nat} {s : Server} : w.servers[i]? = some s → s.phase = .told →
      Step w (.close i) (w.setPhase i .draining)
  | accept {i : Nat} {s : Server} : w.servers[i]? = some s → s.phase.holdsSocket = true →
      Step w (.accept i) { w with exchanges := w.exchanges ++ [{ server := i }] }
  | dispatch {i server : Nat} {s : Server} (r : Request) (chance : Chance) :
      w.exchanges[i]? = some ⟨server, .accepted⟩ → w.servers[server]? = some s →
      Step w (.dispatch i r chance)
        (w.setProgress i (.dispatched (w.registry.serve s.port r chance).response))
  | answer {i server : Nat} {response : Response} :
      w.exchanges[i]? = some ⟨server, .dispatched response⟩ →
      Step w (.answer i) (w.setProgress i (.answered response))
  | drain {i : Nat} {s : Server} : w.servers[i]? = some s → s.phase = .draining →
      w.isBusy i = false → Step w (.drain i) (w.setPhase i (.stopped false))
  | expire {i : Nat} {s : Server} : w.servers[i]? = some s → s.phase = .draining →
      w.isBusy i = true → Step w (.expire i) ((w.abort i).setPhase i (.stopped true))
  | conclude {i : Nat} {reset : Reset} : w.resets[i]? = some reset → w.isOver reset = true →
      Step w (.conclude i) { w with resets := w.resets.set i { reset with returned := true } }

theorem step_of_step? {w w' : World} {a : Action} (h : w.step? a = some w') : Step w a w' := by
  cases a with
  | register r =>
    cases h
    exact .register r
  | detach port =>
    cases h
    exact .detach port
  | detachAll =>
    cases h
    exact .detachAll
  | tell i =>
    simp only [step?] at h
    split at h
    · next hs =>
      cases h
      exact .tell hs rfl rfl
    · cases h
  | close i =>
    simp only [step?] at h
    split at h
    · next hs =>
      cases h
      exact .close hs rfl
    · cases h
  | accept i =>
    simp only [step?] at h
    split at h
    · next hs =>
      split at h
      · next hsocket =>
        cases h
        exact .accept hs hsocket
      · cases h
    · cases h
  | dispatch i r chance =>
    simp only [step?] at h
    split at h
    · next he =>
      obtain ⟨s, hs, rfl⟩ := Option.map_eq_some_iff.mp h
      exact .dispatch r chance he hs
    · cases h
  | answer i =>
    simp only [step?] at h
    split at h
    · next he =>
      cases h
      exact .answer he
    · cases h
  | drain i =>
    simp only [step?] at h
    split at h
    · next hs =>
      split at h
      · cases h
      · next hidle =>
        cases h
        exact .drain hs rfl (Bool.eq_false_iff.mpr hidle)
    · cases h
  | expire i =>
    simp only [step?] at h
    split at h
    · next hs =>
      split at h
      · next hbusy =>
        cases h
        exact .expire hs rfl hbusy
      · cases h
    · cases h
  | conclude i =>
    simp only [step?] at h
    split at h
    · next hreset =>
      split at h
      · next hover =>
        cases h
        exact .conclude hreset hover
      · cases h
    · cases h

theorem step?_of_step {w w' : World} {a : Action} (h : Step w a w') : w.step? a = some w' := by
  cases h with
  | register | detach | detachAll => rfl
  | @tell i s hs hlisted hphase =>
    obtain ⟨port, listed, phase⟩ := s
    cases hlisted
    cases hphase
    simp only [step?, hs]
  | @close i s hs hphase =>
    obtain ⟨port, listed, phase⟩ := s
    cases hphase
    simp only [step?, hs]
  | accept hs hsocket => simp only [step?, hs, hsocket, if_true]
  | dispatch r chance he hs => simp only [step?, he, hs, Option.map_some]
  | answer he => simp only [step?, he]
  | @drain i s hs hphase hidle =>
    obtain ⟨port, listed, phase⟩ := s
    cases hphase
    simp [step?, hs, hidle]
  | @expire i s hs hphase hbusy =>
    obtain ⟨port, listed, phase⟩ := s
    cases hphase
    simp [step?, hs, hbusy]
  | conclude hreset hover => simp only [step?, hreset, hover, if_true]

theorem step?_eq_some_iff {w w' : World} {a : Action} : w.step? a = some w' ↔ Step w a w' :=
  ⟨step_of_step?, step?_of_step⟩

variable {w w' : World} {a : Action}

/-! ## What a step makes of a request -/

inductive Moves (w : World) (i : Nat) : Action → Exchange → Prop where
  | accepted {server : Nat} : i = w.exchanges.length →
      Moves w i (.accept server) ⟨server, .accepted⟩
  | dispatched {server : Nat} {s : Server} {r : Request} {chance : Chance} :
      w.exchanges[i]? = some ⟨server, .accepted⟩ → w.servers[server]? = some s →
      Moves w i (.dispatch i r chance)
        ⟨server, .dispatched (w.registry.serve s.port r chance).response⟩
  | answered {server : Nat} {response : Response} :
      w.exchanges[i]? = some ⟨server, .dispatched response⟩ →
      Moves w i (.answer i) ⟨server, .answered response⟩
  | aborted {server : Nat} {progress : Progress} :
      w.exchanges[i]? = some ⟨server, progress⟩ → progress.isPending = true →
      Moves w i (.expire server) ⟨server, .aborted⟩

theorem getElem?_setProgress (w : World) (i : Nat) (progress : Progress) (j : Nat) :
    (w.setProgress i progress).exchanges[j]? =
      (w.exchanges[j]?).map fun e => if i = j then { e with progress } else e := by
  simp only [setProgress, List.getElem?_modify]
  rfl

theorem getElem?_abort (w : World) (server : Nat) (j : Nat) :
    (w.abort server).exchanges[j]? =
      (w.exchanges[j]?).map fun e =>
        if e.server = server ∧ e.progress.isPending = true then { e with progress := .aborted }
        else e := by
  simp only [abort, List.getElem?_map, Bool.and_eq_true, beq_iff_eq]

theorem Step.exchange (h : Step w a w') (i : Nat) :
    (∃ e, Moves w i a e ∧ w'.exchanges[i]? = some e) ∨ w'.exchanges[i]? = w.exchanges[i]? := by
  cases h with
  | register r =>
    right
    simp only [World.register]
    split <;> rfl
  | detach | detachAll | tell | close | drain | conclude => exact .inr rfl
  | @accept server s hs hsocket =>
    by_cases hi : i = w.exchanges.length
    · left
      subst hi
      exact ⟨_, .accepted rfl, List.getElem?_concat_length⟩
    · right
      rw [List.getElem?_append]
      split
      · rfl
      · next hge =>
        rw [List.getElem?_eq_none (by simp only [List.length_singleton]; omega),
          List.getElem?_eq_none (Nat.le_of_not_lt hge)]
  | @dispatch j server s r chance he hs =>
    rw [getElem?_setProgress]
    by_cases hi : j = i
    · subst hi
      left
      exact ⟨_, .dispatched he hs, by rw [he]; simp⟩
    · right
      simp [hi]
  | @answer j server response he =>
    rw [getElem?_setProgress]
    by_cases hi : j = i
    · subst hi
      left
      exact ⟨_, .answered he, by rw [he]; simp⟩
    · right
      simp [hi]
  | @expire server s hs hphase hbusy =>
    change (∃ e, _ ∧ (w.abort server).exchanges[i]? = some e) ∨
      (w.abort server).exchanges[i]? = w.exchanges[i]?
    rw [getElem?_abort]
    cases he : w.exchanges[i]? with
    | none => exact .inr rfl
    | some e =>
      obtain ⟨own, progress⟩ := e
      by_cases hp : own = server ∧ progress.isPending = true
      · left
        obtain ⟨rfl, hpending⟩ := hp
        exact ⟨_, .aborted he hpending, by simp [hpending]⟩
      · right
        simp [hp]

theorem Moves.isPending {i : Nat} {e e' : Exchange} (h : Moves w i a e')
    (he : w.exchanges[i]? = some e) : e.progress.isPending = true := by
  cases h with
  | accepted hi =>
    subst hi
    simp at he
  | dispatched h' _ =>
    cases he.symm.trans h'
    rfl
  | answered h' =>
    cases he.symm.trans h'
    rfl
  | aborted h' hpending =>
    cases he.symm.trans h'
    exact hpending

/-! ## What a step makes of a server -/

def detached (w : World) (stops : Port → Bool) : List Nat :=
  (List.range w.servers.length).filter fun i =>
    (w.servers[i]?).any fun s => s.listed && stops s.port

theorem mem_detached_iff {stops : Port → Bool} {i : Nat} :
    i ∈ w.detached stops ↔
      ∃ s, w.servers[i]? = some s ∧ s.listed = true ∧ stops s.port = true := by
  simp only [detached, List.mem_filter, List.mem_range, Option.any_eq_true, Bool.and_eq_true]
  constructor
  · exact fun h => h.2
  · rintro ⟨s, hs, h⟩
    exact ⟨(List.getElem?_eq_some_iff.mp hs).1, s, hs, h⟩

theorem resets_detachWhere (w : World) (registry : Registry) (stops : Port → Bool) :
    (w.detachWhere registry stops).resets = w.resets ++ [{ servers := w.detached stops }] := rfl

theorem getElem?_detachWhere (w : World) (registry : Registry) (stops : Port → Bool) (i : Nat) :
    (w.detachWhere registry stops).servers[i]? =
      (w.servers[i]?).map fun s =>
        if s.listed = true ∧ stops s.port = true then { s with listed := false } else s := by
  simp only [detachWhere, List.getElem?_map, Bool.and_eq_true]

theorem getElem?_setPhase (w : World) (i : Nat) (phase : Phase) (j : Nat) :
    (w.setPhase i phase).servers[j]? =
      (w.servers[j]?).map fun s => if i = j then { s with phase } else s := by
  simp only [setPhase, List.getElem?_modify]
  rfl

section Append

variable {l : List Server} {i : Nat} {s t : Server}

theorem getElem?_append_of_some (h : l[i]? = some s) (started : List Server) :
    (l ++ started)[i]? = some s :=
  (List.getElem?_append_left (List.getElem?_eq_some_iff.mp h).1).trans h

theorem getElem?_concat (h : (l ++ [t])[i]? = some s) : l[i]? = some s ∨ s = t := by
  rw [List.getElem?_append] at h
  split at h
  · exact .inl h
  · exact .inr (List.mem_singleton.mp (List.mem_of_getElem? h))

end Append

theorem getElem?_register {r : Registration} {i : Nat} {s : Server}
    (h : (w.register r).servers[i]? = some s) :
    w.servers[i]? = some s ∨ s = { port := r.port } := by
  simp only [World.register] at h
  split at h
  · exact .inl h
  · simp only at h
    split at h
    · rw [List.append_nil] at h
      exact .inl h
    · exact getElem?_concat h

theorem getElem?_register_of_some {i : Nat} {s : Server} (h : w.servers[i]? = some s)
    (r : Registration) : (w.register r).servers[i]? = some s := by
  simp only [World.register]
  split
  · exact h
  · exact getElem?_append_of_some h _

/-- A server stays where it is and on its port, and once it has left the list, it does not come
back. -/
theorem Step.server (h : Step w a w') {i : Nat} {s : Server} (hs : w.servers[i]? = some s) :
    ∃ s', w'.servers[i]? = some s' ∧ s'.port = s.port ∧
      (s.listed = false → s'.listed = false) := by
  have of_map : ∀ f : Server → Server, (f s).port = s.port ∧
      (s.listed = false → (f s).listed = false) → ∃ s', (w.servers[i]?).map f = some s' ∧
        s'.port = s.port ∧ (s.listed = false → s'.listed = false) :=
    fun f hf => ⟨f s, by rw [hs, Option.map_some], hf⟩
  cases h with
  | register r => exact ⟨s, getElem?_register_of_some hs r, rfl, id⟩
  | detach | detachAll =>
    rw [getElem?_detachWhere]
    refine of_map _ ?_
    split
    · exact ⟨rfl, fun _ => rfl⟩
    · exact ⟨rfl, id⟩
  | tell | close | drain | expire =>
    rw [getElem?_setPhase]
    refine of_map _ ?_
    split <;> exact ⟨rfl, id⟩
  | accept | dispatch | answer | conclude => exact ⟨s, hs, rfl, id⟩

/-- The action takes the server number `i` out of the registry, for the reset number `n`. -/
structure Removes (w : World) (a : Action) (w' : World) (i n : Nat) (s : Server) : Prop where
  listed : w.servers[i]? = some s ∧ s.listed = true
  action : a = .detach s.port ∨ a = .detachAll
  delisted : w'.servers[i]? = some { s with listed := false }
  waits : ∃ reset, w'.resets[n]? = some reset ∧ i ∈ reset.servers

theorem removes_of_detachWhere {registry : Registry} {stops : Port → Bool} {i : Nat} {s : Server}
    (hs : w.servers[i]? = some s) (hlisted : s.listed = true) (hstops : stops s.port = true)
    (ha : a = .detach s.port ∨ a = .detachAll) :
    Removes w a (w.detachWhere registry stops) i w.resets.length s where
  listed := ⟨hs, hlisted⟩
  action := ha
  delisted := by
    rw [getElem?_detachWhere, hs]
    simp [hlisted, hstops]
  waits := by
    rw [resets_detachWhere]
    exact ⟨_, List.getElem?_concat_length, mem_detached_iff.mpr ⟨s, hs, hlisted, hstops⟩⟩

theorem Step.delisted (h : Step w a w') {i : Nat} {s' : Server} (hs : w'.servers[i]? = some s')
    (hlisted : s'.listed = false) :
    (∃ s, w.servers[i]? = some s ∧ s.listed = false) ∨
      ∃ n s, Removes w a w' i n s := by
  have of_phase : ∀ {j : Nat} {phase : Phase},
      (w.servers[i]?).map (fun s => if j = i then { s with phase } else s) = some s' →
      ∃ s, w.servers[i]? = some s ∧ s.listed = false := by
    intro j phase hmap
    obtain ⟨s, hold, rfl⟩ := Option.map_eq_some_iff.mp hmap
    exact ⟨s, hold, by split at hlisted <;> exact hlisted⟩
  cases h with
  | register r =>
    rcases getElem?_register hs with hs | rfl
    · exact .inl ⟨s', hs, hlisted⟩
    · cases hlisted
  | detach port =>
    rw [getElem?_detachWhere] at hs
    obtain ⟨s, hold, rfl⟩ := Option.map_eq_some_iff.mp hs
    split at hlisted
    · next hleaves =>
      have hport : s.port = port := beq_iff_eq.mp hleaves.2
      have ha : Action.detach port = .detach s.port := congrArg _ hport.symm
      exact .inr ⟨_, s, removes_of_detachWhere hold hleaves.1 hleaves.2 (.inl ha)⟩
    · exact .inl ⟨s, hold, hlisted⟩
  | detachAll =>
    rw [getElem?_detachWhere] at hs
    obtain ⟨s, hold, rfl⟩ := Option.map_eq_some_iff.mp hs
    split at hlisted
    · next hleaves => exact .inr ⟨_, s, removes_of_detachWhere hold hleaves.1 rfl (.inr rfl)⟩
    · exact .inl ⟨s, hold, hlisted⟩
  | tell | close | drain | expire => exact .inl (of_phase ((getElem?_setPhase ..).symm.trans hs))
  | accept | dispatch | answer | conclude => exact .inl ⟨s', hs, hlisted⟩

end World

end MockHttp.Concurrent
