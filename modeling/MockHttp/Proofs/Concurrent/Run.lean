import MockHttp.Proofs.Concurrent.Step

/-! # Runs of overlapping operations

A run is a sequence of actions from a fresh world, each possible when it is taken. What every step
keeps, a run keeps, and what holds in the end without having held at the start has begun with one
of the steps.
-/

namespace MockHttp.Concurrent

open World

def World.fresh (occupied : List Port) : World := { occupied }

structure Run where
  occupied : List Port
  actions : List Action
  final : World
  possible : (fresh occupied).run? actions = some final

namespace Run

def ofActions (occupied : List Port) (actions : List Action)
    (h : ((fresh occupied).run? actions).isSome = true) : Run :=
  ⟨occupied, actions, _, (Option.some_get h).symm⟩

variable (run : Run)

/-- The world behind the first `k` actions. -/
def at? (k : Nat) : Option World := (fresh run.occupied).run? (run.actions.take k)

structure Takes (k : Nat) (w : World) (a : Action) (w' : World) : Prop where
  action : run.actions[k]? = some a
  before : run.at? k = some w
  step : Step w a w'

variable {run : Run} {j k : Nat} {u v w w' : World} {a : Action}

@[simp] theorem at?_zero : run.at? 0 = some (fresh run.occupied) := rfl

theorem at?_of_length_le (h : run.actions.length ≤ k) : run.at? k = some run.final := by
  rw [at?, List.take_of_length_le h]
  exact run.possible

theorem at?_length : run.at? run.actions.length = some run.final := at?_of_length_le (Nat.le_refl _)

theorem at?_succ (h : run.actions[k]? = some a) :
    run.at? (k + 1) = (run.at? k).bind fun w => w.step? a := by
  simp only [at?, run?, List.take_add_one, h, Option.toList_some, List.foldlM_append,
    List.foldlM_cons, List.foldlM_nil]
  simp only [bind_pure]
  rfl

theorem takes_of_step? (ha : run.actions[k]? = some a) (hw : run.at? k = some w)
    (h : w.step? a = some w') : run.Takes k w a w' :=
  ⟨ha, hw, step_of_step? h⟩

theorem Takes.after (h : run.Takes k w a w') : run.at? (k + 1) = some w' := by
  rw [at?_succ h.action, h.before]
  exact step?_eq_some_iff.mpr h.step

theorem takes_or_at? (h : run.at? (k + 1) = some w') :
    (∃ w a, run.Takes k w a w') ∨ run.at? k = some w' := by
  cases ha : run.actions[k]? with
  | none =>
    have hk : run.actions.length ≤ k := List.getElem?_eq_none_iff.mp ha
    rw [at?, List.take_of_length_le (Nat.le_succ_of_le hk)] at h
    rw [at?, List.take_of_length_le hk]
    exact .inr h
  | some a =>
    rw [at?_succ ha] at h
    obtain ⟨w, hw, hstep⟩ := Option.bind_eq_some_iff.mp h
    exact .inl ⟨w, a, ha, hw, step?_eq_some_iff.mp hstep⟩

section Properties

variable {Q : World → Prop}

theorem persists (keep : ∀ {w a w'}, Step w a w' → Q w → Q w') (hjk : j ≤ k)
    (hv : run.at? j = some v) (hw : run.at? k = some w) (h : Q v) : Q w := by
  induction hjk generalizing w with
  | refl =>
    cases hv.symm.trans hw
    exact h
  | step hle ih =>
    rcases takes_or_at? hw with ⟨u, a, ht⟩ | hw
    · exact keep ht.step (ih ht.before)
    · exact ih hw

/-- What holds of a fresh world and is kept by each step holds all the time. -/
theorem invariant (start : ∀ occupied, Q (fresh occupied))
    (keep : ∀ {w a w'}, Step w a w' → Q w → Q w') (h : run.at? k = some w) : Q w :=
  persists keep (Nat.zero_le k) at?_zero h (start run.occupied)

/-- What has come to hold began to hold with some step. -/
theorem exists_change (start : ∀ occupied, ¬ Q (fresh occupied)) (hw : run.at? k = some w)
    (h : Q w) : ∃ j u a u', j < k ∧ run.Takes j u a u' ∧ ¬ Q u ∧ Q u' := by
  induction k generalizing w with
  | zero =>
    cases hw
    exact (start _ h).elim
  | succ k ih =>
    have earlier : ∀ {v}, run.at? k = some v → Q v →
        ∃ j u a u', j < k + 1 ∧ run.Takes j u a u' ∧ ¬ Q u ∧ Q u' := by
      intro v hv hq
      obtain ⟨j, u, a, u', hj, hchange⟩ := ih hv hq
      exact ⟨j, u, a, u', Nat.lt_succ_of_lt hj, hchange⟩
    rcases takes_or_at? hw with ⟨v, a, ht⟩ | hw
    · by_cases hq : Q v
      · exact earlier ht.before hq
      · exact ⟨k, v, a, w, Nat.lt_succ_self k, ht, hq, h⟩
    · exact earlier hw h

end Properties

/-- What the steps keep is brought about once. -/
theorem Takes.unique {Q : World → Prop} {b : Action} {v' : World}
    (keep : ∀ {w a w'}, Step w a w' → Q w → Q w') (hj : run.Takes j v b v')
    (hk : run.Takes k w a w') (hv : ¬ Q v) (hv' : Q v') (hw : ¬ Q w) (hw' : Q w') : j = k := by
  rcases Nat.lt_trichotomy j k with hjk | rfl | hkj
  · exact (hw (persists keep hjk hj.after hk.before hv')).elim
  · rfl
  · exact (hv (persists keep hkj hk.after hj.before hw')).elim

end Run

end MockHttp.Concurrent
