import Mathlib.Data.List.Induction

/-! # Last writes

A run takes inputs one after the other. An input may write a value, which depends on the state
behind the inputs before it. If every step leaves behind what it writes and keeps the rest, a run
leaves behind what was written last.
-/

namespace MockHttp

variable {ι σ α : Type}

/-- The value of the last write, or the initial value if nothing is written. -/
inductive LastWrite (writes : Nat → α → Prop) (initial : α) : α → Prop where
  | written {k : Nat} {v : α} : writes k v → (∀ j, k < j → ∀ w, ¬ writes j w) →
      LastWrite writes initial v
  | untouched : (∀ k v, ¬ writes k v) → LastWrite writes initial initial

def WritesAt (state : List ι → σ) (writes : σ → ι → α → Prop) (inputs : List ι) (k : Nat)
    (v : α) : Prop :=
  ∃ i, inputs[k]? = some i ∧ writes (state (inputs.take k)) i v

variable {state : List ι → σ} {writes : σ → ι → α → Prop}

theorem not_writesAt_nil (k : Nat) (v : α) : ¬ WritesAt state writes [] k v := by
  rintro ⟨i, hi, -⟩
  simp at hi

theorem WritesAt.lt_length {inputs : List ι} {k : Nat} {v : α}
    (h : WritesAt state writes inputs k v) : k < inputs.length := by
  obtain ⟨i, hi, -⟩ := h
  exact (List.getElem?_eq_some_iff.mp hi).1

theorem writesAt_congr {writes' : σ → ι → α → Prop} {inputs : List ι}
    (h : ∀ s, ∀ i ∈ inputs, ∀ v, writes s i v ↔ writes' s i v) :
    WritesAt state writes inputs = WritesAt state writes' inputs := by
  funext k v
  refine propext (exists_congr fun i => and_congr_right fun hi => ?_)
  exact h _ i (List.mem_of_getElem? hi) v

theorem writesAt_concat_iff {inputs : List ι} {i : ι} {k : Nat} {v : α} :
    WritesAt state writes (inputs ++ [i]) k v ↔
      WritesAt state writes inputs k v ∨ k = inputs.length ∧ writes (state inputs) i v := by
  rcases Nat.lt_trichotomy k inputs.length with hk | rfl | hk
  · have ht : (inputs ++ [i]).take k = inputs.take k :=
      List.take_append_of_le_length (Nat.le_of_lt hk)
    simp [WritesAt, List.getElem?_append_left hk, ht, Nat.ne_of_lt hk]
  · simp [WritesAt]
  · have hn : (inputs ++ [i])[k]? = none := by simp; omega
    have hn' : inputs[k]? = none := by simp; omega
    simp [WritesAt, hn, hn', Nat.ne_of_gt hk]

/-- What a run leaves behind is its last write, if that holds of each of its steps. -/
theorem lastWrite_of_step (observe : σ → α)
    (step : ∀ inputs i, writes (state inputs) i (observe (state (inputs ++ [i]))) ∨
      (∀ v, ¬ writes (state inputs) i v) ∧
        observe (state (inputs ++ [i])) = observe (state inputs)) (inputs : List ι) :
    LastWrite (WritesAt state writes inputs) (observe (state [])) (observe (state inputs)) := by
  induction inputs using List.reverseRecOn with
  | nil => exact .untouched not_writesAt_nil
  | append_singleton inputs i ih =>
    rcases step inputs i with h | ⟨hn, he⟩
    · refine .written (writesAt_concat_iff.mpr (.inr ⟨rfl, h⟩)) fun j hj w hw => ?_
      have := hw.lt_length
      simp only [List.length_append, List.length_singleton] at this
      omega
    · have hw : WritesAt state writes (inputs ++ [i]) = WritesAt state writes inputs := by
        funext k v
        rw [writesAt_concat_iff, eq_iff_iff]
        exact or_iff_left fun h => hn v h.2
      rw [he, hw]
      exact ih

theorem LastWrite.unique {writesAt : Nat → α → Prop} {initial a b : α}
    (single : ∀ k v w, writesAt k v → writesAt k w → v = w)
    (ha : LastWrite writesAt initial a) (hb : LastWrite writesAt initial b) : a = b := by
  cases ha with
  | @written k _ hk hlast =>
    cases hb with
    | @written l _ hl hlast' =>
      rcases Nat.lt_trichotomy k l with h | rfl | h
      · exact (hlast l h b hl).elim
      · exact single k a b hk hl
      · exact (hlast' k h a hk).elim
    | untouched hn => exact (hn k a hk).elim
  | untouched hn =>
    cases hb with
    | @written l _ hl _ => exact (hn l b hl).elim
    | untouched => rfl

end MockHttp
