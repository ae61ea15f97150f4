import MockHttp.Proofs.Instruction.Arity

/-! # Unknown names

An entry is reported for its group if that is unknown, and for its function if that is not in the
vocabulary of the group. Where responses are set up the label comes before the function: without
any argument, that is reported instead.
-/

namespace MockHttp

/-- Arguments are reported once the function is known. -/
theorem Word.read_error {w : Word} {args : Arguments} {reason : DecodeError}
    (h : w.read args = .error reason) : reason ≠ .unknownGroup ∧ reason ≠ .unknownFunction := by
  rcases (w.readsFrom args).outcome (by simp) with ⟨⟨i, hi⟩, -⟩ | ⟨j, other, hother, -, hposition⟩
  · rw [hi] at h
    cases h
  · cases hother.symm.trans h
    split at hposition
    · constructor
      · rintro rfl
        cases hposition
      · rintro rfl
        cases hposition
    · subst hposition
      exact ⟨DecodeError.noConfusion, DecodeError.noConfusion⟩

namespace Instruction

variable {e : Entry}

theorem reason?_eq_unknownGroup_iff :
    (decode e).reason? = some .unknownGroup ↔ ∀ g : Group, e.group ∉ g.names := by
  rw [reason?_decode_eq_some_iff, ← Group.ofName?_eq_none_iff]
  constructor
  · intro h
    cases hg : Group.ofName? e.group with
    | none => rfl
    | some g =>
      cases hw : g.word? e.function with
      | none =>
        rw [decode?_of_no_word hg hw] at h
        split at h <;> cases h
      | some w =>
        rw [decode?_of_word hg hw] at h
        exact absurd rfl (Word.read_error h).1
  · exact decode?_of_no_group

theorem reason?_of_no_word {g : Group} (hg : e.group ∈ g.names) (hf : ¬ g.Has e.function) :
    (decode e).reason? = some
      (if g = .responses ∧ e.args = [] then .missingArgument 0 else .unknownFunction) := by
  rw [reason?_decode_eq_some_iff]
  exact decode?_of_no_word (Group.ofName?_eq_some_iff.mpr hg) (Group.word?_eq_none_iff.mpr hf)

theorem reason?_eq_unknownFunction_iff :
    (decode e).reason? = some .unknownFunction ↔
      ∃ g : Group, e.group ∈ g.names ∧ ¬ g.Has e.function ∧ (g = .responses → e.args ≠ []) := by
  constructor
  · intro h
    cases hg : Group.ofName? e.group with
    | none =>
      rw [reason?_decode_eq_some_iff, decode?_of_no_group hg] at h
      cases h
    | some g =>
      have hmem := Group.ofName?_eq_some_iff.mp hg
      cases hw : g.word? e.function with
      | none =>
        have hf := Group.word?_eq_none_iff.mp hw
        refine ⟨g, hmem, hf, fun hresponses hargs => ?_⟩
        rw [reason?_of_no_word hmem hf, if_pos ⟨hresponses, hargs⟩] at h
        cases h
      | some w =>
        rw [reason?_decode_eq_some_iff, decode?_of_word hg hw] at h
        exact absurd rfl (Word.read_error h).2
  · rintro ⟨g, hg, hf, hargs⟩
    rw [reason?_of_no_word hg hf, if_neg (not_and.mpr hargs)]

/-- An unknown group is reported, and so is an unknown function of a known group, unless responses
are set up and there is no argument. Then the label is missed first. -/
theorem decode_unknown_iff (e : Entry) :
    ((decode e).reason? = some .unknownGroup ↔ ∀ g : Group, e.group ∉ g.names) ∧
    ((decode e).reason? = some .unknownFunction ↔
      ∃ g : Group, e.group ∈ g.names ∧ ¬ g.Has e.function ∧ (g = .responses → e.args ≠ [])) :=
  ⟨reason?_eq_unknownGroup_iff, reason?_eq_unknownFunction_iff⟩

/-- The function is unknown, but its label is reported. The other groups report the function. -/
theorem decode_unknown_without_label :
    "SetupResponse" ∈ Group.responses.names ∧ ¬ Group.responses.Has "SetTeapot" ∧
      (decode ⟨"SetupResponse", "SetTeapot", []⟩).reason? = some (.missingArgument 0) ∧
      (decode ⟨"SetupResponse", "SetTeapot", []⟩).reason? ≠ some .unknownFunction ∧
      ∀ group ∈ ["PrepareData", "Generator", "DynamicVariable"],
        (decode ⟨group, "SetTeapot", []⟩).reason? = some .unknownFunction :=
  ⟨by decide, Group.word?_eq_none_iff.mp (by decide), by decide, by decide, by decide⟩

end Instruction

end MockHttp
