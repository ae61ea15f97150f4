import MockHttp.Http.Response
import MockHttp.Instruction.Decode

/-! # What decoding establishes

An instruction that comes out of decoding was made of a word of its group and of arguments that
passed their checks.
-/

namespace MockHttp

theorem bind_eq_ok_iff {ε α β : Type} {x : Except ε α} {f : α → Except ε β} {b : β} :
    x >>= f = .ok b ↔ ∃ a, x = .ok a ∧ f a = .ok b := by
  cases x with
  | error e => simp [bind, Except.bind]
  | ok a => simp [bind, Except.bind]

theorem bind_of_ok {ε α β : Type} {x : Except ε α} {a : α} (h : x = .ok a)
    (f : α → Except ε β) : x >>= f = f a := by
  rw [h]
  rfl

theorem bind_of_error {ε α β : Type} {x : Except ε α} {e : ε} (h : x = .error e)
    (f : α → Except ε β) : x >>= f = .error e := by
  rw [h]
  rfl

theorem map_bind {ε α β γ : Type} (x : Except ε α) (f : α → β) (g : β → Except ε γ) :
    x.map f >>= g = x >>= fun a => g (f a) := by
  cases x <;> rfl

namespace Arguments

theorem within_eq_ok {args : Arguments} {i low high n : Nat}
    (h : within args i low high = .ok n) : low ≤ n ∧ n ≤ high := by
  obtain ⟨m, -, h⟩ := bind_eq_ok_iff.mp h
  split at h
  · next hm =>
    cases h
    exact hm
  · cases h

end Arguments

namespace Instruction

variable {e : Entry} {args : Arguments}

theorem condition_of_decodeCondition {w : ConditionWord} {i : Instruction}
    (h : decodeCondition w args = .ok i) :
    (∃ part target, i = .extract part target) ∨
      ∃ source measure c expected effect, i = .test source measure c expected effect := by
  cases w with
  | extract part =>
    obtain ⟨_, -, h⟩ := bind_eq_ok_iff.mp h
    obtain ⟨_, -, h⟩ := bind_eq_ok_iff.mp h
    cases h
    exact .inl ⟨_, _, rfl⟩
  | test t switchesCase =>
    obtain ⟨_, -, h⟩ := bind_eq_ok_iff.mp h
    obtain ⟨_, -, h⟩ := bind_eq_ok_iff.mp h
    obtain ⟨_, -, h⟩ := bind_eq_ok_iff.mp h
    obtain ⟨_, -, h⟩ := bind_eq_ok_iff.mp h
    cases h
    exact .inr ⟨_, _, _, _, _, rfl⟩

/-- What decoding an entry makes, group by group. -/
inductive DecodesTo (args : Arguments) : Instruction → Prop where
  | extract (part : RequestPart) (target : String) : DecodesTo args (.extract part target)
  | test (source : Source) (measure : Measure) (c : Condition) (expected : Json)
      (effect : Effect) : DecodesTo args (.test source measure c expected effect)
  | generate {w : GeneratorWord} {g : Generator} :
      decodeGenerator w args = .ok g → DecodesTo args (.generate g)
  | manipulate {w : VariableWord} {op : VariableOp} :
      decodeVariable w args = .ok op → DecodesTo args (.manipulate op)
  | respond {w : ResponseWord} {op : ResponseOp} (label : String) :
      decodeResponse w args = .ok op → DecodesTo args (.respond label op)

theorem decodesTo_of_decode? {i : Instruction} (h : decode? e = .ok i) : DecodesTo e.args i := by
  unfold decode? at h
  split at h
  · cases h
  · obtain ⟨w, -, h⟩ := bind_eq_ok_iff.mp h
    rcases condition_of_decodeCondition h with ⟨_, _, rfl⟩ | ⟨_, _, _, _, _, rfl⟩
    · exact .extract ..
    · exact .test ..
  · obtain ⟨w, -, h⟩ := bind_eq_ok_iff.mp h
    obtain ⟨g, hg, h⟩ := bind_eq_ok_iff.mp h
    cases h
    exact .generate hg
  · obtain ⟨w, -, h⟩ := bind_eq_ok_iff.mp h
    obtain ⟨op, hop, h⟩ := bind_eq_ok_iff.mp h
    cases h
    exact .manipulate hop
  · obtain ⟨label, -, h⟩ := bind_eq_ok_iff.mp h
    obtain ⟨w, -, h⟩ := bind_eq_ok_iff.mp h
    obtain ⟨op, hop, h⟩ := bind_eq_ok_iff.mp h
    cases h
    exact .respond label hop

theorem isStatusCode_of_decodeResponse {w : ResponseWord} {code : Nat}
    (h : decodeResponse w args = .ok (.status code)) : IsStatusCode code := by
  cases w with
  | status =>
    obtain ⟨_, hwithin, h⟩ := bind_eq_ok_iff.mp h
    cases h
    exact Arguments.within_eq_ok hwithin
  | body | wait | copyHeader =>
    obtain ⟨_, -, h⟩ := bind_eq_ok_iff.mp h
    cases h
  | randomWait | header =>
    obtain ⟨_, -, h⟩ := bind_eq_ok_iff.mp h
    obtain ⟨_, -, h⟩ := bind_eq_ok_iff.mp h
    cases h

theorem isStatusCode_of_decode {label : String} {code : Nat}
    (h : decode e = .respond label (.status code)) : IsStatusCode code := by
  unfold decode at h
  split at h
  · next hi =>
    subst h
    cases decodesTo_of_decode? hi with
    | respond _ hop => exact isStatusCode_of_decodeResponse hop
  · cases h

end Instruction

end MockHttp
