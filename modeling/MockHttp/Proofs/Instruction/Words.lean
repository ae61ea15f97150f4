import MockHttp.Proofs.Instruction.Decode

/-! # The words of all groups

The functions of the four groups taken together. An entry bears the word of its function if the
group has one of that name, and is then decoded as the word says, whichever spelling of the group it
uses.
-/

namespace MockHttp

inductive Word where
  | condition (w : ConditionWord)
  | generator (w : GeneratorWord)
  | manipulation (w : VariableWord)
  | response (w : ResponseWord)
deriving DecidableEq, Repr

namespace Word

def group : Word → Group
  | condition _ => .conditions
  | generator _ => .generators
  | manipulation _ => .manipulations
  | response _ => .responses

def name : Word → String
  | condition w => w.name
  | generator w => w.name
  | manipulation w => w.name
  | response w => w.name

def read (w : Word) (args : Arguments) : Except DecodeError Instruction :=
  match w with
  | condition w => Instruction.decodeCondition w args
  | generator w => (Instruction.decodeGenerator w args).map .generate
  | manipulation w => (Instruction.decodeVariable w args).map .manipulate
  | response w => do
    let label ← Arguments.name args 0
    (Instruction.decodeResponse w args).map (.respond label)

end Word

namespace Group

def word? (g : Group) (function : String) : Option Word :=
  match g with
  | conditions => (ConditionWord.ofName? function).map .condition
  | generators => (GeneratorWord.ofName? function).map .generator
  | manipulations => (VariableWord.ofName? function).map .manipulation
  | responses => (ResponseWord.ofName? function).map .response

theorem word?_eq_some_iff {g : Group} {function : String} {w : Word} :
    g.word? function = some w ↔ w.group = g ∧ w.name = function := by
  constructor
  · intro h
    cases g with
    | conditions | generators | manipulations | responses =>
      obtain ⟨v, hv, rfl⟩ := Option.map_eq_some_iff.mp h
      have hname := List.find?_some hv
      exact ⟨rfl, beq_iff_eq.mp hname⟩
  · rintro ⟨rfl, rfl⟩
    cases w with
    | condition w => exact congrArg (Option.map _) (ConditionWord.ofName?_name w)
    | generator w => exact congrArg (Option.map _) (GeneratorWord.ofName?_name w)
    | manipulation w => exact congrArg (Option.map _) (VariableWord.ofName?_name w)
    | response w => exact congrArg (Option.map _) (ResponseWord.ofName?_name w)

def Has (g : Group) (function : String) : Prop := ∃ w : Word, w.group = g ∧ w.name = function

theorem word?_eq_none_iff {g : Group} {function : String} :
    g.word? function = none ↔ ¬ g.Has function := by
  simp only [Option.eq_none_iff_forall_ne_some, ne_eq, word?_eq_some_iff, Has, not_exists]

theorem ofName?_eq_none_iff {s : String} : ofName? s = none ↔ ∀ g : Group, s ∉ g.names := by
  simp only [Option.eq_none_iff_forall_ne_some, ne_eq, ofName?_eq_some_iff]

end Group

namespace Instruction

/-- Why the instruction is invalid, if it is. -/
def reason? : Instruction → Option DecodeError
  | invalid _ _ reason => some reason
  | _ => none

variable {e : Entry} {g : Group} {w : Word}

theorem reason?_of_isValid {i : Instruction} (h : i.isValid = true) : i.reason? = none := by
  cases i with
  | invalid => cases h
  | _ => rfl

theorem isValid_of_decode? {i : Instruction} (h : decode? e = .ok i) : i.isValid = true := by
  cases decodesTo_of_decode? h <;> rfl

theorem reason?_decode_eq_some_iff {reason : DecodeError} :
    (decode e).reason? = some reason ↔ decode? e = .error reason := by
  unfold decode
  cases h : decode? e with
  | ok i => simp [reason?_of_isValid (isValid_of_decode? h)]
  | error other => simp [reason?]

theorem isValid_decode_iff : (decode e).isValid = true ↔ ∃ i, decode? e = .ok i := by
  unfold decode
  cases h : decode? e with
  | ok i => simp [isValid_of_decode? h]
  | error reason => simp [isValid]

theorem decode?_of_ofName?_eq {spelling : String}
    (h : Group.ofName? spelling = Group.ofName? e.group) :
    decode? { e with group := spelling } = decode? e := by
  simp only [decode?, h]

/-- The spellings of a group decode every entry alike. -/
theorem decode_of_spellings {spelling other : String} (hs : spelling ∈ g.names)
    (ho : other ∈ g.names) (function : String) (args : Arguments) :
    (decode ⟨other, function, args⟩).reason? = (decode ⟨spelling, function, args⟩).reason? ∧
      ((decode ⟨spelling, function, args⟩).isValid = true →
        decode ⟨other, function, args⟩ = decode ⟨spelling, function, args⟩) := by
  have hgroup : Group.ofName? other = Group.ofName? spelling := by
    rw [Group.ofName?_eq_some_iff.mpr hs, Group.ofName?_eq_some_iff.mpr ho]
  have hdecode : decode? ⟨other, function, args⟩ = decode? ⟨spelling, function, args⟩ :=
    decode?_of_ofName?_eq (e := ⟨spelling, function, args⟩) hgroup
  constructor
  · apply Option.ext
    intro reason
    rw [reason?_decode_eq_some_iff, reason?_decode_eq_some_iff, hdecode]
  · intro hvalid
    obtain ⟨i, hi⟩ := isValid_decode_iff.mp hvalid
    simp only [decode, hdecode, hi]

theorem decode?_of_word (hg : Group.ofName? e.group = some g) (hw : g.word? e.function = some w) :
    decode? e = w.read e.args := by
  cases g with
  | conditions | generators | manipulations =>
    obtain ⟨v, hv, rfl⟩ := Option.map_eq_some_iff.mp hw
    simp only [decode?, hg, hv]
    rfl
  | responses =>
    obtain ⟨v, hv, rfl⟩ := Option.map_eq_some_iff.mp hw
    simp only [decode?, hg, hv]
    rfl

theorem decode?_of_no_word (hg : Group.ofName? e.group = some g)
    (hw : g.word? e.function = none) :
    decode? e = .error
      (if g = .responses ∧ e.args = [] then .missingArgument 0 else .unknownFunction) := by
  cases g with
  | conditions | generators | manipulations =>
    simp only [decode?, hg, Option.map_eq_none_iff.mp hw]
    rfl
  | responses =>
    simp only [decode?, hg, Option.map_eq_none_iff.mp hw]
    cases e.args <;> rfl

theorem decode?_of_no_group (hg : Group.ofName? e.group = none) :
    decode? e = .error .unknownGroup := by
  simp only [decode?, hg]
  rfl

end Instruction

end MockHttp
