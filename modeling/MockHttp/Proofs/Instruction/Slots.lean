import MockHttp.Proofs.Instruction.Arguments
import MockHttp.Proofs.Instruction.Words
import MockHttp.Proofs.Json.Reading
import MockHttp.Proofs.Numeric.Truncation

/-! # Arguments that fit their position

What each word asks for at each position, and which values are acceptable there. A reader reads its
argument if it fits and reports its position otherwise.
-/

namespace MockHttp

/-- What a word asks for at a position. -/
inductive Slot where
  | name
  | value
  | number
  /-- The difference from the number at another position is finite. -/
  | numberNear (position : Nat)
  | integer
  | unsigned
  | within (low high : Nat)
  | condition
  | algorithm
  | headerName
deriving DecidableEq, Repr

/-- The value is acceptable. Names are those that values are displayed as, and fractions of integers
are cut off. -/
def Slot.Fits (args : Arguments) (v : Json) : Slot → Prop
  | name | value => True
  | number => ∃ y, v.ReadsAs y
  | numberNear position => ∃ y, v.ReadsAs y ∧
      ∃ w x z, args[position]? = some w ∧ w.ReadsAs x ∧ y.sub x = .finite z
  | integer => ∃ y, v.ReadsAs y ∧ y.truncate.natAbs < 2 ^ 63
  | unsigned => ∃ y, v.ReadsAs y ∧ 0 ≤ y.truncate ∧ y.truncate < 2 ^ 63
  | within low high => ∃ y, v.ReadsAs y ∧ low ≤ y.truncate ∧ y.truncate ≤ high
  | condition => ∃ c : Condition, v.display = c.name
  | algorithm =>
    v.display.toList.map Char.toUpper ∈ ["MD5".toList, "SHA256".toList, "SHA-256".toList]
  | headerName => HeaderName.IsLegalText v.display

/-! ## The slots of the words -/

def Extracted.slots : Extracted → List Slot
  | header | body | query => [.name]
  | path => []

def Tested.slots : Tested → List Slot
  | header | body | query | .variable | arrayLength | objectLength => [.name, .condition]
  | path => [.condition]
  | kind => [.name]

def ConditionWord.slots : ConditionWord → List Slot
  | extract e => e.slots ++ [.name]
  | test t switchesCase => t.slots ++ .value :: if switchesCase then [.name] else [.name, .value]

def GeneratorWord.slots : GeneratorWord → List Slot
  | randomString => [.within 0 (2 ^ 20), .name]
  | randomInt => [.integer, .integer, .name]
  | randomDigits => [.within 1 18, .name]
  | randomDecimal => [.number, .numberNear 0, .unsigned, .name]
  | hash => [.name, .algorithm, .name]

/-- The parts of a join are not among them. -/
def VariableWord.slots : VariableWord → List Slot
  | toText | toInteger | delete => [.name]
  | substring => [.name, .unsigned, .unsigned, .name]
  | join => [.name, .value]

def ResponseWord.slots : ResponseWord → List Slot
  | body => [.name, .name]
  | status => [.name, .within 100 999]
  | wait => [.name, .unsigned]
  | randomWait => [.name, .unsigned, .unsigned]
  | header => [.name, .headerName, .name]
  | copyHeader => [.name, .headerName]

def Word.slots : Word → List Slot
  | condition w => w.slots
  | generator w => w.slots
  | manipulation w => w.slots
  | response w => w.slots

def Word.arity (w : Word) : Nat := w.slots.length

/-! ## Reading one argument -/

theorem HashAlgorithm.ofName?_eq_none_iff {s : String} : ofName? s = none ↔
    s.toList.map Char.toUpper ∉ ["MD5".toList, "SHA256".toList, "SHA-256".toList] := by
  simp only [ofName?, List.mem_cons, List.not_mem_nil, or_false, not_or]
  split
  · next h => exact iff_of_false (Option.some_ne_none _) fun hnone => hnone.1 h
  · next h =>
    split
    · next h' => exact iff_of_false (Option.some_ne_none _) fun hnone => not_or.mpr hnone.2 h'
    · next h' => exact iff_of_true rfl ⟨h, not_or.mp h'⟩

/-- The position of an argument that does not fit; there is none if it is missing. -/
def DecodeError.unfit? : DecodeError → Option Nat
  | notANumber i | outOfRange i | badCondition i | badAlgorithm i | badHeaderName i => some i
  | unknownGroup | unknownFunction | missingArgument _ => none

/-- The outcome of reading one argument: it is read if it fits and reported otherwise. -/
structure ReadsSlot {α : Type} (slot : Slot) (args : Arguments) (i : Nat)
    (x : Except DecodeError α) : Prop where
  missing : args[i]? = none → x = .error (.missingArgument i)
  fits {v : Json} : args[i]? = some v → slot.Fits args v → ∃ a, x = .ok a
  unfit {v : Json} : args[i]? = some v → ¬ slot.Fits args v →
    ∃ reason, x = .error reason ∧ reason.unfit? = some i

namespace ReadsSlot

open Arguments

variable {α : Type} {slot : Slot} {args : Arguments} {i : Nat}

theorem of_value {f : Json → Except DecodeError α}
    (hfits : ∀ v, slot.Fits args v → ∃ a, f v = .ok a)
    (hunfit : ∀ v, ¬ slot.Fits args v → ∃ reason, f v = .error reason ∧ reason.unfit? = some i) :
    ReadsSlot slot args i (value args i >>= f) where
  missing h := by
    have hvalue : value args i = .error (.missingArgument i) := by simp only [value, h]
    exact bind_of_error hvalue f
  fits h hfit := by
    rw [bind_of_ok (value_of_getElem? h)]
    exact hfits _ hfit
  unfit h hfit := by
    rw [bind_of_ok (value_of_getElem? h)]
    exact hunfit _ hfit

theorem of_name {f : String → Except DecodeError α}
    (hfits : ∀ v, slot.Fits args v → ∃ a, f v.display = .ok a)
    (hunfit : ∀ v, ¬ slot.Fits args v →
      ∃ reason, f v.display = .error reason ∧ reason.unfit? = some i) :
    ReadsSlot slot args i (name args i >>= f) := by
  rw [Arguments.name, map_bind]
  exact of_value hfits hunfit

theorem of_number {f : Binary64 → Except DecodeError α} {P : Binary64 → Prop}
    (hslot : ∀ v, slot.Fits args v ↔ ∃ y, v.ReadsAs y ∧ P y)
    (hfits : ∀ y, P y → ∃ a, f y = .ok a)
    (hunfit : ∀ y, ¬ P y → f y = .error (.outOfRange i)) :
    ReadsSlot slot args i (number args i >>= f) := by
  rw [Arguments.number, bind_assoc]
  refine of_value (fun v hv => ?_) (fun v hv => ?_)
  · obtain ⟨y, hy, hP⟩ := (hslot v).mp hv
    rw [Json.spelledNumber?_eq_some_iff.mpr hy]
    exact hfits y hP
  · rw [hslot] at hv
    cases hy : v.spelledNumber? with
    | none => exact ⟨_, rfl, rfl⟩
    | some y =>
      have hnot : ¬ P y := fun h => hv ⟨y, Json.spelledNumber?_eq_some_iff.mp hy, h⟩
      exact ⟨_, hunfit y hnot, rfl⟩

theorem value (args : Arguments) (i : Nat) : ReadsSlot .value args i (value args i) := by
  rw [← bind_pure (Arguments.value args i)]
  exact of_value (fun v _ => ⟨v, rfl⟩) (fun v hv => (hv trivial).elim)

theorem name (args : Arguments) (i : Nat) : ReadsSlot .name args i (name args i) := by
  rw [← bind_pure (Arguments.name args i)]
  exact of_name (fun v _ => ⟨v.display, rfl⟩) (fun v hv => (hv trivial).elim)

theorem number (args : Arguments) (i : Nat) : ReadsSlot .number args i (number args i) := by
  rw [← bind_pure (Arguments.number args i)]
  refine of_number (P := fun _ => True) (fun v => ?_) (fun y _ => ⟨y, rfl⟩) ?_
  · simp only [Slot.Fits, and_true]
  · exact fun y hy => (hy trivial).elim

theorem le_magnitude_iff {y : Binary64} :
    0x8000000000000000 * Binary64.one ≤ y.magnitude ↔ 2 ^ 63 ≤ y.truncate.natAbs := by
  have hbound : 0x8000000000000000 = 2 ^ 63 := rfl
  rw [Binary64.natAbs_truncate, Nat.le_div_iff_mul_le Binary64.one_pos, hbound]

theorem of_integer {f : Int → Except DecodeError α} {P : Int → Prop}
    (hslot : ∀ v, slot.Fits args v ↔
      ∃ y, v.ReadsAs y ∧ y.truncate.natAbs < 2 ^ 63 ∧ P y.truncate)
    (hfits : ∀ n, P n → ∃ a, f n = .ok a)
    (hunfit : ∀ n, ¬ P n → f n = .error (.outOfRange i)) :
    ReadsSlot slot args i (integer args i >>= f) := by
  rw [Arguments.integer, bind_assoc]
  refine of_number hslot ?_ ?_
  · rintro y ⟨hbound, hP⟩
    rw [if_neg (mt le_magnitude_iff.mp (Nat.not_le.mpr hbound)), pure_bind]
    exact hfits _ hP
  · intro y hy
    split
    · rfl
    · next hbound =>
      rw [le_magnitude_iff, Nat.not_le] at hbound
      rw [pure_bind]
      exact hunfit _ fun hP => hy ⟨hbound, hP⟩

theorem integer (args : Arguments) (i : Nat) : ReadsSlot .integer args i (integer args i) := by
  rw [← bind_pure (Arguments.integer args i)]
  refine of_integer (P := fun _ => True) (fun v => ?_) (fun n _ => ⟨n, rfl⟩) ?_
  · simp only [Slot.Fits, and_true]
  · exact fun n hn => (hn trivial).elim

theorem unsigned (args : Arguments) (i : Nat) : ReadsSlot .unsigned args i (unsigned args i) := by
  refine of_integer (P := fun n => 0 ≤ n) (fun v => ?_) (fun n hn => ?_) (fun n hn => ?_)
  · exact exists_congr fun y => and_congr_right fun _ => by omega
  · rw [if_neg (Int.not_lt.mpr hn)]
    exact ⟨n.toNat, rfl⟩
  · rw [if_pos (Int.not_le.mp hn)]
    rfl

theorem within (args : Arguments) (i : Nat) {low high : Nat} (h : high < 2 ^ 63) :
    ReadsSlot (.within low high) args i (within args i low high) := by
  rw [Arguments.within, Arguments.unsigned, bind_assoc]
  refine of_integer (P := fun n => low ≤ n ∧ n ≤ high) (fun v => ?_) (fun n hn => ?_)
    (fun n hn => ?_)
  · exact exists_congr fun y => and_congr_right fun _ => by omega
  · rw [if_neg (by omega), pure_bind, if_pos (by omega)]
    exact ⟨n.toNat, rfl⟩
  · split
    · rfl
    · rw [pure_bind, if_neg (by omega)]
      rfl

theorem condition (args : Arguments) (i : Nat) :
    ReadsSlot .condition args i (condition args i) := by
  refine of_name ?_ ?_
  · rintro v ⟨c, hc⟩
    rw [hc, Condition.ofName?_name]
    exact ⟨c, rfl⟩
  · intro v hv
    cases hname : Condition.ofName? v.display with
    | none => exact ⟨_, rfl, rfl⟩
    | some c =>
      have hc := List.find?_some hname
      exact (hv ⟨c, (beq_iff_eq.mp hc).symm⟩).elim

theorem algorithm (args : Arguments) (i : Nat) :
    ReadsSlot .algorithm args i (algorithm args i) := by
  refine of_name ?_ ?_
  · intro v hv
    cases hname : HashAlgorithm.ofName? v.display with
    | none => exact (HashAlgorithm.ofName?_eq_none_iff.mp hname hv).elim
    | some a => exact ⟨a, rfl⟩
  · intro v hv
    rw [HashAlgorithm.ofName?_eq_none_iff.mpr hv]
    exact ⟨_, rfl, rfl⟩

theorem headerName (args : Arguments) (i : Nat) :
    ReadsSlot .headerName args i (headerName args i) := by
  refine of_name ?_ ?_
  · intro v hv
    obtain ⟨h, hh⟩ := HeaderName.exists_ofText? hv
    rw [hh]
    exact ⟨h, rfl⟩
  · intro v hv
    cases hname : HeaderName.ofText? v.display with
    | none => exact ⟨_, rfl, rfl⟩
    | some h => exact (hv (HeaderName.isLegalText_of_ofText? hname)).elim

end ReadsSlot

namespace Arguments

variable {args : Arguments} {i : Nat} {x : Binary64}

def numberNear (args : Arguments) (i : Nat) (x : Binary64) : Except DecodeError Binary64 := do
  let y ← number args i
  if (y.sub x).finite?.isNone then throw (.outOfRange i)
  else return y

theorem value_eq_ok_iff {v : Json} : value args i = .ok v ↔ args[i]? = some v := by
  unfold value
  cases args[i]? <;> simp

theorem number_eq_ok_iff : number args i = .ok x ↔ ∃ v, args[i]? = some v ∧ v.ReadsAs x := by
  rw [number, bind_eq_ok_iff]
  refine exists_congr fun v => and_congr value_eq_ok_iff ?_
  rw [← Json.spelledNumber?_eq_some_iff]
  cases v.spelledNumber? with
  | none =>
    constructor
    · intro h
      cases h
    · intro h
      cases h
  | some y =>
    constructor
    · intro h
      cases h
      rfl
    · intro h
      cases h
      rfl

end Arguments

theorem ReadsSlot.numberNear {args : Arguments} {j : Nat} {x : Binary64}
    (hx : Arguments.number args j = .ok x) (i : Nat) :
    ReadsSlot (.numberNear j) args i (Arguments.numberNear args i x) := by
  obtain ⟨w, hw, hwx⟩ := Arguments.number_eq_ok_iff.mp hx
  refine of_number (P := fun y => ∃ z, y.sub x = .finite z) (fun v => ?_) ?_ ?_
  · refine exists_congr fun y => and_congr_right fun _ => ?_
    constructor
    · rintro ⟨w', x', z, hw', hwx', hz⟩
      have hx' := hx.symm.trans (Arguments.number_eq_ok_iff.mpr ⟨w', hw', hwx'⟩)
      cases hx'
      exact ⟨z, hz⟩
    · rintro ⟨z, hz⟩
      exact ⟨w, x, z, hw, hwx, hz⟩
  · rintro y ⟨z, hz⟩
    rw [hz]
    exact ⟨y, rfl⟩
  · intro y hy
    cases hsub : y.sub x with
    | finite z => exact (hy ⟨z, hsub⟩).elim
    | infinite | notANumber => rfl

end MockHttp
