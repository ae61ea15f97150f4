import MockHttp.Execution.Step
import MockHttp.Proofs.Instruction.Denotation
import MockHttp.Proofs.Template.Reference

/-! # Tests against a reference

A reference is written as a template, so a test compares with the text that the variable is shown
as. For a text variable that is the variable itself. Conditions on texts see no difference for
other values, null apart; an equality needs the text, and an ordering never holds of one.
-/

namespace MockHttp

namespace Condition

def isOrdering : Condition → Bool
  | greaterThan | lessThan | greaterThanOrEqual | lessThanOrEqual => true
  | _ => false

def isTextual : Condition → Bool
  | contains | notContains | startsWith | endsWith => true
  | _ => false

variable {c : Condition} {a b : Json} {s : String}

theorem holds_equal_string_iff : equal.holds a (.string s) = true ↔ a = .string s := by
  cases a with
  | string t => simp [holds, valuesEqual, Json.isNull, Json.number?, Json.same]
  | null | bool b | number n | array items | object members =>
    simp [holds, valuesEqual, Json.isNull, Json.number?, Json.same]

theorem compareNumbers_string (relates : Binary64 → Binary64 → Bool) :
    compareNumbers relates a (.string s) = false := by
  unfold compareNumbers
  cases a.number? <;> rfl

theorem not_holds_string_of_isOrdering (hc : c.isOrdering = true) :
    c.holds a (.string s) = false := by
  cases c with
  | greaterThan | lessThan | greaterThanOrEqual | lessThanOrEqual =>
    simp only [holds, compareNumbers_string]
  | equal | notEqual | contains | notContains | startsWith | endsWith => cases hc

theorem compareTexts_display (relates : List Char → List Char → Bool) (hb : b ≠ .null) :
    compareTexts relates a (.string b.display) = compareTexts relates a b := by
  have hnull : b.isNull = false := by
    cases b with
    | null => exact (hb rfl).elim
    | bool _ | number _ | string _ | array _ | object _ => rfl
  have hchars : (Json.string b.display).displayChars = b.displayChars := String.toList_ofList
  rw [compareTexts, compareTexts, hnull, hchars]
  rfl

theorem holds_display_of_isTextual (hc : c.isTextual = true) (hb : b ≠ .null) :
    c.holds a (.string b.display) = c.holds a b := by
  cases c with
  | contains | notContains | startsWith | endsWith => simp only [holds, compareTexts_display _ hb]
  | equal | notEqual | greaterThan | lessThan | greaterThanOrEqual | lessThanOrEqual => cases hc

end Condition

namespace Execution

variable {e : Execution} {left right : String} {a b : Json}

theorem resolve_reference (hname : Template.IsName right) (hb : e.vars.get? right = some b) :
    e.resolve (Operand.variable right).toJson = .string b.display := by
  rw [Operand.toJson, resolve, Template.render_referenceTo hname hb]

theorem step_test_variable (ha : e.vars.get? left = some a) (d : Draw) (c : Condition)
    (expected : Operand) (outcome : Outcome) :
    e.step d (Instruction.decode (Draft.test (.variable left) c expected outcome).entry) =
      if c.holds a (e.resolve expected.toJson) then e.applyEffect outcome.effect else e := by
  rw [Instruction.decode_test, step, passes, read, ha]
  rfl

theorem step_test_reference (ha : e.vars.get? left = some a) (hb : e.vars.get? right = some b)
    (hname : Template.IsName right) (d : Draw) (c : Condition) (outcome : Outcome) :
    e.step d (Instruction.decode (Draft.test (.variable left) c (.variable right) outcome).entry) =
      if c.holds a (.string b.display) then e.applyEffect outcome.effect else e := by
  rw [step_test_variable ha, resolve_reference hname hb]

/-- What a test against a reference does, and what its condition says of the two values. -/
theorem step_reference_iff_holds_display (ha : e.vars.get? left = some a)
    (hb : e.vars.get? right = some b) (hname : Template.IsName right) (d : Draw) (c : Condition)
    (target label : String) (value : Operand) :
    e.step d (Instruction.decode
        (Draft.test (.variable left) c (.variable right) (.bind target value)).entry) =
      (if c.holds a (.string b.display) then e.bind target (e.resolve value.toJson) else e) ∧
    e.step d (Instruction.decode
        (Draft.test (.variable left) c (.variable right) (.switchCase label)).entry) =
      (if c.holds a (.string b.display) then { e with activeCase := label } else e) ∧
    (b.kind = .string → c.holds a (.string b.display) = c.holds a b) ∧
    (c.isTextual = true → b ≠ .null → c.holds a (.string b.display) = c.holds a b) ∧
    (Condition.equal.holds a (.string b.display) = true ↔ a = .string b.display) ∧
    (c.isOrdering = true → c.holds a (.string b.display) = false) := by
  refine ⟨step_test_reference ha hb hname .., step_test_reference ha hb hname .., ?_,
    Condition.holds_display_of_isTextual, Condition.holds_equal_string_iff,
    Condition.not_holds_string_of_isOrdering⟩
  intro hkind
  cases b with
  | string s => rw [Json.display_string]
  | null | bool _ | number _ | array _ | object _ => cases hkind

/-- The text of a number equals a reference to the number. -/
theorem step_reference_number_of_text :
    let e := ((start ⟨"GET", "/", [], [], []⟩).bind "A" (.string "15")).bind "B" (.int 15)
    e.vars.get? "A" = some (.string "15") ∧ e.vars.get? "B" = some (.int 15) ∧
      Template.IsName "B" ∧
      e.step ⟨id, 0, .zero false⟩ (Instruction.decode
          (Draft.test (.variable "A") .equal (.variable "B") (.switchCase "same")).entry) =
        { e with activeCase := "same" } := by
  intro e
  have ha : e.vars.get? "A" = some (.string "15") := by simp [e, bind]
  have hb : e.vars.get? "B" = some (.int 15) := by simp [e, bind]
  have hname : Template.IsName "B" := ⟨by decide, List.all_eq_true.mp (by decide)⟩
  have hpasses : Condition.equal.holds (.string "15") (.string (Json.int 15).display) = true :=
    Condition.holds_equal_string_iff.mpr rfl
  refine ⟨ha, hb, hname, ?_⟩
  rw [(step_reference_iff_holds_display ha hb hname _ _ "" _ .null).2.1, if_pos hpasses]

/-- A number does not equal a reference to the same number. -/
theorem step_reference_equal_numbers :
    let e := ((start ⟨"GET", "/", [], [], []⟩).bind "A" (.int 5)).bind "B" (.int 5)
    Condition.equal.holds (.int 5) (.int 5) = true ∧
      e.step ⟨id, 0, .zero false⟩ (Instruction.decode
          (Draft.test (.variable "A") .equal (.variable "B") (.switchCase "same")).entry) = e ∧
      e.activeCase = "" := by
  intro e
  have ha : e.vars.get? "A" = some (.int 5) := by simp [e, bind]
  have hb : e.vars.get? "B" = some (.int 5) := by simp [e, bind]
  have hname : Template.IsName "B" := ⟨by decide, List.all_eq_true.mp (by decide)⟩
  have hfails : ¬ Condition.equal.holds (.int 5) (.string (Json.int 5).display) = true := by
    rw [Condition.holds_equal_string_iff]
    intro h
    cases h
  refine ⟨?_, ?_, rfl⟩
  · simp [Condition.holds, Condition.valuesEqual, Json.int, Json.isNull, Json.number?,
      Binary64.sameValue]
  · rw [step_test_reference ha hb hname, if_neg hfails]

end Execution

end MockHttp
