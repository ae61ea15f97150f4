import MockHttp.Proofs.Execution.Reference
import MockHttp.Proofs.Numeric.Nearest
import MockHttp.Proofs.Numeric.WholeText

/-! # Whole numbers as text

A whole number can be spelled as an integer or as a floating-point number. Below `10 ^ 15` both
spellings have one text, so nothing that works on texts tells them apart; from there on the
floating-point number shows a fractional part.
-/

namespace MockHttp

open Binary64

namespace Condition

variable {c : Condition} {m n : Number}

theorem compareTexts_number_congr (h : m.display = n.display)
    (relates : List Char → List Char → Bool) (v : Json) :
    compareTexts relates (.number m) v = compareTexts relates (.number n) v ∧
      compareTexts relates v (.number m) = compareTexts relates v (.number n) := by
  have hchars : (Json.number m).displayChars = (Json.number n).displayChars := h
  unfold compareTexts
  rw [hchars]
  exact ⟨rfl, rfl⟩

theorem holds_number_congr (h : m.display = n.display) (hc : c.isTextual = true) (v : Json) :
    c.holds (.number m) v = c.holds (.number n) v ∧
      c.holds v (.number m) = c.holds v (.number n) := by
  cases c with
  | contains | notContains | startsWith | endsWith =>
    simp only [holds]
    exact compareTexts_number_congr h _ v
  | equal | notEqual | greaterThan | lessThan | greaterThanOrEqual | lessThanOrEqual => cases hc

end Condition

namespace Template

variable {a b : Json}

theorem render_insert_congr (h : a.displayChars = b.displayChars) (template : String)
    (vars : Variables) (name : String) :
    render template (vars.insert name a) = render template (vars.insert name b) := by
  have hpiece (p : Piece) : p.render (vars.insert name a) = p.render (vars.insert name b) := by
    cases p with
    | literal cs => rfl
    | reference other =>
      simp only [Piece.render, Dict.get?_insert]
      by_cases hname : String.ofList other = name
      · simp only [if_pos hname, h]
      · simp only [if_neg hname]
  unfold render renderChars
  simp only [hpiece]

end Template

namespace Number

/-- No condition on texts, template, hash or join tells the two numbers apart. -/
structure Interchangeable (m n : Number) : Prop where
  actual : ∀ (c : Condition) (v : Json), c.isTextual = true →
    c.holds (.number m) v = c.holds (.number n) v
  expected : ∀ (c : Condition) (v : Json), c.isTextual = true →
    c.holds v (.number m) = c.holds v (.number n)
  template : ∀ (template : String) (vars : Variables) (name : String),
    Template.render template (vars.insert name (.number m)) =
      Template.render template (vars.insert name (.number n))
  hash : ∀ (vars : Variables) (d : Draw) (name source : String) (algorithm : HashAlgorithm)
      (target : String),
    (Generator.hash source algorithm target).value? (vars.insert name (.number m)) d =
      (Generator.hash source algorithm target).value? (vars.insert name (.number n)) d
  joinedVariable : ∀ (e : Execution) (name target : String) (separator : Json)
      (parts : List Json),
    ((e.bind name (.number m)).manipulate (.join target separator parts)).vars.get? target =
      ((e.bind name (.number n)).manipulate (.join target separator parts)).vars.get? target
  joinedPart : ∀ (e : Execution) (target : String) (separator : Json) (before after : List Json),
    e.manipulate (.join target separator (before ++ .number m :: after)) =
      e.manipulate (.join target separator (before ++ .number n :: after))
  separator : ∀ (e : Execution) (target : String) (parts : List Json),
    e.manipulate (.join target (.number m) parts) = e.manipulate (.join target (.number n) parts)

variable {m n : Number}

theorem display_resolve_congr (h : m.display = n.display) (e : Execution) (name : String)
    (v : Json) : ((e.bind name (.number m)).resolve v).display =
      ((e.bind name (.number n)).resolve v).display := by
  cases v with
  | string s =>
    have hchars : (Json.number m).displayChars = (Json.number n).displayChars := h
    exact congrArg (Json.display ∘ Json.string) (Template.render_insert_congr hchars s e.vars name)
  | null | bool _ | number _ | array _ | object _ => rfl

/-- Numbers stand for themselves in every use of their text, so the text decides. -/
theorem interchangeable_iff : Interchangeable m n ↔ m.display = n.display := by
  constructor
  · intro h
    have hname : Template.IsName "A" := ⟨by decide, List.all_eq_true.mp (by decide)⟩
    have hget (v : Json) : ((∅ : Variables).insert "A" v).get? "A" = some v := by
      rw [Dict.get?_insert, if_pos rfl]
    have hrender := h.template (Template.referenceTo "A") ∅ "A"
    rw [Template.render_referenceTo hname (hget _), Template.render_referenceTo hname (hget _)]
      at hrender
    exact String.ofList_injective hrender
  · intro h
    have hdisplay : (Json.number m).display = (Json.number n).display := congrArg String.ofList h
    constructor
    · exact fun c v hc => (Condition.holds_number_congr h hc v).1
    · exact fun c v hc => (Condition.holds_number_congr h hc v).2
    · exact Template.render_insert_congr h
    · intro vars d name source algorithm target
      simp only [Generator.value?, Dict.get?_insert]
      by_cases hname : source = name
      · simp only [if_pos hname, Option.map_some, hdisplay]
      · simp only [if_neg hname]
    · intro e name target separator parts
      simp only [Execution.manipulate, Execution.get?_bind, display_resolve_congr h]
    · intro e target separator before after
      simp only [Execution.manipulate, List.map_append, List.map_cons, Execution.resolve, hdisplay]
    · intro e target parts
      simp only [Execution.manipulate, Execution.resolve, hdisplay]

/-! ## Where the spellings differ -/

variable {n : Int} {x : Binary64}

theorem display_float_of_units_eq (hn : n.natAbs ≤ 2 ^ 53) (hx : x.units = n * one) :
    (float x).display = Digits.ofInt n ++ if n.natAbs < 10 ^ 15 then [] else ['.', '0'] := by
  have hwhole : integerLike x = decide (n.natAbs < 10 ^ 15) := by
    have hlimit : 1000000000000000 = 10 ^ 15 := by decide
    rw [integerLike, isWhole, magnitude_of_units_eq hx, Nat.mul_mod_left, beq_self_eq_true,
      Bool.true_and, decide_eq_decide, Nat.mul_lt_mul_right Binary64.one_pos, hlimit]
  rw [display, hwhole]
  by_cases hsmall : n.natAbs < 10 ^ 15
  · rw [if_pos hsmall, if_pos (decide_eq_true hsmall), truncate_of_units_eq hx, List.append_nil]
  · rw [if_neg hsmall, if_neg (by simpa using hsmall),
      text_of_units_eq hx (Nat.le_of_not_lt hsmall) hn]

/-- A whole number up to `2 ^ 53` has its digits for a text if it is spelled as an integer. Spelled
as a floating-point number, be it the negative zero, it has the same text exactly below `10 ^ 15`,
and only then are the spellings interchangeable; from there on a point and a zero follow the digits.
-/
theorem whole_interchangeable_iff (hn : n.natAbs ≤ 2 ^ 53) (hx : x.units = n * one) :
    (Json.int n).display = Digits.intText n ∧
    (Json.float x).display =
      (if n.natAbs < 10 ^ 15 then Digits.intText n else Digits.intText n ++ ".0") ∧
    (Interchangeable (int n) (float x) ↔ n.natAbs < 10 ^ 15) := by
  have htext := display_float_of_units_eq hn hx
  refine ⟨rfl, ?_, ?_⟩
  · have hfloat : (Json.float x).display = String.ofList (float x).display := rfl
    rw [hfloat, htext]
    by_cases hsmall : n.natAbs < 10 ^ 15
    · rw [if_pos hsmall, if_pos hsmall, List.append_nil]
      rfl
    · rw [if_neg hsmall, if_neg hsmall, String.ofList_append]
      rfl
  · have hint : (int n).display = Digits.ofInt n := rfl
    rw [interchangeable_iff, htext, hint]
    simp

/-- The least whole number whose spellings are interchangeable. -/
theorem whole_interchangeable_least :
    let n : Int := -999999999999999
    n.natAbs ≤ 2 ^ 53 ∧ (ofInt n).units = n * one ∧
      (Json.float (ofInt n)).display = "-999999999999999" ∧
      Interchangeable (int n) (float (ofInt n)) := by
  intro n
  have hn : n.natAbs ≤ 2 ^ 53 := by decide
  have hx := units_ofInt_of_le hn
  obtain ⟨-, htext, hiff⟩ := whole_interchangeable_iff hn hx
  refine ⟨hn, hx, ?_, hiff.mpr (by decide)⟩
  rw [htext, if_pos (by decide)]
  decide

/-- The first whole number whose spellings differ. -/
theorem whole_texts_differ :
    let n : Int := 1000000000000000
    (ofInt n).units = n * one ∧ (Json.int n).display = "1000000000000000" ∧
      (Json.float (ofInt n)).display = "1000000000000000.0" ∧
      ¬ Interchangeable (int n) (float (ofInt n)) := by
  intro n
  have hn : n.natAbs ≤ 2 ^ 53 := by decide
  have hx := units_ofInt_of_le hn
  have htext := display_float_of_units_eq hn hx
  rw [if_neg (by decide)] at htext
  refine ⟨hx, by decide, ?_, ?_⟩
  · have hchars : (Json.float (ofInt n)).displayChars = (float (ofInt n)).display := rfl
    rw [Json.display, hchars, htext]
    decide
  · rw [interchangeable_iff, htext]
    decide

end Number

end MockHttp
