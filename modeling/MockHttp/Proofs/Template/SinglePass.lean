import MockHttp.Instruction.Draft
import MockHttp.Proofs.Template.Reference

/-! # Rendering in a single pass

What a template consists of is said without regard to variables: literal text up to the first
opening braces, a reference up to the first closing ones, and so on to the end. Rendering puts
texts in the place of the references and looks into none of them again.
-/

namespace MockHttp.Template

def opening : List Char := ['\x7b', '\x7b']

def closing : List Char := ['\x7d', '\x7d']

/-- Between the braces of a reference stand a dot and the name, with blanks around them. -/
structure IsReference (inner name : List Char) : Prop where
  ne_nil : name ≠ []
  isWordChar : ∀ c ∈ name, Text.isWordChar c = true
  blanks : ∃ l r, inner = l ++ '.' :: name ++ r ∧ (∀ c ∈ l, Text.isBlank c = true) ∧
    ∀ c ∈ r, Text.isBlank c = true

inductive Consists : List Char → List Piece → Prop where
  | literal {cs : List Char} : ¬ opening <:+: cs → Consists cs [.literal cs]
  | reference {cs before inside inner name after : List Char} {pieces : List Piece} :
      Text.IsFirstCut opening cs before inside → Text.IsFirstCut closing inside inner after →
      IsReference inner name → Consists after pieces →
      Consists cs (.literal before :: .reference name :: pieces)

/-- Some reference of the template is not closed or names nothing. -/
inductive Malformed : List Char → Prop where
  | unclosed {cs before inside : List Char} : Text.IsFirstCut opening cs before inside →
      ¬ closing <:+: inside → Malformed cs
  | nameless {cs before inside inner after : List Char} :
      Text.IsFirstCut opening cs before inside → Text.IsFirstCut closing inside inner after →
      (∀ name, ¬ IsReference inner name) → Malformed cs
  | behind {cs before inside inner after : List Char} :
      Text.IsFirstCut opening cs before inside → Text.IsFirstCut closing inside inner after →
      Malformed after → Malformed cs

inductive AreWritten : List Piece → List Char → Prop where
  | nil : AreWritten [] []
  | literal {cs text : List Char} {pieces : List Piece} : AreWritten pieces text →
      AreWritten (.literal cs :: pieces) (cs ++ text)
  | reference {inner name text : List Char} {pieces : List Piece} : IsReference inner name →
      AreWritten pieces text →
      AreWritten (.reference name :: pieces) (opening ++ inner ++ closing ++ text)

variable {cs inner name : List Char} {pieces : List Piece}

/-! ## Names -/

theorem not_isBlank_dot_name (h : ∀ c ∈ name, Text.isWordChar c = true) :
    ∀ c ∈ '.' :: name, Text.isBlank c = false := by
  intro c hc
  rcases List.mem_cons.mp hc with rfl | hc
  · decide
  · exact Text.isBlank_of_isWordChar (h c hc)

theorem name?_eq_some_iff : name? inner = some name ↔ IsReference inner name := by
  constructor
  · intro h
    obtain ⟨l, r, heq, hl, hr⟩ := Text.exists_trimmed inner
    unfold name? at h
    split at h
    · next htrimmed =>
      split at h
      · next hn =>
        cases h
        rw [htrimmed] at heq
        exact ⟨hn.1, List.all_eq_true.mp hn.2, l, r, heq, hl, hr⟩
      · cases h
    · cases h
  · rintro ⟨hne, hword, l, r, rfl, hl, hr⟩
    have hall : name.all Text.isWordChar = true := List.all_eq_true.mpr hword
    rw [name?, Text.trimmed_append hl (not_isBlank_dot_name hword) hr]
    exact if_pos ⟨hne, hall⟩

theorem name?_eq_none_iff : name? inner = none ↔ ∀ name, ¬ IsReference inner name := by
  simp only [Option.eq_none_iff_forall_ne_some, ne_eq, name?_eq_some_iff]

/-! ## Pieces -/

theorem parse?_of_not_infix (h : ¬ opening <:+: cs) : parse? cs = some [.literal cs] := by
  have hcut := Text.cutAtPair_eq_none_iff.mpr h
  rw [parse?]
  split
  · rfl
  · next hsome =>
    rw [hcut] at hsome
    cases hsome

theorem parse?_of_unclosed {before inside : List Char}
    (hopen : Text.IsFirstCut opening cs before inside) (h : ¬ closing <:+: inside) :
    parse? cs = none := by
  have hcut := Text.cutAtPair_eq_some_iff.mpr hopen
  have hcut' := Text.cutAtPair_eq_none_iff.mpr h
  rw [parse?]
  split
  · next hnone =>
    rw [hcut] at hnone
    cases hnone
  · next hsome =>
    rw [hcut] at hsome
    cases hsome
    split
    · rfl
    · next hsome =>
      rw [hcut'] at hsome
      cases hsome

theorem parse?_of_firstCuts {before inside after : List Char}
    (hopen : Text.IsFirstCut opening cs before inside)
    (hclose : Text.IsFirstCut closing inside inner after) :
    parse? cs = (name? inner).bind fun name =>
      (parse? after).map fun pieces => .literal before :: .reference name :: pieces :=
  parse?_of_cuts (Text.cutAtPair_eq_some_iff.mpr hopen) (Text.cutAtPair_eq_some_iff.mpr hclose)

theorem parse?_of_consists (h : Consists cs pieces) : parse? cs = some pieces := by
  induction h with
  | literal h => exact parse?_of_not_infix h
  | reference hopen hclose hname _ ih =>
    rw [parse?_of_firstCuts hopen hclose, name?_eq_some_iff.mpr hname, ih]
    rfl

theorem parse?_of_malformed (h : Malformed cs) : parse? cs = none := by
  induction h with
  | unclosed hopen h => exact parse?_of_unclosed hopen h
  | nameless hopen hclose h =>
    rw [parse?_of_firstCuts hopen hclose, name?_eq_none_iff.mpr h]
    rfl
  | behind hopen hclose _ ih =>
    rw [parse?_of_firstCuts hopen hclose, ih]
    cases name? _ <;> rfl

/-- A template has pieces or is malformed. -/
theorem consists_or_malformed (cs : List Char) : (∃ pieces, Consists cs pieces) ∨ Malformed cs := by
  fun_induction parse? cs with
  | case1 cs hopen => exact .inl ⟨_, .literal (Text.cutAtPair_eq_none_iff.mp hopen)⟩
  | case2 cs before inside hopen hclose =>
    exact .inr (.unclosed (Text.cutAtPair_eq_some_iff.mp hopen)
      (Text.cutAtPair_eq_none_iff.mp hclose))
  | case3 cs before inside hopen inner after hclose _ ih =>
    have hopen := Text.cutAtPair_eq_some_iff.mp hopen
    have hclose := Text.cutAtPair_eq_some_iff.mp hclose
    cases hname : name? inner with
    | none => exact .inr (.nameless hopen hclose (name?_eq_none_iff.mp hname))
    | some name =>
      rcases ih with ⟨pieces, h⟩ | h
      · exact .inl ⟨_, .reference hopen hclose (name?_eq_some_iff.mp hname) h⟩
      · exact .inr (.behind hopen hclose h)

theorem Malformed.not_consists (h : Malformed cs) : ¬ Consists cs pieces := by
  intro h'
  have he := (parse?_of_malformed h).symm.trans (parse?_of_consists h')
  cases he

namespace Consists

theorem unique {pieces' : List Piece} (h : Consists cs pieces) (h' : Consists cs pieces') :
    pieces' = pieces := by
  have he := (parse?_of_consists h').symm.trans (parse?_of_consists h)
  exact Option.some.inj he

theorem areWritten (h : Consists cs pieces) : AreWritten pieces cs := by
  induction h with
  | @literal cs _ =>
    have h : AreWritten [.literal cs] (cs ++ []) := .literal .nil
    rwa [List.append_nil] at h
  | @reference cs before inside inner name after pieces hopen hclose hname _ ih =>
    have h : AreWritten (.literal before :: .reference name :: pieces)
        (before ++ (opening ++ inner ++ closing ++ after)) := .literal (.reference hname ih)
    have heq : cs = before ++ (opening ++ inner ++ closing ++ after) := by
      rw [hopen.eq, hclose.eq]
      simp only [List.append_assoc]
    rwa [heq]

theorem not_infix_of_mem (h : Consists cs pieces) {text : List Char}
    (hmem : .literal text ∈ pieces) : ¬ opening <:+: text := by
  induction h with
  | literal h =>
    obtain rfl := Piece.literal.inj (List.mem_singleton.mp hmem)
    exact h
  | reference hopen _ _ _ ih =>
    rcases List.mem_cons.mp hmem with hmem | hmem
    · obtain rfl := Piece.literal.inj hmem
      exact hopen.not_infix (by decide)
    · rcases List.mem_cons.mp hmem with hmem | hmem
      · cases hmem
      · exact ih hmem

end Consists

/-! ## Rendering -/

theorem render_piece (vars : Variables) (piece : Piece) :
    piece.render vars = match piece with
      | .literal cs => cs
      | .reference name => ((vars.get? (String.ofList name)).elim "" Json.display).toList := by
  cases piece with
  | literal cs => rfl
  | reference name =>
    simp only [Piece.render]
    cases vars.get? (String.ofList name) with
    | none => rfl
    | some v => simp [Json.display]

theorem render_of_consists {template : String} (h : Consists template.toList pieces)
    (vars : Variables) :
    (render template vars).toList = pieces.flatMap fun
      | .literal cs => cs
      | .reference name => ((vars.get? (String.ofList name)).elim "" Json.display).toList := by
  rw [render, renderChars, parse?_of_consists h, String.toList_ofList]
  exact congrArg (List.flatMap · pieces) (funext (render_piece vars))

theorem render_of_not_mem_brace {text : String} (h : '\x7b' ∉ text.toList) (vars : Variables) :
    render text vars = text := by
  have hopening : ¬ opening <:+: text.toList :=
    fun hbraces => h (hbraces.subset List.mem_cons_self)
  apply String.toList_inj.mp
  rw [render_of_consists (.literal hopening) vars, List.flatMap_singleton]

theorem render_of_malformed {template : String} (h : Malformed template.toList)
    (vars : Variables) : render template vars = template := by
  rw [render, renderChars, parse?_of_malformed h, String.ofList_toList]

theorem consists_referenceTo {name : String} (h : IsName name) :
    Consists (referenceTo name).toList [.literal [], .reference name.toList, .literal []] := by
  obtain ⟨pieces, hpieces⟩ | hmalformed := consists_or_malformed (referenceTo name).toList
  · have he := (parse?_of_consists hpieces).symm.trans (parse?_referenceTo h)
    rwa [Option.some.inj he] at hpieces
  · have he := (parse?_of_malformed hmalformed).symm.trans (parse?_referenceTo h)
    cases he

/-- A template has one parse, which no variable has a part in. It is rendered as the literals and,
for the references, the texts of the values, whatever braces these hold; a malformed template is
rendered as it is. An operand that refers to a variable shows the text of its value. -/
theorem render_single_pass :
    (∀ template : String,
      (∃ pieces, Consists template.toList pieces ∧
        (∀ pieces', Consists template.toList pieces' → pieces' = pieces) ∧
        ¬ Malformed template.toList ∧ AreWritten pieces template.toList ∧
        (∀ cs, .literal cs ∈ pieces → ¬ opening <:+: cs) ∧
        ∀ vars, (render template vars).toList = pieces.flatMap fun
          | .literal cs => cs
          | .reference name => ((vars.get? (String.ofList name)).elim "" Json.display).toList) ∨
      (Malformed template.toList ∧ (∀ pieces, ¬ Consists template.toList pieces) ∧
        ∀ vars, render template vars = template)) ∧
    ∀ name, IsName name → ∃ text, (Operand.variable name).toJson = .string text ∧
      ∀ vars : Variables, render text vars = (vars.get? name).elim "" Json.display := by
  constructor
  · intro template
    rcases consists_or_malformed template.toList with ⟨pieces, h⟩ | h
    · exact .inl ⟨pieces, h, fun _ h' => h.unique h', fun hm => hm.not_consists h, h.areWritten,
        fun _ => h.not_infix_of_mem, render_of_consists h⟩
    · exact .inr ⟨h, fun _ => h.not_consists, render_of_malformed h⟩
  · intro name hname
    refine ⟨referenceTo name, rfl, fun vars => String.toList_inj.mp ?_⟩
    rw [render_of_consists (consists_referenceTo hname) vars]
    simp [String.ofList_toList]

/-- A value that looks like a reference is shown and not looked up. -/
theorem render_value_with_braces :
    let vars : Variables := Dict.ofList [("X", .string "\x7b\x7b.X\x7d\x7d")]
    IsName "X" ∧ ∃ text, (Operand.variable "X").toJson = .string text ∧
      render text vars = "\x7b\x7b.X\x7d\x7d" := by
  intro vars
  have hname : IsName "X" := ⟨by decide, List.all_eq_true.mp (by decide)⟩
  obtain ⟨text, htext, hrender⟩ := render_single_pass.2 "X" hname
  exact ⟨hname, text, htext, (hrender vars).trans rfl⟩

end MockHttp.Template
