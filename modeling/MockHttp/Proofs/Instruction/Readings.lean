import MockHttp.Proofs.Instruction.Slots

/-! # What decoding sees of an argument

Each word reads its arguments in ways of its own: by the text that they are shown as, by the number
that they stand for, or as they are. Nothing else of an argument is seen. An integer is shown as its
decimal text and both stand for the same number, so one can be written for the other.
-/

namespace MockHttp

/-- How an argument is read: as the text that it is shown as, as the number that it stands for, or
as it is. -/
inductive Reading where
  | name
  | number
  | value
deriving DecidableEq, Repr

def Slot.reading : Slot → Reading
  | name | condition | algorithm | headerName => .name
  | value => .value
  | number | numberNear _ | integer | unsigned | within _ _ => .number

/-- How the argument at a position is read, if it is. There is no end to the parts of a join. -/
def Word.reading? (w : Word) (i : Nat) : Option Reading :=
  match w.slots[i]? with
  | some slot => some slot.reading
  | none => if w = .manipulation .join then some .value else none

/-- The label is read even where the function is unknown. -/
def Entry.reading? (e : Entry) (i : Nat) : Option Reading :=
  (Group.ofName? e.group).bind fun g =>
    match g.word? e.function with
    | some w => w.reading? i
    | none => if g = .responses ∧ i = 0 then some .name else none

/-! ## Arguments that are read alike -/

def Reading.Alike : Reading → Json → Json → Prop
  | name, v, w => w.display = v.display
  | number, v, w => w.spelledNumber? = v.spelledNumber?
  | value, v, w => w = v

/-- No difference is seen at a position that is read: both arguments are missing, or both are there
and are read alike. -/
def ReadAlike (reading? : Nat → Option Reading) (args args' : Arguments) : Prop :=
  ∀ i r, reading? i = some r → Option.Rel r.Alike args[i]? args'[i]?

theorem Reading.Alike.refl (r : Reading) (v : Json) : r.Alike v v := by
  cases r <;> rfl

theorem Reading.alike_refl (r : Reading) (v? : Option Json) : Option.Rel r.Alike v? v? := by
  cases v? with
  | none => exact .none
  | some v => exact .some (.refl r v)

namespace ReadAlike

open Arguments

variable {reading? reading'? : Nat → Option Reading} {args args' : Arguments} {i : Nat}

theorem mono (h : ReadAlike reading? args args')
    (hsub : ∀ i r, reading'? i = some r → reading? i = some r) :
    ReadAlike reading'? args args' :=
  fun i r hr => h i r (hsub i r hr)

theorem absent_or_alike {r : Reading} (h : ReadAlike reading? args args')
    (hi : reading? i = some r) :
    (args[i]? = none ∧ args'[i]? = none) ∨
      ∃ v w, args[i]? = some v ∧ args'[i]? = some w ∧ r.Alike v w := by
  have hrel := h i r hi
  generalize args[i]? = v?, args'[i]? = w? at hrel ⊢
  cases hrel with
  | none => exact .inl ⟨rfl, rfl⟩
  | some halike => exact .inr ⟨_, _, rfl, rfl, halike⟩

theorem getElem?_eq (h : ReadAlike reading? args args') (hi : reading? i = some .value) :
    args'[i]? = args[i]? := by
  rcases h.absent_or_alike hi with ⟨hv, hw⟩ | ⟨v, w, hv, hw, hvalue⟩
  · rw [hv, hw]
  · rw [hv, hw, (hvalue : w = v)]

theorem value (h : ReadAlike reading? args args') (hi : reading? i = some .value) :
    Arguments.value args' i = Arguments.value args i := by
  rw [Arguments.value, h.getElem?_eq hi, Arguments.value]

theorem name (h : ReadAlike reading? args args') (hi : reading? i = some .name) :
    Arguments.name args' i = Arguments.name args i := by
  unfold Arguments.name Arguments.value
  rcases h.absent_or_alike hi with ⟨hv, hw⟩ | ⟨v, w, hv, hw, hname⟩
  · rw [hv, hw]
  · rw [hv, hw]
    exact congrArg Except.ok hname

theorem number (h : ReadAlike reading? args args') (hi : reading? i = some .number) :
    Arguments.number args' i = Arguments.number args i := by
  unfold Arguments.number Arguments.value
  rcases h.absent_or_alike hi with ⟨hv, hw⟩ | ⟨v, w, hv, hw, hnumber⟩
  · rw [hv, hw]
  · have hnumber : w.spelledNumber? = v.spelledNumber? := hnumber
    rw [hv, hw, bind_of_ok rfl, bind_of_ok rfl, hnumber]

theorem integer (h : ReadAlike reading? args args') (hi : reading? i = some .number) :
    Arguments.integer args' i = Arguments.integer args i := by
  rw [Arguments.integer, h.number hi, Arguments.integer]

theorem unsigned (h : ReadAlike reading? args args') (hi : reading? i = some .number) :
    Arguments.unsigned args' i = Arguments.unsigned args i := by
  rw [Arguments.unsigned, h.integer hi, Arguments.unsigned]

theorem within (h : ReadAlike reading? args args') (hi : reading? i = some .number)
    (low high : Nat) : Arguments.within args' i low high = Arguments.within args i low high := by
  rw [Arguments.within, h.unsigned hi, Arguments.within]

theorem condition (h : ReadAlike reading? args args') (hi : reading? i = some .name) :
    Arguments.condition args' i = Arguments.condition args i := by
  rw [Arguments.condition, h.name hi, Arguments.condition]

theorem algorithm (h : ReadAlike reading? args args') (hi : reading? i = some .name) :
    Arguments.algorithm args' i = Arguments.algorithm args i := by
  rw [Arguments.algorithm, h.name hi, Arguments.algorithm]

theorem headerName (h : ReadAlike reading? args args') (hi : reading? i = some .name) :
    Arguments.headerName args' i = Arguments.headerName args i := by
  rw [Arguments.headerName, h.name hi, Arguments.headerName]

theorem eq_nil_iff {r : Reading} (h : ReadAlike reading? args args') (hr : reading? 0 = some r) :
    args' = [] ↔ args = [] := by
  rw [← List.head?_eq_none_iff, ← List.head?_eq_none_iff, List.head?_eq_getElem?,
    List.head?_eq_getElem?]
  rcases h.absent_or_alike hr with ⟨hv, hw⟩ | ⟨v, w, hv, hw, -⟩
  · rw [hv, hw]
  · rw [hv, hw]
    exact iff_of_false (Option.some_ne_none _) (Option.some_ne_none _)

end ReadAlike

/-! ## Decoding -/

namespace Instruction

variable {args args' : Arguments}

theorem decodeEffect_congr {reading? : Nat → Option Reading} (h : ReadAlike reading? args args')
    (switchesCase : Bool) {i : Nat} (hname : reading? i = some .name)
    (hvalue : switchesCase = false → reading? (i + 1) = some .value) :
    decodeEffect switchesCase args' i = decodeEffect switchesCase args i := by
  cases switchesCase with
  | true => simp only [decodeEffect, if_true, h.name hname]
  | false => simp only [decodeEffect, h.name hname, h.value (hvalue rfl)]

theorem decodeCondition_congr {w : ConditionWord}
    (h : ReadAlike (Word.condition w).reading? args args') :
    decodeCondition w args' = decodeCondition w args := by
  cases w with
  | extract e =>
    cases e with
    | header | body | query =>
      simp only [decodeCondition, decodePart, map_bind, h.name (i := 0) rfl, h.name (i := 1) rfl]
    | path => simp only [decodeCondition, decodePart, bind, Except.bind, h.name (i := 0) rfl]
  | test t switchesCase =>
    cases t with
    | header | body | query | «variable» | arrayLength | objectLength =>
      have heffect := decodeEffect_congr h switchesCase (i := 3)
        (by cases switchesCase <;> rfl) (by rintro rfl; rfl)
      simp only [decodeCondition, decodeTested, decodePart, decodeComparison, map_bind,
        h.name (i := 0) rfl, h.condition (i := 1) rfl, h.value (i := 2) rfl, heffect]
    | path =>
      have heffect := decodeEffect_congr h switchesCase (i := 2)
        (by cases switchesCase <;> rfl) (by rintro rfl; rfl)
      simp only [decodeCondition, decodeTested, decodePart, decodeComparison, map_bind,
        bind_of_ok rfl, h.condition (i := 0) rfl, h.value (i := 1) rfl, heffect]
    | kind =>
      have heffect := decodeEffect_congr h switchesCase (i := 2)
        (by cases switchesCase <;> rfl) (by rintro rfl; rfl)
      simp only [decodeCondition, decodeTested, decodePart, decodeComparison, map_bind,
        bind_of_ok rfl, h.name (i := 0) rfl, h.value (i := 1) rfl, heffect]

theorem decodeGenerator_congr {w : GeneratorWord}
    (h : ReadAlike (Word.generator w).reading? args args') :
    decodeGenerator w args' = decodeGenerator w args := by
  cases w with
  | randomString => simp only [decodeGenerator, h.within (i := 0) rfl, h.name (i := 1) rfl]
  | randomInt =>
    simp only [decodeGenerator, h.integer (i := 0) rfl, h.integer (i := 1) rfl,
      h.name (i := 2) rfl]
  | randomDigits => simp only [decodeGenerator, h.within (i := 0) rfl, h.name (i := 1) rfl]
  | randomDecimal =>
    simp only [decodeGenerator, h.number (i := 0) rfl, h.number (i := 1) rfl,
      h.unsigned (i := 2) rfl, h.name (i := 3) rfl]
  | hash =>
    simp only [decodeGenerator, h.name (i := 0) rfl, h.algorithm (i := 1) rfl,
      h.name (i := 2) rfl]

theorem drop_congr (h : ReadAlike (Word.manipulation .join).reading? args args') :
    args'.drop 2 = args.drop 2 := by
  refine List.ext_getElem? fun i => ?_
  have hslot : (Word.manipulation .join).slots[2 + i]? = none :=
    List.getElem?_eq_none (Nat.le_add_right 2 i)
  have hvalue : (Word.manipulation .join).reading? (2 + i) = some .value := by
    rw [Word.reading?, hslot]
    rfl
  rw [List.getElem?_drop, List.getElem?_drop, h.getElem?_eq hvalue]

theorem decodeVariable_congr {w : VariableWord}
    (h : ReadAlike (Word.manipulation w).reading? args args') :
    decodeVariable w args' = decodeVariable w args := by
  cases w with
  | toText | toInteger | delete => simp only [decodeVariable, h.name (i := 0) rfl]
  | substring =>
    simp only [decodeVariable, h.name (i := 0) rfl, h.unsigned (i := 1) rfl,
      h.unsigned (i := 2) rfl, h.name (i := 3) rfl]
  | join =>
    simp only [decodeVariable, h.name (i := 0) rfl, h.value (i := 1) rfl, drop_congr h]

theorem decodeResponse_congr {w : ResponseWord}
    (h : ReadAlike (Word.response w).reading? args args') :
    decodeResponse w args' = decodeResponse w args := by
  cases w with
  | body => simp only [decodeResponse, h.name (i := 1) rfl]
  | status => simp only [decodeResponse, h.within (i := 1) rfl]
  | wait => simp only [decodeResponse, h.unsigned (i := 1) rfl]
  | randomWait => simp only [decodeResponse, h.unsigned (i := 1) rfl, h.unsigned (i := 2) rfl]
  | header => simp only [decodeResponse, h.headerName (i := 1) rfl, h.name (i := 2) rfl]
  | copyHeader => simp only [decodeResponse, h.headerName (i := 1) rfl]

end Instruction

theorem Word.read_congr {w : Word} {args args' : Arguments} (h : ReadAlike w.reading? args args') :
    w.read args' = w.read args := by
  cases w with
  | condition w => exact Instruction.decodeCondition_congr h
  | generator w => exact congrArg (Except.map _) (Instruction.decodeGenerator_congr h)
  | manipulation w => exact congrArg (Except.map _) (Instruction.decodeVariable_congr h)
  | response w =>
    have hlabel : (Word.response w).reading? 0 = some .name := by cases w <;> rfl
    rw [read, read, h.name hlabel, Instruction.decodeResponse_congr h]

namespace Instruction

variable {args args' : Arguments}

/-- Nothing else is seen of the arguments of an entry than what its positions are read for. -/
theorem decode?_congr {e : Entry} (h : ReadAlike e.reading? e.args args') :
    decode? { e with args := args' } = decode? e := by
  cases hg : Group.ofName? e.group with
  | none => rw [decode?_of_no_group hg, decode?_of_no_group (e := { e with args := args' }) hg]
  | some g =>
    cases hw : g.word? e.function with
    | some w =>
      have hread : ReadAlike w.reading? e.args args' :=
        h.mono fun i r hr => by simp only [Entry.reading?, hg, Option.bind_some, hw, hr]
      rw [decode?_of_word hg hw, decode?_of_word (e := { e with args := args' }) hg hw,
        Word.read_congr hread]
    | none =>
      have hlabel : g = .responses → (args' = [] ↔ e.args = []) := by
        rintro rfl
        refine h.eq_nil_iff (r := .name) ?_
        simp only [Entry.reading?, hg, Option.bind_some, hw, and_self, if_true]
      rw [decode?_of_no_word hg hw, decode?_of_no_word (e := { e with args := args' }) hg hw]
      simp only [and_congr_right hlabel]

theorem decode_congr {e : Entry} (h : ReadAlike e.reading? e.args args') :
    decode { e with args := args' } = decode e := by
  unfold decode
  rw [decode?_congr h]

end Instruction

/-! ## Integers as text -/

/-- The text can stand for the integer where an argument is read in this way: it is the decimal
text, and for a number there may be blanks around it. -/
inductive Reading.Writes : Reading → Int → String → Prop where
  | name (n : Int) : Writes .name n (Digits.intText n)
  | number {n : Int} {s : String} : Json.Spells (.string s) n → Writes .number n s

/-- An integer and its text are shown alike and round to the same number. -/
theorem Reading.Writes.alike {r : Reading} {n : Int} {s : String} (h : r.Writes n s)
    (hn : Number.IsExact n) : r.Alike (.int n) (.string s) := by
  cases h with
  | name n => exact Json.display_string (Digits.intText n)
  | number hs =>
    have hlog : n.natAbs.log2 < 1000 := by
      obtain ⟨hlow, hhigh⟩ := hn
      exact Binary64.log2_lt_of_le (by omega)
    have htext := Json.spelledNumber?_eq_some_iff.mpr (hs.readsAs hlog)
    have hint := Json.spelledNumber?_eq_some_iff.mpr ((Json.Spells.number n).readsAs hlog)
    exact htext.trans hint.symm

theorem ReadAlike.set {reading? : Nat → Option Reading} {args : Arguments} {i : Nat} {r : Reading}
    {v w : Json} (hr : reading? i = some r) (hv : args[i]? = some v) (h : r.Alike v w) :
    ReadAlike reading? args (args.set i w) := by
  intro j q hq
  by_cases hij : i = j
  · subst hij
    obtain rfl := Option.some.inj (hr.symm.trans hq)
    rw [hv, List.getElem?_set_self (List.getElem?_eq_some_iff.mp hv).1]
    exact .some h
  · rw [List.getElem?_set_ne hij]
    exact q.alike_refl _

namespace Instruction

/-- Wherever a name or a number is read, an integer of 64 bits, with or without a sign, can be
written as text. The entry decodes to the same instruction or fails with the same error. -/
theorem decode_set_text {e : Entry} {i : Nat} {r : Reading} {n : Int} {s : String}
    (hn : Number.IsExact n) (hi : e.args[i]? = some (.int n)) (hr : e.reading? i = some r)
    (hs : r.Writes n s) : decode { e with args := e.args.set i (.string s) } = decode e :=
  decode_congr (.set hr hi (hs.alike hn))

/-- A bound that no floating-point number meets, between blanks, and a number for a name. -/
theorem decode_set_text_bounds :
    let e : Entry := ⟨"Generator", "GenerateRandomInt",
      [.int (-0x20000000000001), .int 0xFFFFFFFFFFFFFFFF, .int 7]⟩
    Number.IsExact (-0x20000000000001) ∧ Number.IsExact 7 ∧ e.reading? 0 = some .number ∧
      e.reading? 2 = some .name ∧
      decode { e with args := e.args.set 0 (.string "\t-9007199254740993 ") } = decode e ∧
      decode { e with args := e.args.set 2 (.string "7") } = decode e := by
  intro e
  have hfirst : e.reading? 0 = some .number := by decide
  have hlast : e.reading? 2 = some .name := by decide
  have htext : String.ofList (['\t'] ++ Digits.ofInt (-0x20000000000001) ++ [' ']) =
      "\t-9007199254740993 " := by decide +kernel
  have hspells : Json.Spells (.string "\t-9007199254740993 ") (-0x20000000000001) :=
    htext ▸ .text _ (by simp; decide) (by simp; decide)
  have hseven : Digits.intText 7 = "7" := by decide +kernel
  exact ⟨by decide, by decide, hfirst, hlast,
    decode_set_text (by decide) rfl hfirst (.number hspells),
    decode_set_text (by decide) rfl hlast (hseven ▸ .name 7)⟩

end Instruction

end MockHttp
