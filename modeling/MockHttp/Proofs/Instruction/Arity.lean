import MockHttp.Proofs.Instruction.Readings

/-! # The arity of the words

A word asks for its arguments from left to right, and at each position for a value of a kind. The
first argument that does not fit is reported, or the first that is missing. Further arguments make
no difference, except for a join, of which they are the parts.
-/

namespace MockHttp

/-! ## Reading all arguments -/

/-- The outcome of reading the arguments from a position on, one for each slot. -/
inductive ReadsFrom {α : Type} (slots : List Slot) (args : Arguments) :
    Nat → Except DecodeError α → Prop where
  | done {i : Nat} {a : α} : slots[i]? = none → ReadsFrom slots args i (.ok a)
  | bind {i : Nat} {slot : Slot} {β : Type} {x : Except DecodeError β}
      {f : β → Except DecodeError α} : slots[i]? = some slot → ReadsSlot slot args i x →
      (∀ a, x = .ok a → ReadsFrom slots args (i + 1) (f a)) → ReadsFrom slots args i (x >>= f)

def FitsAt (slots : List Slot) (args : Arguments) (i : Nat) : Prop :=
  ∃ slot v, slots[i]? = some slot ∧ args[i]? = some v ∧ slot.Fits args v

/-- The first position of an argument that is missing or does not fit. -/
structure FirstUnfit (slots : List Slot) (args : Arguments) (i : Nat) : Prop where
  lt : i < slots.length
  not_fitsAt : ¬ FitsAt slots args i
  before : ∀ j < i, FitsAt slots args j

section Outcomes

variable {α : Type} {slots : List Slot} {args : Arguments} {i n : Nat} {x : Except DecodeError α}

theorem FitsAt.lt_length (h : FitsAt slots args i) : i < args.length := by
  obtain ⟨_, _, -, hv, -⟩ := h
  exact (List.getElem?_eq_some_iff.mp hv).1

theorem FirstUnfit.unique {j : Nat} (h : FirstUnfit slots args i) (h' : FirstUnfit slots args j) :
    i = j := by
  rcases Nat.lt_trichotomy i j with hlt | heq | hgt
  · exact (h.not_fitsAt (h'.before i hlt)).elim
  · exact heq
  · exact (h'.not_fitsAt (h.before j hgt)).elim

theorem FirstUnfit.le_length (h : FirstUnfit slots args i) : i ≤ args.length := by
  refine Nat.le_of_not_lt fun hlt => ?_
  exact absurd (h.before args.length hlt).lt_length (Nat.lt_irrefl _)

namespace ReadsFrom

theorem map {β : Type} (h : ReadsFrom slots args i x) (g : α → β) :
    ReadsFrom slots args i (x.map g) := by
  induction h with
  | done hend => exact .done hend
  | @bind i slot γ x f hslot hread _ ih =>
    have hmap : (x >>= f).map g = x >>= fun a => (f a).map g := by cases x <;> rfl
    rw [hmap]
    exact .bind hslot hread ih

/-- Either all arguments fit, or the first that does not is reported. -/
theorem outcome (h : ReadsFrom slots args i x) (hbefore : ∀ j < i, FitsAt slots args j) :
    (∃ a, x = .ok a) ∧ (∀ j < slots.length, FitsAt slots args j) ∨
    ∃ j reason, x = .error reason ∧ FirstUnfit slots args j ∧
      (if j < args.length then reason.unfit? = some j else reason = .missingArgument j) := by
  -- Every argument in front of the position that the reading has got to fits.
  induction h with
  | done hend =>
    have hlen := List.getElem?_eq_none_iff.mp hend
    exact .inl ⟨⟨_, rfl⟩, fun j hj => hbefore j (by omega)⟩
  | @bind i slot β x f hslot hread _ ih =>
    have hlt := (List.getElem?_eq_some_iff.mp hslot).1
    cases hv : args[i]? with
    | none =>
      have hlen := List.getElem?_eq_none_iff.mp hv
      refine .inr ⟨i, _, bind_of_error (hread.missing hv) f, ⟨hlt, fun hfit => ?_, hbefore⟩, ?_⟩
      · exact absurd hfit.lt_length (Nat.not_lt.mpr hlen)
      · rw [if_neg (Nat.not_lt.mpr hlen)]
    | some v =>
      have hlen := (List.getElem?_eq_some_iff.mp hv).1
      by_cases hfit : slot.Fits args v
      · obtain ⟨a, ha⟩ := hread.fits hv hfit
        rw [bind_of_ok ha]
        refine ih a ha fun j hj => ?_
        rcases Nat.lt_succ_iff_lt_or_eq.mp hj with hj | rfl
        · exact hbefore j hj
        · exact ⟨slot, v, hslot, hv, hfit⟩
      · obtain ⟨reason, hreason, hposition⟩ := hread.unfit hv hfit
        refine .inr ⟨i, reason, bind_of_error hreason f, ⟨hlt, ?_, hbefore⟩, ?_⟩
        · rintro ⟨slot', v', hslot', hv', hfit'⟩
          obtain rfl := Option.some.inj (hslot.symm.trans hslot')
          obtain rfl := Option.some.inj (hv.symm.trans hv')
          exact hfit hfit'
        · rwa [if_pos hlen]

theorem exists_ok_iff (h : ReadsFrom slots args 0 x) :
    (∃ a, x = .ok a) ↔ ∀ i < slots.length, FitsAt slots args i := by
  rcases h.outcome (by simp) with ⟨hok, hfit⟩ | ⟨j, reason, rfl, hfirst, -⟩
  · exact iff_of_true hok hfit
  · exact iff_of_false (by simp) fun hfit => hfirst.not_fitsAt (hfit j hfirst.lt)

theorem eq_missing_iff (h : ReadsFrom slots args 0 x) :
    x = .error (.missingArgument n) ↔ n = args.length ∧ FirstUnfit slots args n := by
  rcases h.outcome (by simp) with ⟨⟨a, rfl⟩, hfit⟩ | ⟨j, reason, rfl, hfirst, hreason⟩
  · exact iff_of_false (by simp) fun hn => hn.2.not_fitsAt (hfit n hn.2.lt)
  · have hle := hfirst.le_length
    split at hreason
    · next hlt =>
      refine iff_of_false ?_ fun hn => ?_
      · rintro ⟨⟩
        cases hreason
      · have hjn := hfirst.unique hn.2
        omega
    · next hge =>
      obtain rfl := hreason
      constructor
      · rintro ⟨⟩
        exact ⟨by omega, hfirst⟩
      · rintro ⟨-, hn⟩
        rw [hfirst.unique hn]

theorem exists_unfit_iff (h : ReadsFrom slots args 0 x) :
    (∃ reason, x = .error reason ∧ reason.unfit? = some i) ↔
      i < args.length ∧ FirstUnfit slots args i := by
  rcases h.outcome (by simp) with ⟨⟨a, rfl⟩, hfit⟩ | ⟨j, reason, rfl, hfirst, hreason⟩
  · exact iff_of_false (by simp) fun hi => hi.2.not_fitsAt (hfit i hi.2.lt)
  · constructor
    · rintro ⟨_, ⟨⟩, hposition⟩
      split at hreason
      · next hlt =>
        obtain rfl := Option.some.inj (hreason.symm.trans hposition)
        exact ⟨hlt, hfirst⟩
      · rw [hreason] at hposition
        cases hposition
    · rintro ⟨hlt, hi⟩
      obtain rfl := hfirst.unique hi
      rw [if_pos hlt] at hreason
      exact ⟨reason, rfl, hreason⟩

end ReadsFrom

end Outcomes

/-! ## The words -/

namespace Instruction

variable (args : Arguments)

theorem readsFrom_decodeEffect {slots : List Slot} {i : Nat} {switchesCase : Bool}
    (hslots : slots.drop i = if switchesCase then [.name] else [.name, .value])
    (f : Effect → Instruction) :
    ReadsFrom slots args i
      (decodeEffect switchesCase args i >>= fun effect => pure (f effect)) := by
  have hslot (k : Nat) : slots[i + k]? = (slots.drop i)[k]? := List.getElem?_drop.symm
  rw [hslots] at hslot
  cases switchesCase with
  | true =>
    simp only [decodeEffect, if_true, bind_assoc, pure_bind]
    exact .bind (hslot 0) (.name args i) fun _ _ => .done (hslot 1)
  | false =>
    simp only [decodeEffect, Bool.false_eq_true, if_false, bind_assoc, pure_bind]
    exact .bind (hslot 0) (.name args i) fun _ _ =>
      .bind (hslot 1) (.value args (i + 1)) fun _ _ => .done (hslot 2)

theorem readsFrom_decodeCondition (w : ConditionWord) :
    ReadsFrom w.slots args 0 (decodeCondition w args) := by
  cases w with
  | extract e =>
    cases e with
    | header | body | query =>
      simp only [decodeCondition, decodePart, map_bind]
      exact .bind rfl (.name args 0) fun _ _ => .bind rfl (.name args 1) fun _ _ => .done rfl
    | path =>
      simp only [decodeCondition, decodePart, bind_of_ok rfl]
      exact .bind rfl (.name args 0) fun _ _ => .done rfl
  | test t switchesCase =>
    cases t with
    | header | body | query | «variable» | arrayLength | objectLength =>
      simp only [decodeCondition, decodeTested, decodePart, decodeComparison, map_bind]
      exact .bind rfl (.name args 0) fun _ _ => .bind rfl (.condition args 1) fun _ _ =>
        .bind rfl (.value args 2) fun _ _ => readsFrom_decodeEffect args rfl _
    | path =>
      simp only [decodeCondition, decodeTested, decodePart, decodeComparison, map_bind,
        bind_of_ok rfl]
      exact .bind rfl (.condition args 0) fun _ _ => .bind rfl (.value args 1) fun _ _ =>
        readsFrom_decodeEffect args rfl _
    | kind =>
      simp only [decodeCondition, decodeTested, decodePart, decodeComparison, map_bind,
        bind_of_ok rfl]
      exact .bind rfl (.name args 0) fun _ _ => .bind rfl (.value args 1) fun _ _ =>
        readsFrom_decodeEffect args rfl _

theorem decodeGenerator_randomDecimal : decodeGenerator .randomDecimal args = do
    let min ← Arguments.number args 0
    let max ← Arguments.numberNear args 1 min
    let decimals ← Arguments.unsigned args 2
    return .randomDecimal min max (Nat.min decimals maxDecimals) (← Arguments.name args 3) := by
  simp only [decodeGenerator, Arguments.numberNear, bind_assoc]
  refine congrArg (_ >>= ·) (funext fun min => congrArg (_ >>= ·) (funext fun max => ?_))
  split <;> rfl

theorem readsFrom_decodeGenerator (w : GeneratorWord) :
    ReadsFrom w.slots args 0 (decodeGenerator w args) := by
  cases w with
  | randomString =>
    exact .bind rfl (.within args 0 (by decide)) fun _ _ => .bind rfl (.name args 1) fun _ _ =>
      .done rfl
  | randomInt =>
    exact .bind rfl (.integer args 0) fun _ _ => .bind rfl (.integer args 1) fun _ _ =>
      .bind rfl (.name args 2) fun _ _ => .done rfl
  | randomDigits =>
    exact .bind rfl (.within args 0 (by decide)) fun _ _ => .bind rfl (.name args 1) fun _ _ =>
      .done rfl
  | randomDecimal =>
    rw [decodeGenerator_randomDecimal]
    exact .bind rfl (.number args 0) fun _ hmin => .bind rfl (.numberNear hmin 1) fun _ _ =>
      .bind rfl (.unsigned args 2) fun _ _ => .bind rfl (.name args 3) fun _ _ => .done rfl
  | hash =>
    exact .bind rfl (.name args 0) fun _ _ => .bind rfl (.algorithm args 1) fun _ _ =>
      .bind rfl (.name args 2) fun _ _ => .done rfl

theorem readsFrom_decodeVariable (w : VariableWord) :
    ReadsFrom w.slots args 0 (decodeVariable w args) := by
  cases w with
  | toText | toInteger | delete => exact .bind rfl (.name args 0) fun _ _ => .done rfl
  | substring =>
    exact .bind rfl (.name args 0) fun _ _ => .bind rfl (.unsigned args 1) fun _ _ =>
      .bind rfl (.unsigned args 2) fun _ _ => .bind rfl (.name args 3) fun _ _ => .done rfl
  | join =>
    exact .bind rfl (.name args 0) fun _ _ => .bind rfl (.value args 1) fun _ _ => .done rfl

theorem readsFrom_decodeResponse (w : ResponseWord) :
    ReadsFrom w.slots args 1 (decodeResponse w args) := by
  cases w with
  | body => exact .bind rfl (.name args 1) fun _ _ => .done rfl
  | status => exact .bind rfl (.within args 1 (by decide)) fun _ _ => .done rfl
  | wait => exact .bind rfl (.unsigned args 1) fun _ _ => .done rfl
  | randomWait =>
    exact .bind rfl (.unsigned args 1) fun _ _ => .bind rfl (.unsigned args 2) fun _ _ => .done rfl
  | header =>
    exact .bind rfl (.headerName args 1) fun _ _ => .bind rfl (.name args 2) fun _ _ => .done rfl
  | copyHeader => exact .bind rfl (.headerName args 1) fun _ _ => .done rfl

end Instruction

theorem Word.readsFrom (w : Word) (args : Arguments) :
    ReadsFrom w.slots args 0 (w.read args) := by
  cases w with
  | condition w => exact Instruction.readsFrom_decodeCondition args w
  | generator w => exact (Instruction.readsFrom_decodeGenerator args w).map _
  | manipulation w => exact (Instruction.readsFrom_decodeVariable args w).map _
  | response w =>
    have hlabel : w.slots[0]? = some .name := by cases w <;> rfl
    exact .bind hlabel (.name args 0) fun _ _ =>
      (Instruction.readsFrom_decodeResponse args w).map _

/-! ## Arguments that make no difference -/

/-- All but a join ignore what stands behind their slots. -/
theorem Word.read_take {w : Word} (hw : w ≠ .manipulation .join) (args : Arguments) :
    w.read (args.take w.arity) = w.read args := by
  refine read_congr fun i r hr => ?_
  have hlt : i < w.arity := by
    unfold reading? at hr
    split at hr
    · next hslot => exact (List.getElem?_eq_some_iff.mp hslot).1
    · rw [if_neg hw] at hr
      cases hr
  rw [List.getElem?_take_of_lt hlt]
  exact r.alike_refl _

theorem Word.read_join (target separator : Json) (parts : Arguments) :
    (Word.manipulation .join).read (target :: separator :: parts) =
      .ok (.manipulate (.join target.display separator parts)) := rfl

/-! ## Entries -/

namespace Instruction

theorem decode?_name {w : Word} {spelling : String} (hs : spelling ∈ w.group.names)
    (args : Arguments) : decode? ⟨spelling, w.name, args⟩ = w.read args :=
  decode?_of_word (e := ⟨spelling, w.name, args⟩) (Group.ofName?_eq_some_iff.mpr hs)
    (Group.word?_eq_some_iff.mpr ⟨rfl, rfl⟩)

/-- In whatever spelling of its group a word is written, only as many arguments count as it has
slots, unless it is a join. The entry is valid if they are all there and fit, and otherwise the
first one that is missing or does not fit is reported with its position. -/
theorem decode_by_arity {w : Word} {spelling : String} (hs : spelling ∈ w.group.names)
    (args : Arguments) :
    let decoded (args : Arguments) := decode ⟨spelling, w.name, args⟩
    let Fits := FitsAt w.slots args
    (w ≠ .manipulation .join → ∀ others : Arguments, others.take w.arity = args.take w.arity →
      decoded others = decoded args) ∧
    (w = .manipulation .join → ∀ target separator parts, args = target :: separator :: parts →
      decoded args = .manipulate (.join target.display separator parts)) ∧
    (args.length < w.arity → (decoded args).isValid = false) ∧
    ((decoded args).isValid = true ↔ ∀ i < w.arity, Fits i) ∧
    (∀ n, (decoded args).reason? = some (.missingArgument n) ↔
      n = args.length ∧ n < w.arity ∧ ∀ i < n, Fits i) ∧
    (∀ i, (∃ reason, (decoded args).reason? = some reason ∧ reason.unfit? = some i) ↔
      i < args.length ∧ i < w.arity ∧ ¬ Fits i ∧ ∀ j < i, Fits j) ∧
    ∀ other ∈ w.group.names, ∀ function,
      (decode ⟨other, function, args⟩).reason? = (decode ⟨spelling, function, args⟩).reason? ∧
        ((decode ⟨spelling, function, args⟩).isValid = true →
          decode ⟨other, function, args⟩ = decode ⟨spelling, function, args⟩) := by
  intro decoded Fits
  have hread := w.readsFrom args
  have hreason (reason : DecodeError) :
      (decoded args).reason? = some reason ↔ w.read args = .error reason := by
    rw [reason?_decode_eq_some_iff, decode?_name hs]
  have hvalid : (decoded args).isValid = true ↔ ∀ i < w.arity, Fits i := by
    rw [isValid_decode_iff, decode?_name hs]
    exact hread.exists_ok_iff
  refine ⟨fun hw others htake => ?_, ?_, fun hlen => ?_, hvalid, fun n => ?_, fun i => ?_,
    fun other ho function => decode_of_spellings hs ho function args⟩
  · have hothers : decode? ⟨spelling, w.name, others⟩ = decode? ⟨spelling, w.name, args⟩ := by
      rw [decode?_name hs, decode?_name hs, ← w.read_take hw others, htake, w.read_take hw args]
    simp only [decoded, decode, hothers]
  · rintro rfl target separator parts rfl
    simp only [decoded, decode, decode?_name hs, Word.read_join]
  · refine Bool.eq_false_iff.mpr fun htrue => ?_
    exact absurd (hvalid.mp htrue _ hlen).lt_length (Nat.lt_irrefl _)
  · rw [hreason, hread.eq_missing_iff]
    constructor
    · rintro ⟨hn, hfirst⟩
      exact ⟨hn, hfirst.lt, hfirst.before⟩
    · rintro ⟨hn, hlt, hbefore⟩
      exact ⟨hn, hlt, fun hfit => absurd hfit.lt_length (by omega), hbefore⟩
  · simp only [hreason, hread.exists_unfit_iff]
    constructor
    · rintro ⟨hlen, hfirst⟩
      exact ⟨hlen, hfirst.lt, hfirst.not_fitsAt, hfirst.before⟩
    · rintro ⟨hlen, hlt, hunfit, hbefore⟩
      exact ⟨hlen, hlt, hunfit, hbefore⟩

/-- The group goes by its other name, and a third argument is one too many. -/
theorem decode_by_arity_bad_status :
    let args : Arguments := [.string "vip", .int 42, .null]
    let slots := ResponseWord.status.slots
    "ResponseSetup" ∈ Group.responses.names ∧
      (decode ⟨"ResponseSetup", "SetStatusCode", args⟩).reason? = some (.outOfRange 1) ∧
      (decode ⟨"SetupResponse", "SetStatusCode", args⟩).reason? = some (.outOfRange 1) ∧
      FitsAt slots args 0 ∧ ¬ FitsAt slots args 1 ∧
      (decode ⟨"ResponseSetup", "SetStatusCode", [.string "vip"]⟩).reason? =
        some (.missingArgument 1) := by
  intro args slots
  have hs : "ResponseSetup" ∈ Group.responses.names := by decide
  have hreason : (decode ⟨"ResponseSetup", "SetStatusCode", args⟩).reason? =
      some (.outOfRange 1) := by decide +kernel
  obtain ⟨-, -, -, -, -, hunfit, hspellings⟩ :=
    decode_by_arity (w := .response .status) hs args
  obtain ⟨-, -, hfirst, hbefore⟩ := (hunfit 1).mp ⟨_, hreason, rfl⟩
  obtain ⟨-, -, -, -, hmissing, -⟩ :=
    decode_by_arity (w := .response .status) hs [.string "vip"]
  have hother := (hspellings "SetupResponse" (by decide) "SetStatusCode").1
  have hlabel : ∀ i < 1, FitsAt slots [.string "vip"] i := by
    intro i hi
    obtain rfl := Nat.lt_one_iff.mp hi
    exact ⟨.name, _, rfl, rfl, trivial⟩
  exact ⟨hs, hreason, hother.trans hreason, hbefore 0 (by decide), hfirst,
    (hmissing 1).mpr ⟨rfl, by decide, hlabel⟩⟩

end Instruction

end MockHttp
