import MockHttp.Proofs.Execution.Run

/-! # Instructions without effect

An instruction is inert in a state in which it does nothing: it is invalid, belongs to another
case than the active one, finds nothing to extract, or makes a test that does not hold. Which
entries of a script are inert is decided by the run. Leaving them out changes nothing else.
-/

namespace MockHttp

def Instruction.isCased : Instruction → Bool
  | test _ _ _ _ (.switchCase _) => true
  | respond label _ => label != ""
  | _ => false

namespace Execution

/-- The test does not hold: nothing is there, it has no size, or the comparison is false. -/
inductive Fails (e : Execution) (source : Source) (measure : Measure) (c : Condition)
    (expected : Json) : Prop where
  | missing : e.read source = none → Fails e source measure c expected
  | unmeasured {v : Json} : e.read source = some v → measure.of? v = none →
      Fails e source measure c expected
  | refuted {v actual : Json} : e.read source = some v → measure.of? v = some actual →
      c.holds actual (e.resolve expected) = false → Fails e source measure c expected

/-- The instruction has nothing to do in this state. -/
inductive Inert (e : Execution) : Instruction → Prop where
  | invalid {group function : String} {reason : DecodeError} :
      Inert e (.invalid group function reason)
  | otherCase {label : String} {op : ResponseOp} : label ≠ e.activeCase →
      Inert e (.respond label op)
  | absent {part : RequestPart} {target : String} : e.readPart part = none →
      Inert e (.extract part target)
  | null {part : RequestPart} {target : String} : e.readPart part = some .null →
      Inert e (.extract part target)
  | test {source : Source} {measure : Measure} {c : Condition} {expected : Json}
      {effect : Effect} : Fails e source measure c expected →
      Inert e (.test source measure c expected effect)

def isInert (e : Execution) : Instruction → Bool
  | .extract part _ => (e.readPart part).all Json.isNull
  | .test source measure c expected _ => !e.passes source measure c expected
  | .generate _ => false
  | .manipulate _ => false
  | .respond label _ => label != e.activeCase
  | .invalid .. => true

variable {e : Execution} {draws : Draws} {i : Instruction}

theorem passes_eq_false_iff {source : Source} {measure : Measure} {c : Condition}
    {expected : Json} :
    e.passes source measure c expected = false ↔ e.Fails source measure c expected := by
  unfold passes
  constructor
  · intro h
    cases hread : e.read source with
    | none => exact .missing hread
    | some v =>
      cases hmeasure : measure.of? v with
      | none => exact .unmeasured hread hmeasure
      | some actual =>
        simp only [hread, Option.bind_some, hmeasure] at h
        exact .refuted hread hmeasure h
  · intro h
    cases h with
    | missing hread => rw [hread, Option.bind_none]
    | unmeasured hread hmeasure => rw [hread, Option.bind_some, hmeasure]
    | refuted hread hmeasure hholds =>
      rw [hread, Option.bind_some, hmeasure]
      exact hholds

theorem isInert_iff : e.isInert i = true ↔ e.Inert i := by
  cases i with
  | extract part target =>
    simp only [isInert]
    constructor
    · intro h
      cases hread : e.readPart part with
      | none => exact .absent hread
      | some v =>
        rw [hread] at h
        cases v with
        | null => exact .null hread
        | _ => cases h
    · rintro (⟨⟩ | ⟨⟩ | ⟨h⟩ | ⟨h⟩) <;> rw [h] <;> rfl
  | test source measure c expected effect =>
    rw [isInert, Bool.not_eq_true', passes_eq_false_iff]
    exact ⟨.test, fun | .test h => h⟩
  | generate g => exact ⟨nofun, nofun⟩
  | manipulate op => exact ⟨nofun, nofun⟩
  | respond label op =>
    rw [isInert, bne_iff_ne]
    exact ⟨.otherCase, fun | .otherCase h => h⟩
  | invalid group function reason => exact ⟨fun _ => .invalid, fun _ => rfl⟩

instance (e : Execution) (i : Instruction) : Decidable (e.Inert i) :=
  decidable_of_iff _ isInert_iff

theorem step_of_inert (h : e.Inert i) (d : Draw) : e.step d i = e := by
  cases h with
  | invalid => rfl
  | otherCase h => exact if_neg h
  | absent h => simp only [step, extract, h]
  | null h => simp only [step, extract, h]
  | test h => simp [step, passes_eq_false_iff.mpr h]

theorem after_of_inert (h : e.Inert i) (draws : Draws) : draws.after i = draws := by
  cases h <;> rfl

/-! ## Leaving entries out -/

/-- The second script is the first one without some of the entries that are inert when the run
comes to them. -/
inductive Erases : Draws → Execution → List Entry → List Entry → Prop where
  | nil {draws : Draws} {e : Execution} : Erases draws e [] []
  | keep {draws : Draws} {e : Execution} {entry : Entry} {entries erased : List Entry} :
      Erases (draws.after (.decode entry)) (e.step (draws 0) (.decode entry)) entries erased →
      Erases draws e (entry :: entries) (entry :: erased)
  | drop {draws : Draws} {e : Execution} {entry : Entry} {entries erased : List Entry} :
      e.Inert (.decode entry) → Erases draws e entries erased →
      Erases draws e (entry :: entries) erased

def effective (draws : Draws) (e : Execution) : List Entry → List Entry
  | [] => []
  | entry :: entries =>
    if e.Inert (.decode entry) then effective draws e entries
    else
      entry :: effective (draws.after (.decode entry)) (e.step (draws 0) (.decode entry)) entries

variable {entries erased : List Entry}

/-- The two runs end in the same state. -/
theorem run_eq_of_erases (h : Erases draws e entries erased) :
    e.run draws (Script.decode erased) = e.run draws (Script.decode entries) := by
  induction h with
  | nil => rfl
  | keep _ ih => exact ih
  | @drop draws e entry entries erased hinert _ ih =>
    have hrun : e.run draws (Script.decode (entry :: entries)) =
        (e.step (draws 0) (.decode entry)).run (draws.after (.decode entry))
          (Script.decode entries) := rfl
    rw [hrun, step_of_inert hinert, after_of_inert hinert, ih]

theorem Erases.sublist (h : Erases draws e entries erased) : erased.Sublist entries := by
  induction h with
  | nil => exact .slnil
  | keep _ ih => exact ih.cons_cons _
  | drop _ _ ih => exact ih.cons _

theorem erases_effective (draws : Draws) (e : Execution) (entries : List Entry) :
    Erases draws e entries (effective draws e entries) := by
  induction entries generalizing draws e with
  | nil => exact .nil
  | cons entry entries ih =>
    unfold effective
    split
    · next h => exact .drop h (ih draws e)
    · exact .keep (ih _ _)

/-- No entry that is left is inert when the run comes to it. -/
theorem not_inert_effective {k : Nat} {entry : Entry}
    (h : (effective draws e entries)[k]? = some entry) :
    ¬ (e.run draws (Script.decode ((effective draws e entries).take k))).Inert
      (.decode entry) := by
  induction entries generalizing draws e k with
  | nil => cases h
  | cons head entries ih =>
    unfold effective at h ⊢
    split at h
    · next hinert =>
      rw [if_pos hinert]
      exact ih h
    · next hinert =>
      rw [if_neg hinert]
      cases k with
      | zero =>
        cases h
        exact hinert
      | succ k => exact ih h

/-! ## Scripts that never switch the case -/

/-- No test that would switch the case holds when the run comes to it. -/
def NeverSwitches (draws : Draws) (e : Execution) (entries : List Entry) : Prop :=
  ∀ k entry source measure c expected label, entries[k]? = some entry →
    Instruction.decode entry = .test source measure c expected (.switchCase label) →
    (e.run draws (Script.decode (entries.take k))).Fails source measure c expected

theorem NeverSwitches.head {entry : Entry} (h : NeverSwitches draws e (entry :: entries))
    {source : Source} {measure : Measure} {c : Condition} {expected : Json} {label : String}
    (hentry : Instruction.decode entry = .test source measure c expected (.switchCase label)) :
    e.Fails source measure c expected :=
  h 0 entry source measure c expected label rfl hentry

theorem NeverSwitches.tail {entry : Entry} (h : NeverSwitches draws e (entry :: entries)) :
    NeverSwitches (draws.after (.decode entry)) (e.step (draws 0) (.decode entry)) entries :=
  fun k => h (k + 1)

theorem inert_of_isCased (hcase : e.activeCase = "") {entry : Entry}
    (h : NeverSwitches draws e (entry :: entries))
    (hcased : (Instruction.decode entry).isCased = true) : e.Inert (.decode entry) := by
  cases hentry : Instruction.decode entry with
  | test source measure c expected effect =>
    cases effect with
    | switchCase label => exact .test (h.head hentry)
    | bind name v =>
      rw [hentry] at hcased
      cases hcased
  | respond label op =>
    rw [hentry, Instruction.isCased, bne_iff_ne] at hcased
    exact .otherCase (hcase ▸ hcased)
  | _ =>
    rw [hentry] at hcased
    cases hcased

theorem activeCase_step_of_not_isCased (h : i.isCased = false) (d : Draw) :
    (e.step d i).activeCase = e.activeCase := by
  rw [activeCase_step]
  split
  · cases h
  · rfl

theorem erases_uncased (hcase : e.activeCase = "") (h : NeverSwitches draws e entries) :
    Erases draws e entries (entries.filter fun entry => !(Instruction.decode entry).isCased) := by
  induction entries generalizing draws e with
  | nil => exact .nil
  | cons entry entries ih =>
    cases hcased : (Instruction.decode entry).isCased with
    | true =>
      have hinert := inert_of_isCased hcase h hcased
      have htail := h.tail
      rw [step_of_inert hinert, after_of_inert hinert] at htail
      rw [List.filter_cons_of_neg (by simp [hcased])]
      exact .drop hinert (ih hcase htail)
    | false =>
      have hstep := activeCase_step_of_not_isCased hcased (draws 0) (e := e)
      rw [List.filter_cons_of_pos (by simp [hcased])]
      exact .keep (ih (hstep.trans hcase) h.tail)

/-- All that can be seen of a state behind a script. -/
def outcome (e : Execution) (chance : Nat) : Variables × String × Rendered :=
  (e.vars, e.activeCase, e.finish chance)

/-- Entries that are inert when the run comes to them can be left out, all of them, without any
difference in the outcome. If no test switches the case, these include all entries that have to
do with cases. -/
theorem outcome_effective (r : Request) (bindings : List (String × Json)) (draws : Draws)
    (chance : Nat) (entries : List Entry) :
    let e := prepare r bindings
    let erased := effective draws e entries
    let uncased := entries.filter fun entry => !(Instruction.decode entry).isCased
    (e.run draws (Script.decode erased)).outcome chance =
        (e.run draws (Script.decode entries)).outcome chance ∧
      erased.Sublist entries ∧
      (∀ k entry, erased[k]? = some entry →
        ¬ (e.run draws (Script.decode (erased.take k))).Inert (.decode entry)) ∧
      (NeverSwitches draws e entries →
        (e.run draws (Script.decode uncased)).outcome chance =
          (e.run draws (Script.decode entries)).outcome chance) := by
  intro e erased uncased
  have hcase : e.activeCase = "" := (sameButVars_prepare r bindings).activeCase
  refine ⟨?_, ?_, fun k entry => not_inert_effective, fun h => ?_⟩
  · rw [run_eq_of_erases (erases_effective draws e entries)]
  · exact (erases_effective draws e entries).sublist
  · rw [run_eq_of_erases (erases_uncased hcase h)]

/-- Behind a test that fails, what belongs to its case can be left out with it. -/
theorem outcome_effective_late_case :
    let e := prepare ⟨"GET", "/", [], [], []⟩ [("V", .null)]
    let draws : Draws := fun _ => ⟨id, 0, .zero false⟩
    let unknown : Entry := ⟨"Nowhere", "Delete", [.string "V"]⟩
    let switch : Entry :=
      ⟨"Condition", "IfRequestPathSetCase", [.string "Equal", .string "/x", .string "late"]⟩
    let late : Entry := ⟨"SetupResponse", "SetJsonBody", [.string "late", .string "no"]⟩
    let plain : Entry := ⟨"SetupResponse", "SetJsonBody", [.string "", .string "yes"]⟩
    let entries := [unknown, switch, late, plain]
    NeverSwitches draws e entries ∧ effective draws e entries = [plain] ∧
      (e.run draws (Script.decode [plain])).outcome 0 =
        (e.run draws (Script.decode entries)).outcome 0 ∧
      (e.run draws (Script.decode [unknown, plain])).outcome 0 =
        (e.run draws (Script.decode entries)).outcome 0 := by
  intro e draws unknown switch late plain entries
  have hunknown : Instruction.decode unknown = .invalid "Nowhere" "Delete" .unknownGroup := by rfl
  have hswitch : Instruction.decode switch =
      .test (.request .path) .value .equal (.string "/x") (.switchCase "late") := by rfl
  have hlate : Instruction.decode late = .respond "late" (.body "no") := by rfl
  have hplain : Instruction.decode plain = .respond "" (.body "yes") := by rfl
  have hfails : e.Fails (.request .path) .value .equal (.string "/x") :=
    passes_eq_false_iff.mp (by decide +kernel)
  have hnever : NeverSwitches draws e entries := by
    intro k entry source measure c expected label hentry htest
    rcases k with _ | _ | _ | _ | k <;> cases hentry
    · cases hunknown.symm.trans htest
    · cases hswitch.symm.trans htest
      exact hfails
    · cases hlate.symm.trans htest
    · cases hplain.symm.trans htest
  obtain ⟨heffective, -, -, huncased⟩ :=
    outcome_effective ⟨"GET", "/", [], [], []⟩ [("V", .null)] draws 0 entries
  have herased : effective draws e entries = [plain] := by
    have hactive : ¬ e.Inert (.decode plain) := by
      rw [hplain]
      intro h
      cases h with
      | otherCase h => exact h rfl
    rw [effective, if_pos (hunknown ▸ .invalid), effective, if_pos (hswitch ▸ .test hfails),
      effective, if_pos (hlate ▸ .otherCase (by decide)), effective, if_neg hactive, effective]
  have hfilter : entries.filter (fun entry => !(Instruction.decode entry).isCased) =
      [unknown, plain] := by
    simp [entries, hunknown, hswitch, hlate, hplain, Instruction.isCased]
  rw [herased] at heffective
  rw [hfilter] at huncased
  exact ⟨hnever, herased, heffective, huncased hnever⟩

end Execution

end MockHttp
