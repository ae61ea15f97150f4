import MockHttp.Proofs.Execution.Erasure
import MockHttp.Proofs.Execution.Generators
import MockHttp.Proofs.Json.Reading

/-! # What a step touches

The state of a script has components: each variable, the active case, and each part of the pending
response. An instruction is for one component at most. A step writes to this component or leaves
the state as it is, and it does the latter exactly if the instruction cannot apply.
-/

namespace MockHttp

inductive Component where
  | variable (name : String)
  | activeCase
  | status
  | body
  | header (name : HeaderName)
  | delay
  | randomDelay
deriving DecidableEq

def VariableOp.target : VariableOp → String
  | toText name => name
  | toInteger name => name
  | delete name => name
  | substring _ _ _ target => target
  | join target _ _ => target

/-- The variable that is read, apart from those in templates. -/
def VariableOp.source? : VariableOp → Option String
  | toText name => some name
  | toInteger name => some name
  | delete name => some name
  | substring source .. => some source
  | join .. => none

def Effect.component : Effect → Component
  | bind name _ => .variable name
  | switchCase _ => .activeCase

def ResponseOp.component : ResponseOp → Component
  | status _ => .status
  | body _ => .body
  | wait _ => .delay
  | randomWait .. => .randomDelay
  | header name _ => .header name
  | copyHeader name => .header name

theorem VariableOp.slice_eq_none_iff {cs : List Char} {start stop : Nat} :
    slice cs start stop = none ↔ Nat.min stop cs.length < start := by
  unfold slice
  dsimp only
  split <;> simp [*]

def Instruction.component? : Instruction → Option Component
  | extract _ target => some (.variable target)
  | test _ _ _ _ effect => some effect.component
  | generate g => some (.variable g.target)
  | manipulate op => some (.variable op.target)
  | respond _ op => some op.component
  | invalid .. => none

def Script.components (script : Script) : List Component :=
  script.filterMap Instruction.component?

theorem Script.components_cons (i : Instruction) (script : Script) :
    components (i :: script) = i.component?.toList ++ script.components := by
  unfold components
  cases h : i.component? with
  | none => rw [List.filterMap_cons_none h]; rfl
  | some c => rw [List.filterMap_cons_some h]; rfl

inductive Write where
  | bind (name : String) (v : Json)
  | unbind (name : String)
  | switchCase (label : String)
  | status (code : Nat)
  | body (template : String)
  | header (name : HeaderName) (bytes : Bytes)
  | delay (millis : Nat)
  | randomDelay (min max : Nat)

def Write.component : Write → Component
  | bind name _ => .variable name
  | unbind name => .variable name
  | switchCase _ => .activeCase
  | status _ => .status
  | body _ => .body
  | header name _ => .header name
  | delay _ => .delay
  | randomDelay .. => .randomDelay

namespace Execution

variable {e f : Execution}

def write (e : Execution) : Write → Execution
  | .bind name v => e.bind name v
  | .unbind name => { e with vars := e.vars.erase name }
  | .switchCase label => { e with activeCase := label }
  | .status code => { e with pending := { e.pending with status := some code } }
  | .body template => { e with pending := { e.pending with body := template } }
  | .header name bytes =>
    { e with pending := { e.pending with headers := e.pending.headers.insert name bytes } }
  | .delay millis => { e with pending := { e.pending with delay := millis } }
  | .randomDelay min max => { e with pending := { e.pending with randomDelay := some (min, max) } }

/-! ## Agreement off some components -/

/-- The states are the same but for the components that are touched. -/
structure AgreesOff (touched : List Component) (e f : Execution) : Prop where
  request : f.request = e.request
  document : f.document = e.document
  vars : ∀ name, .variable name ∉ touched → f.vars.get? name = e.vars.get? name
  activeCase : .activeCase ∉ touched → f.activeCase = e.activeCase
  status : .status ∉ touched → f.pending.status = e.pending.status
  body : .body ∉ touched → f.pending.body = e.pending.body
  headers : ∀ name, .header name ∉ touched →
    f.pending.headers.get? name = e.pending.headers.get? name
  delay : .delay ∉ touched → f.pending.delay = e.pending.delay
  randomDelay : .randomDelay ∉ touched → f.pending.randomDelay = e.pending.randomDelay

namespace AgreesOff

variable {touched touched' : List Component} {g : Execution}

theorem refl (touched : List Component) (e : Execution) : AgreesOff touched e e where
  request := rfl
  document := rfl
  vars _ _ := rfl
  activeCase _ := rfl
  status _ := rfl
  body _ := rfl
  headers _ _ := rfl
  delay _ := rfl
  randomDelay _ := rfl

theorem trans (h : AgreesOff touched e f) (h' : AgreesOff touched' f g) :
    AgreesOff (touched ++ touched') e g := by
  have hleft {c : Component} (hc : c ∉ touched ++ touched') : c ∉ touched :=
    fun hm => hc (List.mem_append_left _ hm)
  have hright {c : Component} (hc : c ∉ touched ++ touched') : c ∉ touched' :=
    fun hm => hc (List.mem_append_right _ hm)
  constructor
  · exact h'.request.trans h.request
  · exact h'.document.trans h.document
  · exact fun name hc => (h'.vars name (hright hc)).trans (h.vars name (hleft hc))
  · exact fun hc => (h'.activeCase (hright hc)).trans (h.activeCase (hleft hc))
  · exact fun hc => (h'.status (hright hc)).trans (h.status (hleft hc))
  · exact fun hc => (h'.body (hright hc)).trans (h.body (hleft hc))
  · exact fun name hc => (h'.headers name (hright hc)).trans (h.headers name (hleft hc))
  · exact fun hc => (h'.delay (hright hc)).trans (h.delay (hleft hc))
  · exact fun hc => (h'.randomDelay (hright hc)).trans (h.randomDelay (hleft hc))

theorem write (e : Execution) (w : Write) : AgreesOff [w.component] e (e.write w) := by
  have hne {α : Type} {a b : α} {k : α → Component} (h : k a ∉ [k b]) : a ≠ b := by
    rintro rfl
    exact h List.mem_cons_self
  have huntouched {c : Component} {p : Prop} (h : c ∉ [c]) : p := (h List.mem_cons_self).elim
  cases w with
  | bind name v =>
    refine ⟨rfl, rfl, fun n hn => ?_, fun _ => rfl, fun _ => rfl, fun _ => rfl, fun _ _ => rfl,
      fun _ => rfl, fun _ => rfl⟩
    rw [Execution.write, Execution.bind, Dict.get?_insert, if_neg (hne hn)]
  | unbind name =>
    refine ⟨rfl, rfl, fun n hn => ?_, fun _ => rfl, fun _ => rfl, fun _ => rfl, fun _ _ => rfl,
      fun _ => rfl, fun _ => rfl⟩
    rw [Execution.write, Dict.get?_erase, if_neg (hne hn)]
  | switchCase label =>
    exact ⟨rfl, rfl, fun _ _ => rfl, huntouched, fun _ => rfl, fun _ => rfl, fun _ _ => rfl,
      fun _ => rfl, fun _ => rfl⟩
  | status code =>
    exact ⟨rfl, rfl, fun _ _ => rfl, fun _ => rfl, huntouched, fun _ => rfl, fun _ _ => rfl,
      fun _ => rfl, fun _ => rfl⟩
  | body template =>
    exact ⟨rfl, rfl, fun _ _ => rfl, fun _ => rfl, fun _ => rfl, huntouched, fun _ _ => rfl,
      fun _ => rfl, fun _ => rfl⟩
  | header name bytes =>
    refine ⟨rfl, rfl, fun _ _ => rfl, fun _ => rfl, fun _ => rfl, fun _ => rfl, fun n hn => ?_,
      fun _ => rfl, fun _ => rfl⟩
    rw [Execution.write, Dict.get?_insert, if_neg (hne hn)]
  | delay millis =>
    exact ⟨rfl, rfl, fun _ _ => rfl, fun _ => rfl, fun _ => rfl, fun _ => rfl, fun _ _ => rfl,
      huntouched, fun _ => rfl⟩
  | randomDelay min max =>
    exact ⟨rfl, rfl, fun _ _ => rfl, fun _ => rfl, fun _ => rfl, fun _ => rfl, fun _ _ => rfl,
      fun _ => rfl, huntouched⟩

end AgreesOff

/-! ## The write of a step -/

def setting? (e : Execution) : ResponseOp → Option Write
  | .status code => if IsStatusCode code then some (.status code) else none
  | .body template => some (.body template)
  | .wait millis => some (.delay millis)
  | .randomWait min max => some (.randomDelay min max)
  | op => (e.headerWrite? op).map fun w => .header w.1 w.2

def manipulation? (e : Execution) : VariableOp → Option Write
  | .toText name => (e.vars.get? name).map fun v => .bind name (.string v.display)
  | .toInteger name =>
    ((e.vars.get? name).bind Json.spelledNumber?).map fun x =>
      .bind name (.int (Json.clampInt x.truncate))
  | .delete name => (e.vars.get? name).map fun _ => .unbind name
  | .substring source start stop target =>
    ((e.vars.get? source).bind fun v => VariableOp.slice v.displayChars start stop).map fun cs =>
      .bind target (.string (String.ofList cs))
  | .join target separator parts =>
    let texts := parts.map fun v => (e.resolve v).display
    some (.bind target (.string ((e.resolve separator).display.intercalate texts)))

def effectWrite (e : Execution) : Effect → Write
  | .bind name v => .bind name (e.resolve v)
  | .switchCase label => .switchCase label

/-- What an instruction writes; none if it does nothing. -/
def write? (e : Execution) (d : Draw) : Instruction → Option Write
  | .extract part target => ((e.readPart part).filter (!·.isNull)).map (.bind target)
  | .test source measure c expected effect =>
    if e.passes source measure c expected then some (e.effectWrite effect) else none
  | .generate g => (g.value? e.vars d).map (.bind g.target)
  | .manipulate op => e.manipulation? op
  | .respond label op => if label = e.activeCase then e.setting? op else none
  | .invalid .. => none

theorem manipulate_eq_write (e : Execution) (op : VariableOp) :
    e.manipulate op = (e.manipulation? op).elim e e.write := by
  cases op with
  | toText name =>
    simp only [manipulate, manipulation?]
    cases e.vars.get? name <;> rfl
  | toInteger name =>
    simp only [manipulate, manipulation?]
    cases (e.vars.get? name).bind Json.spelledNumber? <;> rfl
  | delete name =>
    simp only [manipulate, manipulation?]
    cases hv : e.vars.get? name with
    | none => rw [Dict.erase_of_get?_eq_none hv]; rfl
    | some v => rfl
  | substring source start stop target =>
    simp only [manipulate, manipulation?]
    cases (e.vars.get? source).bind fun v => VariableOp.slice v.displayChars start stop <;> rfl
  | join target separator parts => rfl

theorem setUp_eq_write (e : Execution) (op : ResponseOp) :
    { e with pending := e.setUp op } = (e.setting? op).elim e e.write := by
  cases op with
  | status code =>
    simp only [setUp, setting?]
    split <;> rfl
  | header name value =>
    simp only [setUp, setting?, headerWrite?]
    split <;> rfl
  | copyHeader name =>
    simp only [setUp_copyHeader, setting?, headerWrite?]
    cases e.request.copied? name <;> rfl
  | body template => rfl
  | wait millis => rfl
  | randomWait min max => rfl

/-- A step does the write of its instruction and nothing else. -/
theorem step_eq_write (e : Execution) (d : Draw) (i : Instruction) :
    e.step d i = (e.write? d i).elim e e.write := by
  cases i with
  | extract part target =>
    simp only [step, extract, write?]
    cases e.readPart part with
    | none => rfl
    | some v => cases v <;> rfl
  | test source measure c expected effect =>
    simp only [step, write?]
    split
    · cases effect <;> rfl
    · rfl
  | generate g =>
    simp only [step, generate, write?]
    cases g.value? e.vars d <;> rfl
  | manipulate op => exact manipulate_eq_write e op
  | respond label op =>
    simp only [step, write?]
    split
    · exact setUp_eq_write e op
    · rfl
  | invalid => rfl

variable {d : Draw} {i : Instruction} {w : Write}

theorem component_of_manipulation? {op : VariableOp} (h : e.manipulation? op = some w) :
    w.component = .variable op.target := by
  cases op with
  | toText | toInteger | delete | substring =>
    obtain ⟨_, -, rfl⟩ := Option.map_eq_some_iff.mp h
    rfl
  | join => cases h; rfl

theorem component_of_setting? {op : ResponseOp} (h : e.setting? op = some w) :
    w.component = op.component := by
  cases op with
  | status code =>
    obtain ⟨-, h⟩ := Option.ite_none_right_eq_some.mp h
    cases h
    rfl
  | header name value =>
    obtain ⟨written, hwritten, rfl⟩ := Option.map_eq_some_iff.mp h
    obtain ⟨-, h⟩ := Option.ite_none_right_eq_some.mp hwritten
    cases h
    rfl
  | copyHeader name =>
    obtain ⟨written, hwritten, rfl⟩ := Option.map_eq_some_iff.mp h
    obtain ⟨_, -, rfl⟩ := Option.map_eq_some_iff.mp hwritten
    rfl
  | body | wait | randomWait => cases h; rfl

theorem component_of_write? (h : e.write? d i = some w) : i.component? = some w.component := by
  cases i with
  | extract part target =>
    obtain ⟨v, -, rfl⟩ := Option.map_eq_some_iff.mp h
    rfl
  | test source measure c expected effect =>
    obtain ⟨-, h⟩ := Option.ite_none_right_eq_some.mp h
    cases h
    cases effect <;> rfl
  | generate g =>
    obtain ⟨v, -, rfl⟩ := Option.map_eq_some_iff.mp h
    rfl
  | manipulate op => exact congrArg some (component_of_manipulation? h).symm
  | respond label op =>
    obtain ⟨-, h⟩ := Option.ite_none_right_eq_some.mp h
    exact congrArg some (component_of_setting? h).symm
  | invalid => cases h

theorem agreesOff_step (e : Execution) (d : Draw) (i : Instruction) :
    AgreesOff i.component?.toList e (e.step d i) := by
  rw [step_eq_write]
  cases h : e.write? d i with
  | none => exact .refl _ e
  | some w =>
    rw [component_of_write? h]
    exact .write e w

/-- A script leaves alone what no instruction of it is for. -/
theorem agreesOff_run (draws : Draws) (e : Execution) (script : Script) :
    AgreesOff (Script.components script) e (e.run draws script) := by
  induction script generalizing draws e with
  | nil => exact .refl _ e
  | cons i script ih =>
    rw [Script.components_cons]
    exact (agreesOff_step e (draws 0) i).trans (ih (draws.after i) (e.step (draws 0) i))

/-! ## Instructions that cannot apply -/

inductive Unread (e : Execution) : RequestPart → Prop where
  | noDocument {path : String} : e.document = none → Unread e (.body path)
  | nowhere {path : String} {v : Json} {error : Json.PathError} : e.document = some v →
      v.resolve path = .error error → Unread e (.body path)

/-- The instruction is not for now, or what it needs is not there. -/
inductive Inapplicable (e : Execution) : Instruction → Prop where
  | invalid {group function : String} {reason : DecodeError} :
      Inapplicable e (.invalid group function reason)
  | otherCase {label : String} {op : ResponseOp} : label ≠ e.activeCase →
      Inapplicable e (.respond label op)
  | unread {part : RequestPart} {target : String} : e.Unread part →
      Inapplicable e (.extract part target)
  | null {part : RequestPart} {target : String} : e.readPart part = some .null →
      Inapplicable e (.extract part target)
  | test {source : Source} {measure : Measure} {c : Condition} {expected : Json}
      {effect : Effect} : Fails e source measure c expected →
      Inapplicable e (.test source measure c expected effect)
  | lacking {g : Generator} : g.Lacks e.vars → Inapplicable e (.generate g)
  | unbound {op : VariableOp} {name : String} : op.source? = some name →
      e.vars.get? name = none → Inapplicable e (.manipulate op)
  | notNumeric {name : String} {v : Json} : e.vars.get? name = some v → (∀ x, ¬ v.ReadsAs x) →
      Inapplicable e (.manipulate (.toInteger name))
  | beyond {source target : String} {start stop : Nat} {v : Json} :
      e.vars.get? source = some v → Nat.min stop v.displayChars.length < start →
      Inapplicable e (.manipulate (.substring source start stop target))
  | illegalValue {label value : String} {name : HeaderName} :
      ¬ IsHeaderValue (Text.bytes (Template.render value e.vars)) →
      Inapplicable e (.respond label (.header name value))
  | nothingToCopy {label : String} {name : HeaderName} :
      e.request.headerBytes? name = none ∨ e.request.headerBytes? name = some [] →
      Inapplicable e (.respond label (.copyHeader name))

theorem readPart_eq_none_iff {part : RequestPart} : e.readPart part = none ↔ e.Unread part := by
  constructor
  · intro h
    cases part with
    | header name => cases h
    | path => cases h
    | query name => cases h
    | body path =>
      cases hdocument : e.document with
      | none => exact .noDocument hdocument
      | some v =>
        cases hv : v.resolve path with
        | error error => exact .nowhere hdocument hv
        | ok w =>
          rw [readPart, hdocument, Option.bind_some, hv] at h
          cases h
  · intro h
    cases h with
    | noDocument hdocument => rw [readPart, hdocument, Option.bind_none]
    | nowhere hdocument hv =>
      rw [readPart, hdocument, Option.bind_some, hv]
      rfl

theorem manipulation?_eq_none_iff {op : VariableOp} :
    e.manipulation? op = none ↔ e.Inapplicable (.manipulate op) := by
  cases op with
  | toText name | delete name =>
    rw [manipulation?, Option.map_eq_none_iff]
    constructor
    · exact fun h => .unbound rfl h
    · intro h
      cases h with
      | unbound hname hv => cases hname; exact hv
  | toInteger name =>
    rw [manipulation?, Option.map_eq_none_iff]
    constructor
    · intro h
      cases hv : e.vars.get? name with
      | none => exact .unbound rfl hv
      | some v =>
        rw [hv, Option.bind_some, Json.spelledNumber?_eq_none_iff] at h
        exact .notNumeric hv h
    · intro h
      cases h with
      | unbound hname hv => cases hname; rw [hv, Option.bind_none]
      | notNumeric hv h => rw [hv, Option.bind_some, Json.spelledNumber?_eq_none_iff.mpr h]
  | substring source start stop target =>
    rw [manipulation?, Option.map_eq_none_iff]
    constructor
    · intro h
      cases hv : e.vars.get? source with
      | none => exact .unbound rfl hv
      | some v =>
        rw [hv, Option.bind_some, VariableOp.slice_eq_none_iff] at h
        exact .beyond hv h
    · intro h
      cases h with
      | unbound hname hv => cases hname; rw [hv, Option.bind_none]
      | beyond hv h => rw [hv, Option.bind_some, VariableOp.slice_eq_none_iff.mpr h]
  | join target separator parts =>
    constructor
    · exact nofun
    · intro h
      cases h with
      | unbound hname => cases hname

theorem setting?_eq_none_iff {label : String} {op : ResponseOp} (hop : op.InRange)
    (hlabel : label = e.activeCase) :
    e.setting? op = none ↔ e.Inapplicable (.respond label op) := by
  cases op with
  | status code =>
    have hcode : IsStatusCode code := hop
    rw [setting?, if_pos hcode]
    constructor
    · intro h
      cases h
    · intro h
      cases h with
      | otherCase h => exact (h hlabel).elim
  | header name value =>
    simp only [setting?, headerWrite?, Option.map_eq_none_iff, ite_eq_right_iff]
    constructor
    · intro h
      refine .illegalValue fun hlegal => ?_
      cases h hlegal
    · intro h hlegal
      cases h with
      | otherCase h => exact (h hlabel).elim
      | illegalValue h => exact (h hlegal).elim
  | copyHeader name =>
    simp only [setting?, headerWrite?, Option.map_eq_none_iff, Request.copied?_eq_none_iff]
    constructor
    · exact .nothingToCopy
    · intro h
      cases h with
      | otherCase h => exact (h hlabel).elim
      | nothingToCopy h => exact h
  | body | wait | randomWait =>
    constructor
    · intro h
      cases h
    · intro h
      cases h with
      | otherCase h => exact (h hlabel).elim

/-- A decoded instruction writes nothing exactly if it cannot apply. -/
theorem write?_decode_eq_none_iff {entry : Entry} (e : Execution) (d : Draw) :
    e.write? d (.decode entry) = none ↔ e.Inapplicable (.decode entry) := by
  have hrange := Instruction.inRange_decode entry
  cases hi : Instruction.decode entry with
  | extract part target =>
    rw [write?, Option.map_eq_none_iff, Option.filter_eq_none_iff]
    constructor
    · intro h
      cases hread : e.readPart part with
      | none => exact .unread (readPart_eq_none_iff.mp hread)
      | some v =>
        have hnull := h v hread
        cases v with
        | null => exact .null hread
        | _ => cases hnull rfl
    · intro h v hv
      cases h with
      | unread h => cases hv.symm.trans (readPart_eq_none_iff.mpr h)
      | null h =>
        cases hv.symm.trans h
        exact nofun
  | test source measure c expected effect =>
    rw [write?, ite_eq_right_iff]
    constructor
    · intro h
      exact .test (passes_eq_false_iff.mp (Bool.eq_false_iff.mpr fun hpasses => nomatch h hpasses))
    · intro h hpasses
      cases h with
      | test h => cases hpasses.symm.trans (passes_eq_false_iff.mpr h)
  | generate g =>
    rw [write?, Option.map_eq_none_iff,
      Generator.value?_eq_none_iff (Generator.drawable_of_decode hi)]
    exact ⟨.lacking, fun | .lacking h => h⟩
  | manipulate op => exact manipulation?_eq_none_iff
  | respond label op =>
    rw [hi] at hrange
    by_cases hlabel : label = e.activeCase
    · rw [write?, if_pos hlabel]
      exact setting?_eq_none_iff hrange hlabel
    · rw [write?, if_neg hlabel]
      exact ⟨fun _ => .otherCase hlabel, fun _ => rfl⟩
  | invalid => exact ⟨fun _ => .invalid, fun _ => rfl⟩

/-- A step changes no component but the one that its instruction is for. Either the instruction
cannot apply and the state stays as it is, or the step is one write to this component. -/
theorem step_touches_one_component (e : Execution) (d : Draw) (entry : Entry) :
    let i := Instruction.decode entry
    AgreesOff i.component?.toList e (e.step d i) ∧
      (e.Inapplicable i → e.step d i = e) ∧
      (¬ e.Inapplicable i →
        ∃ w, i.component? = some w.component ∧ e.step d i = e.write w) := by
  intro i
  refine ⟨agreesOff_step e d i, fun h => ?_, fun h => ?_⟩
  · rw [step_eq_write, (write?_decode_eq_none_iff e d).mpr h]
    rfl
  · obtain ⟨w, hw⟩ := Option.ne_none_iff_exists'.mp (mt (write?_decode_eq_none_iff e d).mp h)
    refine ⟨w, component_of_write? hw, ?_⟩
    rw [step_eq_write, hw]
    rfl

end Execution

end MockHttp
