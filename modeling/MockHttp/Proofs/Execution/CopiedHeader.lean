import MockHttp.Proofs.Execution.Components
import MockHttp.Proofs.Execution.Headers
import MockHttp.Proofs.Instruction.Denotation

/-! # Copying a header by way of a variable

A variable that no instruction uses does not matter to the response. So a header can be copied by
way of such a variable: its value is extracted as text, and a header is set to a reference to it.
The template is parsed before the value is known, so whatever the value contains, it arrives
unchanged.
-/

namespace MockHttp

/-! ## References in templates -/

def Template.RefersTo (template name : String) : Prop :=
  ∃ pieces, parse? template.toList = some pieces ∧ .reference name.toList ∈ pieces

theorem Template.not_refersTo_empty (name : String) : ¬ RefersTo "" name := by
  rintro ⟨pieces, hparse, hmem⟩
  have hnone : parse? "".toList = some [.literal []] := parse?_nil
  rw [hnone] at hparse
  cases hparse
  simp at hmem

theorem Template.refersTo_referenceTo_iff {other name : String} (h : IsName other) :
    RefersTo (referenceTo other) name ↔ other = name := by
  unfold RefersTo
  rw [parse?_referenceTo h]
  simp [String.toList_inj, eq_comm]

theorem Template.render_congr {template name : String} {vars vars' : Variables}
    (h : ∀ other, other ≠ name → vars'.get? other = vars.get? other)
    (hrefers : ¬ RefersTo template name) : render template vars' = render template vars := by
  unfold render renderChars
  split
  · rfl
  · next pieces hparse =>
    have hpiece : ∀ piece ∈ pieces, piece.render vars' = piece.render vars := by
      intro piece hmem
      cases piece with
      | literal cs => rfl
      | reference other =>
        have hother : String.ofList other ≠ name := by
          rintro rfl
          exact hrefers ⟨pieces, hparse, by rwa [String.toList_ofList]⟩
        rw [Piece.render, Piece.render, h _ hother]
    rw [List.flatMap_def, List.flatMap_def, List.map_congr_left hpiece]

def Json.RefersTo (v : Json) (name : String) : Prop :=
  ∃ template, v = .string template ∧ Template.RefersTo template name

/-- The instruction looks at the variable. It is not used where it is only bound. -/
inductive Instruction.Uses (name : String) : Instruction → Prop where
  | tested {measure : Measure} {c : Condition} {expected : Json} {effect : Effect} :
      Uses name (.test (.variable name) measure c expected effect)
  | expected {source : Source} {measure : Measure} {c : Condition} {expected : Json}
      {effect : Effect} : expected.RefersTo name →
      Uses name (.test source measure c expected effect)
  | bound {source : Source} {measure : Measure} {c : Condition} {expected v : Json}
      {target : String} : v.RefersTo name →
      Uses name (.test source measure c expected (.bind target v))
  | hashed {algorithm : HashAlgorithm} {target : String} :
      Uses name (.generate (.hash name algorithm target))
  | source {op : VariableOp} : op.source? = some name → Uses name (.manipulate op)
  | separator {target : String} {separator : Json} {parts : List Json} :
      separator.RefersTo name → Uses name (.manipulate (.join target separator parts))
  | part {target : String} {separator v : Json} {parts : List Json} : v ∈ parts →
      v.RefersTo name → Uses name (.manipulate (.join target separator parts))
  | body {label template : String} : Template.RefersTo template name →
      Uses name (.respond label (.body template))
  | header {label template : String} {header : HeaderName} :
      Template.RefersTo template name → Uses name (.respond label (.header header template))

namespace Execution

variable {e f : Execution} {name : String} {d : Draw} {i : Instruction}

/-! ## Variables that are not used -/

theorem AgreesOff.write_congr {touched : List Component} (h : AgreesOff touched e f) (w : Write) :
    AgreesOff touched (e.write w) (f.write w) := by
  obtain ⟨hrequest, hdocument, hvars, hcase, hstatus, hbody, hheaders, hdelay, hrandom⟩ := h
  cases w with
  | bind target v =>
    refine ⟨hrequest, hdocument, fun other hother => ?_, hcase, hstatus, hbody, hheaders, hdelay,
      hrandom⟩
    simp only [Execution.write, bind, Dict.get?_insert, hvars other hother]
  | unbind target =>
    refine ⟨hrequest, hdocument, fun other hother => ?_, hcase, hstatus, hbody, hheaders, hdelay,
      hrandom⟩
    simp only [Execution.write, Dict.get?_erase, hvars other hother]
  | switchCase label =>
    exact ⟨hrequest, hdocument, hvars, fun _ => rfl, hstatus, hbody, hheaders, hdelay, hrandom⟩
  | status code =>
    exact ⟨hrequest, hdocument, hvars, hcase, fun _ => rfl, hbody, hheaders, hdelay, hrandom⟩
  | body template =>
    exact ⟨hrequest, hdocument, hvars, hcase, hstatus, fun _ => rfl, hheaders, hdelay, hrandom⟩
  | header header bytes =>
    refine ⟨hrequest, hdocument, hvars, hcase, hstatus, hbody, fun other hother => ?_, hdelay,
      hrandom⟩
    simp only [Execution.write, Dict.get?_insert, hheaders other hother]
  | delay millis =>
    exact ⟨hrequest, hdocument, hvars, hcase, hstatus, hbody, hheaders, fun _ => rfl, hrandom⟩
  | randomDelay min max =>
    exact ⟨hrequest, hdocument, hvars, hcase, hstatus, hbody, hheaders, hdelay, fun _ => rfl⟩

namespace AgreesOff

theorem get?_eq (h : AgreesOff [.variable name] e f) {other : String} (hne : other ≠ name) :
    f.vars.get? other = e.vars.get? other :=
  h.vars other (by simp [hne])

theorem resolve_eq (h : AgreesOff [.variable name] e f) {v : Json} (hv : ¬ v.RefersTo name) :
    f.resolve v = e.resolve v := by
  cases v with
  | string template =>
    have hrefers : ¬ Template.RefersTo template name := fun hr => hv ⟨template, rfl, hr⟩
    rw [resolve, resolve, Template.render_congr (fun _ => h.get?_eq) hrefers]
  | _ => rfl

theorem readPart_eq (h : AgreesOff [.variable name] e f) (part : RequestPart) :
    f.readPart part = e.readPart part := by
  cases part <;> simp only [readPart, h.request, h.document]

theorem passes_eq (h : AgreesOff [.variable name] e f) {source : Source} {measure : Measure}
    {c : Condition} {expected : Json} {effect : Effect}
    (hi : ¬ (Instruction.test source measure c expected effect).Uses name) :
    f.passes source measure c expected = e.passes source measure c expected := by
  have hread : f.read source = e.read source := by
    cases source with
    | request part => exact h.readPart_eq part
    | «variable» other =>
      refine h.get?_eq ?_
      rintro rfl
      exact hi .tested
  rw [passes, passes, hread, h.resolve_eq fun hr => hi (.expected hr)]

theorem manipulation?_eq (h : AgreesOff [.variable name] e f) {op : VariableOp}
    (hi : ¬ (Instruction.manipulate op).Uses name) : f.manipulation? op = e.manipulation? op := by
  have hsource {other : String} (hother : op.source? = some other) :
      f.vars.get? other = e.vars.get? other := by
    refine h.get?_eq ?_
    rintro rfl
    exact hi (.source hother)
  cases op with
  | toText | toInteger | delete | substring => simp only [manipulation?, hsource rfl]
  | join target separator parts =>
    have hparts : ∀ v ∈ parts, (f.resolve v).display = (e.resolve v).display := by
      intro v hv
      rw [h.resolve_eq fun hr => hi (.part hv hr)]
    simp only [manipulation?, List.map_congr_left hparts,
      h.resolve_eq fun hr => hi (.separator hr)]

theorem setting?_eq (h : AgreesOff [.variable name] e f) {label : String} {op : ResponseOp}
    (hi : ¬ (Instruction.respond label op).Uses name) : f.setting? op = e.setting? op := by
  cases op with
  | header header template =>
    simp only [setting?, headerWrite?,
      Template.render_congr (fun _ => h.get?_eq) fun hr => hi (.header hr)]
  | copyHeader header => simp only [setting?, headerWrite?, h.request]
  | status | body | wait | randomWait => rfl

/-- What is written does not depend on a variable that is not used. -/
theorem write?_eq (h : AgreesOff [.variable name] e f) (hi : ¬ i.Uses name) (d : Draw) :
    f.write? d i = e.write? d i := by
  cases i with
  | extract part target => rw [write?, write?, h.readPart_eq]
  | test source measure c expected effect =>
    have heffect : f.effectWrite effect = e.effectWrite effect := by
      cases effect with
      | bind target v => rw [effectWrite, effectWrite, h.resolve_eq fun hr => hi (.bound hr)]
      | switchCase label => rfl
    rw [write?, write?, h.passes_eq hi, heffect]
  | generate g =>
    cases g with
    | hash source algorithm target =>
      have hne : source ≠ name := by
        rintro rfl
        exact hi .hashed
      simp only [write?, Generator.value?, h.get?_eq hne]
    | randomString | randomInt | randomDigits | randomDecimal => rfl
  | manipulate op => exact h.manipulation?_eq hi
  | respond label op => rw [write?, write?, h.activeCase (by simp), h.setting?_eq hi]
  | invalid => rfl

theorem step (h : AgreesOff [.variable name] e f) (hi : ¬ i.Uses name) (d : Draw) :
    AgreesOff [.variable name] (e.step d i) (f.step d i) := by
  rw [step_eq_write, step_eq_write, h.write?_eq hi]
  cases e.write? d i with
  | none => exact h
  | some w => exact h.write_congr w

theorem run {script : Script} (h : AgreesOff [.variable name] e f)
    (hscript : ∀ i ∈ script, ¬ i.Uses name) (draws : Draws) :
    AgreesOff [.variable name] (e.run draws script) (f.run draws script) := by
  induction script generalizing draws e f with
  | nil => exact h
  | cons i script ih =>
    have hi := hscript i List.mem_cons_self
    exact ih (h.step hi (draws 0)) (fun j hj => hscript j (List.mem_cons_of_mem i hj)) _

end AgreesOff

/-! ## The pending body -/

theorem body_step (e : Execution) (d : Draw) (i : Instruction) :
    (e.step d i).pending.body = e.pending.body ∨
      ∃ label, i = .respond label (.body (e.step d i).pending.body) := by
  rw [pending_step]
  cases i with
  | respond label op =>
    dsimp only
    split
    · rw [body_setUp]
      cases op with
      | body template => exact .inr ⟨label, rfl⟩
      | _ => exact .inl rfl
    · exact .inl rfl
  | _ => exact .inl rfl

theorem not_refersTo_body_run {script : Script} (hscript : ∀ i ∈ script, ¬ i.Uses name)
    (he : ¬ Template.RefersTo e.pending.body name) (draws : Draws) :
    ¬ Template.RefersTo (e.run draws script).pending.body name := by
  induction script generalizing draws e with
  | nil => exact he
  | cons i script ih =>
    refine ih (fun j hj => hscript j (List.mem_cons_of_mem i hj)) ?_ _
    rcases body_step e (draws 0) i with hbody | ⟨label, hi⟩
    · rwa [hbody]
    · exact fun hr => hscript i List.mem_cons_self (hi ▸ .body hr)

theorem AgreesOff.response_eq (h : AgreesOff [.variable name] e f)
    (hbody : ¬ Template.RefersTo e.pending.body name) (chance : Nat) :
    (f.finish chance).response = (e.finish chance).response ∧
      (f.finish chance).delay = (e.finish chance).delay := by
  have hpending : f.pending = e.pending := by
    have hheaders : f.pending.headers = e.pending.headers := by
      apply Dict.ext_get?
      exact fun header => h.headers header (by simp)
    have hstatus := h.status (by simp)
    have hsame := h.body (by simp)
    have hdelay := h.delay (by simp)
    have hrandom := h.randomDelay (by simp)
    cases hf : f.pending
    cases he : e.pending
    simp_all
  have hrender := Template.render_congr (fun _ => h.get?_eq) hbody
  simp only [finish, Rendered.response, hpending, hrender, and_self]

/-! ## Copying a header -/

section Copying

variable {header : HeaderName} {value label : String}

theorem step_extract_header {text : String} (hname : HeaderName.ofText? text = some header)
    (hvalue : e.request.headerBytes? header = some (Text.bytes value)) (d : Draw)
    (target : String) :
    e.step d (.extract (.header text) target) = e.write (.bind target (.string value)) := by
  have hread : e.request.header text = value := by
    simp only [Request.header, hname, Option.bind_some, hvalue, Text.ofBytesLossy_bytes]
  simp only [step, extract, readPart, hread]
  rfl

theorem step_copyHeader (hvalue : e.request.headerBytes? header = some (Text.bytes value))
    (hne : value ≠ "") (d : Draw) :
    e.step d (.respond label (.copyHeader header)) =
      if label = e.activeCase then e.write (.header header (Text.bytes value)) else e := by
  have hcopied : e.request.copied? header = some (Text.bytes value) := by
    refine Request.copied?_eq_some_iff.mpr ⟨hvalue, fun hempty => hne ?_⟩
    rw [← Text.ofBytesLossy_bytes value, hempty]
    rfl
  simp only [step, setUp_copyHeader, hcopied]
  rfl

theorem step_header_reference (hname : Template.IsName name)
    (hbound : e.vars.get? name = some (.string value)) (hlegal : IsHeaderValue (Text.bytes value))
    (d : Draw) :
    e.step d (.respond label (.header header (Template.referenceTo name))) =
      if label = e.activeCase then e.write (.header header (Text.bytes value)) else e := by
  have hrender : Template.render (Template.referenceTo name) e.vars = value := by
    rw [Template.render_referenceTo hname hbound, Json.display_string]
  simp only [step, setUp, hrender, if_pos hlegal]
  rfl

/-- Extracting and setting does what copying does, and binds the variable. -/
theorem agreesOff_copy {text : String} (htext : HeaderName.ofText? text = some header)
    (hvalue : e.request.headerBytes? header = some (Text.bytes value)) (hne : value ≠ "")
    (hlegal : IsHeaderValue (Text.bytes value)) (hname : Template.IsName name) (d : Draw) :
    AgreesOff [.variable name] (e.step d (.respond label (.copyHeader header)))
      ((e.step d (.extract (.header text) name)).step d
        (.respond label (.header header (Template.referenceTo name)))) := by
  have hbind := AgreesOff.write e (.bind name (.string value))
  have hbound : (e.write (.bind name (.string value))).vars.get? name = some (.string value) :=
    get?_bind e name _
  have hcase : (e.write (.bind name (.string value))).activeCase = e.activeCase := rfl
  rw [step_extract_header htext hvalue, step_copyHeader hvalue hne,
    step_header_reference hname hbound hlegal, hcase]
  split
  · exact hbind.write_congr _
  · exact hbind

theorem agreesOff_run_copy {text : String} (htext : HeaderName.ofText? text = some header)
    (hvalue : e.request.headerBytes? header = some (Text.bytes value)) (hne : value ≠ "")
    (hlegal : IsHeaderValue (Text.bytes value)) (hname : Template.IsName name)
    {before after : Script} (hafter : ∀ i ∈ after, ¬ i.Uses name) (draws : Draws) :
    AgreesOff [.variable name]
      (e.run draws (before ++ .respond label (.copyHeader header) :: after))
      (e.run draws (before ++ .extract (.header text) name ::
        .respond label (.header header (Template.referenceTo name)) :: after)) := by
  rw [run_append, run_append]
  have hrequest := (request_document_run draws e before).1
  -- Neither of the instructions takes a draw, so the rest of the script meets the same chance.
  refine (agreesOff_copy htext ?_ hne hlegal hname _).run hafter (draws.afterAll before)
  rwa [hrequest]

end Copying

/-- A header is copied by way of a variable that nothing else uses: its value is extracted, and the
header is set to a reference to it. The response and its delay are the same as if it were copied at
once, whatever the value contains and in whichever letters the name is written. -/
theorem response_copied_by_variable {r : Request} (hr : ∀ h ∈ r.headers, IsHeaderValue h.2)
    {header : HeaderName} {value : String}
    (hvalue : r.headerBytes? header = some (Text.bytes value)) (hne : value ≠ "")
    {copied extracted set : String}
    (hnames : ∀ text ∈ [copied, extracted, set], HeaderName.ofText? text = some header)
    {name : String} (hname : Template.IsName name) {before after : List Entry}
    (hunused : ∀ entry ∈ before ++ after, ¬ (Instruction.decode entry).Uses name)
    (bindings : List (String × Json)) (draws : Draws) (chance : Nat) (label : String) :
    let rendered entries := (reached r bindings draws (Script.decode entries)).finish chance
    let direct := rendered (before ++ (Draft.copyHeader label copied).entry :: after)
    let indirect := rendered (before ++ (Draft.extract (.header extracted) name).entry ::
      (Draft.header label set (Template.referenceTo name)).entry :: after)
    indirect.response = direct.response ∧ indirect.delay = direct.delay := by
  have hcopied := hnames copied (by simp)
  have hextracted := hnames extracted (by simp)
  have hset := hnames set (by simp)
  have hlegal := Request.isHeaderValue_of_headerBytes? hr hvalue
  have hdirect : Instruction.decode (Draft.copyHeader label copied).entry =
      .respond label (.copyHeader header) :=
    Instruction.decode_entry_of_denotes (.copyHeader (HeaderName.ofText?_eq_some_iff.mp hcopied))
      (HeaderName.isLegalText_of_ofText? hcopied)
  have hextract : Instruction.decode (Draft.extract (.header extracted) name).entry =
      .extract (.header extracted) name :=
    Instruction.decode_entry_of_denotes .extract trivial
  have hreference :
      Instruction.decode (Draft.header label set (Template.referenceTo name)).entry =
        .respond label (.header header (Template.referenceTo name)) :=
    Instruction.decode_entry_of_denotes (.header (HeaderName.ofText?_eq_some_iff.mp hset))
      (HeaderName.isLegalText_of_ofText? hset)
  have hused {part : List Entry} (hpart : part ⊆ before ++ after) :
      ∀ i ∈ Script.decode part, ¬ i.Uses name := by
    intro i hi
    obtain ⟨entry, hentry, rfl⟩ := List.mem_map.mp hi
    exact hunused entry (hpart hentry)
  intro rendered direct indirect
  simp only [rendered, direct, indirect, reached, Script.decode, List.map_append, List.map_cons,
    hdirect, hextract, hreference]
  have hrequest : (prepare r bindings).request = r := (sameButVars_prepare r bindings).request
  refine (agreesOff_run_copy hextracted (by rwa [hrequest]) hne hlegal hname
    (hused (List.subset_append_right before after)) draws).response_eq ?_ chance
  have hempty : ¬ Template.RefersTo (prepare r bindings).pending.body name := by
    rw [(sameButVars_prepare r bindings).pending]
    exact Template.not_refersTo_empty name
  refine not_refersTo_body_run (fun i hi => ?_) hempty draws
  rcases List.mem_append.mp hi with hi | hi
  · exact hused (List.subset_append_left before after) i hi
  · rcases List.mem_cons.mp hi with rfl | hi
    · intro hcopy
      cases hcopy
    · exact hused (List.subset_append_right before after) i hi

/-- The value looks like a reference to the variable that carries it, with an open one behind it,
and each entry writes the name in letters of its own. -/
theorem response_copied_by_variable_with_markers :
    let value := "a\x7b\x7b.V\x7d\x7d\x7b\x7bé"
    let r : Request := ⟨"GET", "/", [], [(.host, Text.bytes value)], []⟩
    let direct := [(Draft.copyHeader "" "HOST").entry]
    let indirect := [(Draft.extract (.header "host") "V").entry,
      (Draft.header "" "Host" (Template.referenceTo "V")).entry]
    let after := [(Draft.body "" (Template.referenceTo "W")).entry]
    let draws : Draws := fun _ => ⟨id, 0, .zero false⟩
    let rendered entries := (reached r [("W", .int 5)] draws (Script.decode entries)).finish 0
    (∀ h ∈ r.headers, IsHeaderValue h.2) ∧ Template.IsName "V" ∧
      (rendered (indirect ++ after)).response = (rendered (direct ++ after)).response ∧
      (rendered (direct ++ after)).response.headers.get? .host = some (Text.bytes value) := by
  intro value r direct indirect after draws rendered
  have hr : ∀ h ∈ r.headers, IsHeaderValue h.2 := by
    intro h hh
    cases List.mem_singleton.mp hh
    decide +kernel
  have hvalue : r.headerBytes? .host = some (Text.bytes value) := rfl
  have hnames : ∀ text ∈ ["HOST", "host", "Host"], HeaderName.ofText? text = some .host := by
    decide
  have hV : Template.IsName "V" := ⟨by decide, List.all_eq_true.mp (by decide)⟩
  have hW : Template.IsName "W" := ⟨by decide, List.all_eq_true.mp (by decide)⟩
  have hunused : ∀ entry ∈ [] ++ after, ¬ (Instruction.decode entry).Uses "V" := by
    intro entry hentry huses
    obtain rfl := List.mem_singleton.mp hentry
    rw [Instruction.decode_entry_of_denotes .body trivial] at huses
    cases huses with
    | body hrefers => exact absurd ((Template.refersTo_referenceTo_iff hW).mp hrefers) (by decide)
  obtain ⟨hresponse, -⟩ := response_copied_by_variable hr hvalue (by decide) hnames
    hV hunused [("W", .int 5)] draws 0 ""
  exact ⟨hr, hV, hresponse, by decide +kernel⟩

end Execution

end MockHttp
