import MockHttp.Proofs.Execution.Run

/-! # What a script does not name

A script depends on the parts of a request that its instructions read and on the headers that
they copy. Two requests that agree in these are answered alike: the runs differ in nothing but
the request that they hold.
-/

namespace MockHttp

inductive Instruction.Reads : Instruction → RequestPart → Prop where
  | extract {part : RequestPart} {target : String} : Reads (.extract part target) part
  | test {part : RequestPart} {measure : Measure} {c : Condition} {expected : Json}
      {effect : Effect} : Reads (.test (.request part) measure c expected effect) part

def Script.Reads (script : Script) (part : RequestPart) : Prop := ∃ i ∈ script, i.Reads part

def Script.Copies (script : Script) (name : HeaderName) : Prop :=
  ∃ label, .respond label (.copyHeader name) ∈ script

/-- The requests agree in all that the script names. A copied header that is empty counts as
absent. -/
structure Script.Agree (script : Script) (r s : Request) : Prop where
  path : script.Reads .path → r.path = s.path
  header : ∀ name, script.Reads (.header name) → r.header name = s.header name
  query : ∀ name, script.Reads (.query name) → r.parameter name = s.parameter name
  body : ∀ path, script.Reads (.body path) →
    (r.document?.bind fun v => (v.resolve path).toOption) =
      s.document?.bind fun v => (v.resolve path).toOption
  copied : ∀ name, script.Copies name → r.copied? name = s.copied? name

namespace Execution

def forRequest (e : Execution) (s : Request) : Execution :=
  { e with request := s, document := s.document? }

variable {e : Execution} {s : Request}

@[simp] theorem vars_forRequest : (e.forRequest s).vars = e.vars := rfl

@[simp] theorem bind_forRequest (name : String) (v : Json) :
    (e.forRequest s).bind name v = (e.bind name v).forRequest s := rfl

@[simp] theorem resolve_forRequest (v : Json) : (e.forRequest s).resolve v = e.resolve v := by
  cases v <;> rfl

theorem extract_forRequest {part : RequestPart} (target : String)
    (h : (e.forRequest s).readPart part = e.readPart part) :
    (e.forRequest s).extract part target = (e.extract part target).forRequest s := by
  unfold extract
  rw [h]
  split <;> rfl

theorem passes_forRequest {source : Source} (measure : Measure) (c : Condition) (expected : Json)
    (h : (e.forRequest s).read source = e.read source) :
    (e.forRequest s).passes source measure c expected = e.passes source measure c expected := by
  unfold passes
  rw [h, resolve_forRequest]

theorem applyEffect_forRequest (effect : Effect) :
    (e.forRequest s).applyEffect effect = (e.applyEffect effect).forRequest s := by
  cases effect with
  | bind name v => simp [applyEffect]
  | switchCase label => rfl

theorem generate_forRequest (d : Draw) (g : Generator) :
    (e.forRequest s).generate d g = (e.generate d g).forRequest s := by
  simp only [generate, vars_forRequest, bind_forRequest]
  cases g.value? e.vars d <;> rfl

theorem manipulate_forRequest (op : VariableOp) :
    (e.forRequest s).manipulate op = (e.manipulate op).forRequest s := by
  cases op with
  | toText name =>
    simp only [manipulate, vars_forRequest, bind_forRequest]
    cases e.vars.get? name <;> rfl
  | toInteger name =>
    simp only [manipulate, vars_forRequest, bind_forRequest]
    cases (e.vars.get? name).bind Json.spelledNumber? <;> rfl
  | delete name => rfl
  | substring source start stop target =>
    simp only [manipulate, vars_forRequest, bind_forRequest]
    split <;> rfl
  | join target separator parts => simp [manipulate]

theorem setUp_forRequest {op : ResponseOp}
    (h : ∀ name, op = .copyHeader name → s.copied? name = e.request.copied? name) :
    (e.forRequest s).setUp op = e.setUp op := by
  cases op with
  | copyHeader name =>
    simp only [setUp_copyHeader]
    rw [show (e.forRequest s).request = s from rfl, h name rfl]
    rfl
  | _ => rfl

/-- Requests that agree in what an instruction names take the same step. -/
theorem step_forRequest (d : Draw) {i : Instruction}
    (hparts : ∀ part, i.Reads part → (e.forRequest s).readPart part = e.readPart part)
    (hcopied : ∀ label name, i = .respond label (.copyHeader name) →
      s.copied? name = e.request.copied? name) :
    (e.forRequest s).step d i = (e.step d i).forRequest s := by
  cases i with
  | extract part target => exact extract_forRequest target (hparts part .extract)
  | test source measure c expected effect =>
    have hread : (e.forRequest s).read source = e.read source := by
      rcases source with part | name
      · exact hparts part .test
      · rfl
    simp only [step, passes_forRequest measure c expected hread, applyEffect_forRequest]
    split <;> rfl
  | generate g => exact generate_forRequest d g
  | manipulate op => exact manipulate_forRequest op
  | respond label op =>
    have hop : (e.forRequest s).setUp op = e.setUp op := by
      refine setUp_forRequest fun name hname => hcopied label name ?_
      rw [hname]
    simp only [step, hop]
    change (if label = e.activeCase then _ else _) = _
    split <;> rfl
  | invalid group function reason => rfl

theorem readPart_forRequest {script : Script} {r : Request} (h : script.Agree r s)
    (hr : e.request = r) (hd : e.document = r.document?) {part : RequestPart}
    (hpart : script.Reads part) : (e.forRequest s).readPart part = e.readPart part := by
  subst hr
  cases part with
  | header name => exact congrArg (fun t => some (Json.string t)) (h.header name hpart).symm
  | path => exact congrArg (fun t => some (Json.string t)) (h.path hpart).symm
  | query name => exact congrArg (fun t => some (Json.string t)) (h.query name hpart).symm
  | body path =>
    have he := h.body path hpart
    rw [← hd] at he
    exact he.symm

theorem run_forRequest {script : Script} {r : Request} (h : script.Agree r s) (draws : Draws)
    (hr : e.request = r) (hd : e.document = r.document?) :
    (e.forRequest s).run draws script = (e.run draws script).forRequest s := by
  suffices hsub : ∀ (part : Script) (draws : Draws) (e : Execution), part ⊆ script →
      e.request = r → e.document = r.document? →
      (e.forRequest s).run draws part = (e.run draws part).forRequest s from
    hsub script draws e (List.Subset.refl _) hr hd
  intro part
  induction part with
  | nil => exact fun _ _ _ _ _ => rfl
  | cons i part ih =>
    intro draws e hpart hr hd
    obtain ⟨hi, hpart⟩ := List.cons_subset.mp hpart
    have hstep : (e.forRequest s).step (draws 0) i = (e.step (draws 0) i).forRequest s := by
      refine step_forRequest _ (fun p hp => readPart_forRequest h hr hd ⟨i, hi, hp⟩) ?_
      rintro label name rfl
      rw [hr]
      exact (h.copied name ⟨label, hi⟩).symm
    obtain ⟨hr', hd'⟩ := request_document_step e (draws 0) i
    simp only [run, hstep]
    exact ih _ _ hpart (hr'.trans hr) (hd'.trans hd)

theorem prepare_forRequest (r s : Request) (bindings : List (String × Json)) :
    prepare s bindings = (prepare r bindings).forRequest s := by
  suffices h : ∀ e : Execution,
      bindings.foldl (fun e b => e.bind b.1 b.2) (e.forRequest s) =
        (bindings.foldl (fun e b => e.bind b.1 b.2) e).forRequest s from h (start r)
  induction bindings with
  | nil => exact fun _ => rfl
  | cons b bindings ih => exact fun e => ih (e.bind b.1 b.2)

/-- Requests that agree in what a script names have the same outcome, whatever else is in them. -/
theorem outcome_eq_of_agree {script : Script} {r s : Request} (h : script.Agree r s)
    (bindings : List (String × Json)) (draws : Draws) (chance : Nat) :
    (reached r bindings draws script).vars = (reached s bindings draws script).vars ∧
    (reached r bindings draws script).activeCase = (reached s bindings draws script).activeCase ∧
    (reached r bindings draws script).finish chance =
      (reached s bindings draws script).finish chance := by
  have hsame := sameButVars_prepare r bindings
  have he : reached s bindings draws script = (reached r bindings draws script).forRequest s := by
    unfold reached
    rw [prepare_forRequest r s]
    exact run_forRequest h draws hsame.request hsame.document
  rw [he]
  exact ⟨rfl, rfl, rfl⟩

/-- A body may be spelled in another way and hold more. -/
theorem outcome_eq_of_respelled_body :
    let script : Script := [.test (.request .path) .value .startsWith (.string "/o")
      (.switchCase "order"), .extract (.body "a") "A", .respond "order" (.copyHeader .contentType),
      .respond "order" (.body "\x7b\x7b.A\x7d\x7d")]
    let typed := (HeaderName.contentType, Text.bytes "text/json")
    let r : Request := ⟨"GET", "/o", [], [typed],
      Utf8.encode (Json.object [("a", .bool true)]).print⟩
    let s : Request := ⟨"POST", "/o", [("q", "1")], [(.host, [72]), typed],
      Utf8.encode (' ' :: (Json.object [("a", .bool true), ("b", .null)]).print)⟩
    let draws : Draws := fun _ => ⟨id, 0, .zero false⟩
    script.Agree r s ∧
      (reached r [] draws script).vars = (reached s [] draws script).vars ∧
      (reached r [] draws script).finish 0 = (reached s [] draws script).finish 0 := by
  intro script typed r s draws
  have hr : Json.ofBytes r.body = .ok (.object [("a", .bool true)]) := by
    rw [Json.ofBytes, Utf8.scan_encode]
    rfl
  have hs : Json.ofBytes s.body = .ok (.object [("a", .bool true), ("b", .null)]) := by
    rw [Json.ofBytes, Utf8.scan_encode]
    rfl
  have hreads : ∀ part, script.Reads part → part = .path ∨ part = .body "a" := by
    rintro part ⟨i, hi, hpart⟩
    simp only [script, List.mem_cons, List.not_mem_nil, or_false] at hi
    rcases hi with rfl | rfl | rfl | rfl <;> cases hpart
    · exact .inl rfl
    · exact .inr rfl
  have hcopies : ∀ name, script.Copies name → name = .contentType := by
    rintro name ⟨label, hi⟩
    simp only [script, List.mem_cons, List.not_mem_nil, or_false, reduceCtorEq, false_or,
      Instruction.respond.injEq, ResponseOp.copyHeader.injEq, and_false] at hi
    exact hi.2
  have hagree : script.Agree r s := by
    constructor
    · exact fun _ => rfl
    · intro name h
      rcases hreads _ h with h | h <;> cases h
    · intro name h
      rcases hreads _ h with h | h <;> cases h
    · intro path h
      rcases hreads _ h with h | h <;> cases h
      simp only [Request.document?, hr, hs]
      rfl
    · intro name h
      rw [hcopies name h]
      rfl
  obtain ⟨hvars, -, hfinish⟩ := outcome_eq_of_agree hagree [] draws 0
  exact ⟨hagree, hvars, hfinish⟩

end Execution

end MockHttp
