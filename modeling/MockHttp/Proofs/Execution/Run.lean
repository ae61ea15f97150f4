import MockHttp.Execution.Step

/-! # Steps and runs of a script

Most instructions can only bind variables. A test may switch the case instead, and set-up of the
response changes what is pending. The request and the document in its body never change.
-/

namespace MockHttp

def Draws.afterAll (draws : Draws) (script : Script) : Draws := script.foldl Draws.after draws

/-- The first value of a header, if it is not empty. -/
def Request.copied? (r : Request) (name : HeaderName) : Option Bytes :=
  (r.headerBytes? name).filter (· ≠ [])

theorem Request.copied?_eq_some_iff {r : Request} {name : HeaderName} {value : Bytes} :
    r.copied? name = some value ↔ r.headerBytes? name = some value ∧ value ≠ [] := by
  simp [copied?, Option.filter_eq_some_iff]

theorem Request.copied?_eq_none_iff {r : Request} {name : HeaderName} :
    r.copied? name = none ↔ r.headerBytes? name = none ∨ r.headerBytes? name = some [] := by
  unfold copied?
  cases r.headerBytes? name <;> simp

namespace Execution

variable {e f : Execution}

structure SameButVars (e f : Execution) : Prop where
  request : f.request = e.request
  document : f.document = e.document
  activeCase : f.activeCase = e.activeCase
  pending : f.pending = e.pending

namespace SameButVars

theorem refl (e : Execution) : SameButVars e e := ⟨rfl, rfl, rfl, rfl⟩

theorem bind (e : Execution) (name : String) (v : Json) : SameButVars e (e.bind name v) :=
  ⟨rfl, rfl, rfl, rfl⟩

theorem extract (e : Execution) (part : RequestPart) (target : String) :
    SameButVars e (e.extract part target) := by
  unfold Execution.extract
  split
  · exact refl e
  · exact bind ..
  · exact refl e

theorem generate (e : Execution) (d : Draw) (g : Generator) : SameButVars e (e.generate d g) := by
  unfold Execution.generate
  split
  · exact bind ..
  · exact refl e

theorem manipulate (e : Execution) (op : VariableOp) : SameButVars e (e.manipulate op) := by
  cases op with
  | toText name =>
    simp only [Execution.manipulate]
    split
    · exact bind ..
    · exact refl e
  | toInteger name =>
    simp only [Execution.manipulate]
    split
    · exact bind ..
    · exact refl e
  | delete name => exact ⟨rfl, rfl, rfl, rfl⟩
  | substring source start stop target =>
    simp only [Execution.manipulate]
    split
    · exact bind ..
    · exact refl e
  | join target separator parts => exact bind ..

end SameButVars

/-! ## One step -/

theorem request_document_step (e : Execution) (d : Draw) (i : Instruction) :
    (e.step d i).request = e.request ∧ (e.step d i).document = e.document := by
  have of_same : ∀ {f}, SameButVars e f → f.request = e.request ∧ f.document = e.document :=
    fun h => ⟨h.request, h.document⟩
  cases i with
  | extract part target => exact of_same (.extract e part target)
  | test source measure c expected effect =>
    simp only [step]
    split
    · cases effect <;> exact ⟨rfl, rfl⟩
    · exact ⟨rfl, rfl⟩
  | generate g => exact of_same (.generate e d g)
  | manipulate op => exact of_same (.manipulate e op)
  | respond label op =>
    simp only [step]
    split <;> exact ⟨rfl, rfl⟩
  | invalid => exact ⟨rfl, rfl⟩

theorem activeCase_step (e : Execution) (d : Draw) (i : Instruction) :
    (e.step d i).activeCase =
      match i with
      | .test source measure c expected (.switchCase label) =>
        if e.passes source measure c expected then label else e.activeCase
      | _ => e.activeCase := by
  cases i with
  | extract part target => exact (SameButVars.extract e part target).activeCase
  | test source measure c expected effect =>
    cases effect <;> simp only [step] <;> split <;> rfl
  | generate g => exact (SameButVars.generate e d g).activeCase
  | manipulate op => exact (SameButVars.manipulate e op).activeCase
  | respond label op =>
    simp only [step]
    split <;> rfl
  | invalid => rfl

theorem pending_step (e : Execution) (d : Draw) (i : Instruction) :
    (e.step d i).pending =
      match i with
      | .respond label op => if label = e.activeCase then e.setUp op else e.pending
      | _ => e.pending := by
  cases i with
  | extract part target => exact (SameButVars.extract e part target).pending
  | test source measure c expected effect =>
    simp only [step]
    split
    · cases effect <;> rfl
    · rfl
  | generate g => exact (SameButVars.generate e d g).pending
  | manipulate op => exact (SameButVars.manipulate e op).pending
  | respond label op =>
    simp only [step]
    split <;> rfl
  | invalid => rfl

/-! ## Set-up of the response -/

theorem status_setUp (e : Execution) (op : ResponseOp) :
    (e.setUp op).status = match op with
      | .status code => if IsStatusCode code then some code else e.pending.status
      | _ => e.pending.status := by
  cases op <;> simp only [setUp] <;> split <;> rfl

theorem body_setUp (e : Execution) (op : ResponseOp) :
    (e.setUp op).body = match op with
      | .body template => template
      | _ => e.pending.body := by
  cases op <;> simp only [setUp] <;> split <;> rfl

theorem delay_setUp (e : Execution) (op : ResponseOp) :
    (e.setUp op).delay = match op with
      | .wait millis => millis
      | _ => e.pending.delay := by
  cases op <;> simp only [setUp] <;> split <;> rfl

theorem randomDelay_setUp (e : Execution) (op : ResponseOp) :
    (e.setUp op).randomDelay = match op with
      | .randomWait min max => some (min, max)
      | _ => e.pending.randomDelay := by
  cases op <;> simp only [setUp] <;> split <;> rfl

theorem setUp_copyHeader (e : Execution) (name : HeaderName) :
    e.setUp (.copyHeader name) =
      match e.request.copied? name with
      | some bytes => { e.pending with headers := e.pending.headers.insert name bytes }
      | none => e.pending := by
  simp only [setUp, Request.copied?]
  cases e.request.headerBytes? name with
  | none => rfl
  | some value => cases value <;> rfl

def headerWrite? (e : Execution) : ResponseOp → Option (HeaderName × Bytes)
  | .header name value =>
    let bytes := Text.bytes (Template.render value e.vars)
    if IsHeaderValue bytes then some (name, bytes) else none
  | .copyHeader name => (e.request.copied? name).map fun bytes => (name, bytes)
  | _ => none

theorem headers_setUp (e : Execution) (op : ResponseOp) :
    (e.setUp op).headers = match e.headerWrite? op with
      | some (name, bytes) => e.pending.headers.insert name bytes
      | none => e.pending.headers := by
  cases op with
  | status code =>
    simp only [setUp, headerWrite?]
    split <;> rfl
  | header name value =>
    simp only [setUp, headerWrite?]
    split <;> rfl
  | copyHeader name =>
    simp only [setUp_copyHeader, headerWrite?]
    cases e.request.copied? name <;> rfl
  | _ => rfl

/-! ## Runs -/

theorem run_append (draws : Draws) (e : Execution) (s t : Script) :
    e.run draws (s ++ t) = (e.run draws s).run (draws.afterAll s) t := by
  induction s generalizing draws e with
  | nil => rfl
  | cons i s ih => exact ih ..

theorem run_concat (draws : Draws) (e : Execution) (s : Script) (i : Instruction) :
    e.run draws (s ++ [i]) = (e.run draws s).step (draws.afterAll s 0) i :=
  run_append draws e s [i]

theorem request_document_run (draws : Draws) (e : Execution) (s : Script) :
    (e.run draws s).request = e.request ∧ (e.run draws s).document = e.document := by
  induction s generalizing draws e with
  | nil => exact ⟨rfl, rfl⟩
  | cons i s ih =>
    obtain ⟨hr, hd⟩ := request_document_step e (draws 0) i
    obtain ⟨hr', hd'⟩ := ih (draws.after i) (e.step (draws 0) i)
    exact ⟨hr'.trans hr, hd'.trans hd⟩

def prepare (r : Request) (bindings : List (String × Json)) : Execution :=
  bindings.foldl (fun e b => e.bind b.1 b.2) (start r)

theorem sameButVars_prepare (r : Request) (bindings : List (String × Json)) :
    SameButVars (start r) (prepare r bindings) := by
  suffices h : ∀ e, SameButVars (start r) e →
      SameButVars (start r) (bindings.foldl (fun e b => e.bind b.1 b.2) e) from h _ (.refl _)
  induction bindings with
  | nil => exact fun e h => h
  | cons b bindings ih => exact fun e h => ih _ ⟨h.request, h.document, h.activeCase, h.pending⟩

def reached (r : Request) (bindings : List (String × Json)) (draws : Draws) (script : Script) :
    Execution :=
  (prepare r bindings).run draws script

theorem request_reached (r : Request) (bindings : List (String × Json)) (draws : Draws)
    (script : Script) : (reached r bindings draws script).request = r :=
  (request_document_run ..).1.trans (sameButVars_prepare r bindings).request

end Execution

end MockHttp
