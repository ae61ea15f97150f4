import MockHttp.Http.Request
import MockHttp.Instruction.Basic
import MockHttp.Json.Path
import MockHttp.Json.Reader
import MockHttp.Template

/-! # The state of a script

Each request has its own variables, active case and pending response. The request and the
document in its body do not change.
-/

namespace MockHttp

/-- What the script has set up so far. The body is a template until the script is done. -/
structure Pending where
  status : Option Nat := none
  body : String := ""
  headers : Headers := ∅
  delay : Nat := 0
  randomDelay : Option (Nat × Nat) := none

structure Execution where
  request : Request
  document : Option Json
  vars : Variables := ∅
  activeCase : String := ""
  pending : Pending := {}

/-- The document in a body; none if the body is empty or not JSON. -/
def Request.document? (r : Request) : Option Json :=
  if r.body = [] then none else (Json.ofBytes r.body).toOption

namespace Execution

def start (r : Request) : Execution := { request := r, document := r.document? }

def bind (e : Execution) (name : String) (v : Json) : Execution :=
  { e with vars := e.vars.insert name v }

theorem bind_bind (e : Execution) (name : String) (v w : Json) :
    (e.bind name v).bind name w = e.bind name w := by
  rw [bind, bind, bind, Dict.insert_insert]

theorem get?_bind (e : Execution) (name : String) (v : Json) :
    (e.bind name v).vars.get? name = some v := by
  rw [bind, Dict.get?_insert, if_pos rfl]

/-- A text is rendered with the variables; other values stay as they are. -/
def resolve (e : Execution) : Json → Json
  | .string s => .string (Template.render s e.vars)
  | v => v

/-- A header or parameter that is absent has the empty text; a path that leads nowhere has no
value. -/
def readPart (e : Execution) : RequestPart → Option Json
  | .header name => some (.string (e.request.header name))
  | .path => some (.string e.request.path)
  | .query name => some (.string (e.request.parameter name))
  | .body path => e.document.bind fun v => (v.resolve path).toOption

def read (e : Execution) : Source → Option Json
  | .request part => e.readPart part
  | .variable name => e.vars.get? name

end Execution

/-- What a test compares; sizes are those of arrays and objects only. -/
def Measure.of? : Measure → Json → Option Json
  | value, v => some v
  | arrayLength, v => v.items?.map fun items => .nat items.length
  | objectLength, v => v.members?.map fun members => .nat members.length
  | kind, v => some (.string v.kind.name)

end MockHttp
