import MockHttp.Execution.Chance
import MockHttp.Execution.State
import MockHttp.Http.Response
import MockHttp.Json.Spelled

/-! # Running a script

An instruction that does not apply leaves the state as it is. Set-up of the response is guarded
by the active case.
-/

namespace MockHttp

namespace VariableOp

/-- The characters from `start` up to `stop` or the end, unless `start` lies beyond it. -/
def slice (cs : List Char) (start stop : Nat) : Option (List Char) :=
  let stop := Nat.min stop cs.length
  if stop < start then none else some ((cs.take stop).drop start)

end VariableOp

namespace Execution

def manipulate (e : Execution) : VariableOp → Execution
  | .toText name =>
    match e.vars.get? name with
    | some v => e.bind name (.string v.display)
    | none => e
  | .toInteger name =>
    match (e.vars.get? name).bind Json.spelledNumber? with
    | some x => e.bind name (.int (Json.clampInt x.truncate))
    | none => e
  | .delete name => { e with vars := e.vars.erase name }
  | .substring source start stop target =>
    match (e.vars.get? source).bind fun v =>
        VariableOp.slice v.displayChars start stop with
    | some cs => e.bind target (.string (String.ofList cs))
    | none => e
  | .join target separator parts =>
    let texts := parts.map fun v => (e.resolve v).display
    e.bind target (.string ((e.resolve separator).display.intercalate texts))

def generate (e : Execution) (d : Draw) (g : Generator) : Execution :=
  match g.value? e.vars d with
  | some v => e.bind g.target v
  | none => e

def applyEffect (e : Execution) : Effect → Execution
  | .bind name v => e.bind name (e.resolve v)
  | .switchCase label => { e with activeCase := label }

def extract (e : Execution) (part : RequestPart) (target : String) : Execution :=
  match e.readPart part with
  | some .null => e
  | some v => e.bind target v
  | none => e

def passes (e : Execution) (source : Source) (measure : Measure) (c : Condition)
    (expected : Json) : Bool :=
  match (e.read source).bind measure.of? with
  | some actual => c.holds actual (e.resolve expected)
  | none => false

/-- Only legal codes and header values are set, and a header is copied only if it is present and
not empty. -/
def setUp (e : Execution) : ResponseOp → Pending
  | .status code =>
    if IsStatusCode code then { e.pending with status := some code } else e.pending
  | .body template => { e.pending with body := template }
  | .wait millis => { e.pending with delay := millis }
  | .randomWait min max => { e.pending with randomDelay := some (min, max) }
  | .header name value =>
    let bytes := Text.bytes (Template.render value e.vars)
    if IsHeaderValue bytes then
      { e.pending with headers := e.pending.headers.insert name bytes }
    else e.pending
  | .copyHeader name =>
    match e.request.headerBytes? name with
    | some [] => e.pending
    | some value => { e.pending with headers := e.pending.headers.insert name value }
    | none => e.pending

def step (d : Draw) (e : Execution) : Instruction → Execution
  | .extract part target => e.extract part target
  | .test source measure c expected effect =>
    if e.passes source measure c expected then e.applyEffect effect else e
  | .generate g => e.generate d g
  | .manipulate op => e.manipulate op
  | .respond label op => if label = e.activeCase then { e with pending := e.setUp op } else e
  | .invalid .. => e

end Execution

def Instruction.isRandom : Instruction → Bool
  | generate g => g.isRandom
  | _ => false

def Draws.after (draws : Draws) (i : Instruction) : Draws :=
  if i.isRandom then fun n => draws (n + 1) else draws

namespace Execution

def run (draws : Draws) (e : Execution) : Script → Execution
  | [] => e
  | i :: rest => (e.step (draws 0) i).run (draws.after i) rest

def trace (draws : Draws) (e : Execution) : Script → List Execution
  | [] => []
  | i :: rest =>
    let next := e.step (draws 0) i
    next :: next.trace (draws.after i) rest

end Execution

structure Rendered where
  delay : Nat
  status : Nat
  headers : Headers
  body : String
  vars : Variables

namespace Pending

/-- A random delay of nothing adds nothing; otherwise bounds in reverse order are one bound. -/
def totalDelay (p : Pending) (chance : Nat) : Nat :=
  match p.randomDelay with
  | some (min, max) =>
    if max = 0 then p.delay
    else
      let low := Nat.min min max
      p.delay + low + chance % (max - low + 1)
  | none => p.delay

end Pending

def defaultStatus : Nat := 200

namespace Execution

/-- The body is rendered last, with the variables as they are now. -/
def finish (e : Execution) (chance : Nat) : Rendered where
  delay := e.pending.totalDelay chance
  status := e.pending.status.getD defaultStatus
  headers := e.pending.headers
  body := Template.render e.pending.body e.vars
  vars := e.vars

end Execution

def Script.execute (script : Script) (r : Request) (chance : Chance) : Rendered :=
  ((Execution.start r).run chance.draws script).finish chance.delay

def Rendered.response (r : Rendered) : Response where
  status := r.status
  headers := r.headers
  body := Text.bytes r.body

def Script.respond (script : Script) (r : Request) (chance : Chance) : Response :=
  (script.execute r chance).response

end MockHttp
