import MockHttp.Execution.Sampler
import MockHttp.Execution.Step

/-! # Strict execution

A step replaces what is not defined by what is harmless: it binds nothing if there is no number to
draw, sets no code that is illegal, and draws from any finite range. On machine numbers such an
operation fails. Strict execution fails where it does, and is like a step everywhere else. Which
range is drawn from and which part of a text is cut out is guarded as in a step, and only what
passes the guard is tried.
-/

namespace MockHttp

inductive Fault where
  | underflow
  | overflow
  | emptyRange
  | outOfBounds
  | illegalStatus
  /-- The sampler does not take the bounds. -/
  | rangeOverflow
deriving DecidableEq, Repr

def IsInt64 (n : Int) : Prop := -0x8000000000000000 ≤ n ∧ n ≤ 0x7FFFFFFFFFFFFFFF

instance (n : Int) : Decidable (IsInt64 n) := inferInstanceAs (Decidable (_ ∧ _))

namespace Strict

/-! ## Operations -/

def int64 (n : Int) : Except Fault Int := if IsInt64 n then .ok n else .error .overflow

def predecessor : Nat → Except Fault Nat
  | 0 => .error .underflow
  | n + 1 => .ok n

def powerOfTen (n : Nat) : Except Fault Int := int64 (Nat.pow 10 n : Nat)

def draw (offset : Nat) (low high : Int) : Except Fault Int :=
  if high < low then .error .emptyRange
  else .ok (low + (offset % (high - low + 1).toNat : Nat))

def slice (cs : List Char) (start stop : Nat) : Except Fault (List Char) :=
  if start ≤ stop ∧ stop ≤ cs.length then .ok ((cs.take stop).drop start)
  else .error .outOfBounds

def status (code : Nat) : Except Fault Nat :=
  if IsStatusCode code then .ok code else .error .illegalStatus

/-- A sum of milliseconds; its whole seconds have 64 bits. -/
def addMillis (a b : Nat) : Except Fault Nat :=
  if (a + b) / 1000 ≤ 0xFFFFFFFFFFFFFFFF then .ok (a + b) else .error .overflow

def sample (d : Draw) (low high : Binary64) : Except Fault Binary64 :=
  if Sampler.Accepts low high then .ok ((Binary64.Extended.finite d.sample).clamp low high)
  else .error .rangeOverflow

/-- The sampler is asked where the bounds differ and pass the guard. -/
def decimal (d : Draw) (low high : Binary64) (decimals : Nat) :
    Except Fault (Option Binary64) := do
  if high < low ∨ (high.sub low).finite?.isNone then return none
  let raw ← if low.sameValue high then .ok low else sample d low high
  let factor := Binary64.powerOfTen decimals
  return some (((raw.mul factor).round.divBy factor).clamp low high)

/-! ## Instructions -/

def value? (vars : Variables) (d : Draw) : Generator → Except Fault (Option Json)
  | .randomInt min max _ =>
    if max < min then return none else return some (.int (← draw d.offset min max))
  | .randomDigits digits _ => do
    let low ← powerOfTen (← predecessor digits)
    let high ← int64 ((← powerOfTen digits) - 1)
    return some (.int (← draw d.offset low high))
  | .randomDecimal min max decimals _ => do return (← decimal d min max decimals).map Json.float
  | g => return g.value? vars d

def generate (e : Execution) (d : Draw) (g : Generator) : Except Fault Execution := do
  match ← value? e.vars d g with
  | some v => return e.bind g.target v
  | none => return e

def manipulate (e : Execution) : VariableOp → Except Fault Execution
  | .substring source start stop target =>
    match e.vars.get? source with
    | some v => do
      let cs := v.displayChars
      let stop := Nat.min stop cs.length
      if stop < start then return e
      else return e.bind target (.string (String.ofList (← slice cs start stop)))
    | none => return e
  | op => return e.manipulate op

def setUp (e : Execution) : ResponseOp → Except Fault Pending
  | .status code => do return { e.pending with status := some (← status code) }
  | op => return e.setUp op

def step (d : Draw) (e : Execution) : Instruction → Except Fault Execution
  | .generate g => generate e d g
  | .manipulate op => manipulate e op
  | .respond label op => do
    if label = e.activeCase then return { e with pending := ← setUp e op } else return e
  | i => return e.step d i

def run (draws : Draws) (e : Execution) : Script → Except Fault Execution
  | [] => return e
  | i :: rest => do run (draws.after i) (← step (draws 0) e i) rest

/-! ## Responses -/

def totalDelay (p : Pending) (chance : Nat) : Except Fault Nat :=
  match p.randomDelay with
  | some (min, max) =>
    if max = 0 then return p.delay
    else do addMillis p.delay (← draw chance (Nat.min min max) max).toNat
  | none => return p.delay

def finish (e : Execution) (chance : Nat) : Except Fault Rendered := do
  return { e.finish chance with delay := ← totalDelay e.pending chance }

end Strict

end MockHttp
