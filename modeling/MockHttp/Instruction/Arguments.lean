import MockHttp.Instruction.Basic
import MockHttp.Json.Spelled

/-! # Reading arguments

Arguments are loosely typed: a name may be any value, which stands for the text it is displayed
as, and a number may be given as a number or as text. Each reader looks at one position, and its
errors name that position.
-/

namespace MockHttp

abbrev Arguments := List Json

namespace Arguments

variable (args : Arguments) (i : Nat)

def value : Except DecodeError Json :=
  match args[i]? with
  | some v => .ok v
  | none => .error (.missingArgument i)

def name : Except DecodeError String := (value args i).map Json.display

def number : Except DecodeError Binary64 := do
  match (← value args i).spelledNumber? with
  | some x => return x
  | none => throw (.notANumber i)

/-- A number without its fraction, strictly between `-2 ^ 63` and `2 ^ 63`. -/
def integer : Except DecodeError Int := do
  let x ← number args i
  if 0x8000000000000000 * Binary64.one ≤ x.magnitude then throw (.outOfRange i)
  else return x.truncate

def unsigned : Except DecodeError Nat := do
  let n ← integer args i
  if n < 0 then throw (.outOfRange i) else return n.toNat

/-- An unsigned number from `low` to `high`. -/
def within (low high : Nat) : Except DecodeError Nat := do
  let n ← unsigned args i
  if low ≤ n ∧ n ≤ high then return n else throw (.outOfRange i)

def condition : Except DecodeError Condition := do
  match Condition.ofName? (← name args i) with
  | some c => return c
  | none => throw (.badCondition i)

def algorithm : Except DecodeError HashAlgorithm := do
  match HashAlgorithm.ofName? (← name args i) with
  | some a => return a
  | none => throw (.badAlgorithm i)

def headerName : Except DecodeError HeaderName := do
  match HeaderName.ofText? (← name args i) with
  | some h => return h
  | none => throw (.badHeaderName i)

end Arguments

end MockHttp
