import MockHttp.Instruction.Arguments
import MockHttp.Instruction.Vocabulary
import MockHttp.Numeric.Arithmetic

/-! # Decoding entries

The group of an entry selects the words that its function may be, and the word selects how its
arguments are read. Arguments are read in order and the first one that does not fit is reported.
Arguments that are not asked for are ignored.
-/

namespace MockHttp

def maxRandomLength : Nat := 0x100000

def maxDigits : Nat := 18

/-- More decimals than this are cut down to it. -/
def maxDecimals : Nat := 15

namespace Instruction

open Arguments

/-- The part of the request, and the position behind its argument. The path takes none. -/
def decodePart (e : Extracted) (args : Arguments) : Except DecodeError (RequestPart × Nat) :=
  match e with
  | .header => (name args 0).map fun n => (.header n, 1)
  | .body => (name args 0).map fun p => (.body p, 1)
  | .path => .ok (.path, 0)
  | .query => (name args 0).map fun n => (.query n, 1)

def decodeTested (t : Tested) (args : Arguments) :
    Except DecodeError (Source × Nat × Measure) :=
  let part (e : Extracted) (m : Measure) :=
    (decodePart e args).map fun (p, next) => (Source.request p, next, m)
  match t with
  | .header => part .header .value
  | .body => part .body .value
  | .path => part .path .value
  | .query => part .query .value
  | .variable => (name args 0).map fun n => (.variable n, 1, .value)
  | .arrayLength => part .body .arrayLength
  | .objectLength => part .body .objectLength
  | .kind => part .body .kind

/-- A kind is always compared for equality and has no argument that says so. -/
def decodeComparison (m : Measure) (args : Arguments) (i : Nat) :
    Except DecodeError (Condition × Nat) :=
  match m with
  | .kind => .ok (.equal, i)
  | _ => (condition args i).map fun c => (c, i + 1)

def decodeEffect (switchesCase : Bool) (args : Arguments) (i : Nat) :
    Except DecodeError Effect := do
  if switchesCase then return .switchCase (← name args i)
  else return .bind (← name args i) (← value args (i + 1))

def decodeCondition (w : ConditionWord) (args : Arguments) : Except DecodeError Instruction := do
  match w with
  | .extract e =>
    let (part, next) ← decodePart e args
    return .extract part (← name args next)
  | .test t switchesCase =>
    let (source, next, measure) ← decodeTested t args
    let (c, next) ← decodeComparison measure args next
    let expected ← value args next
    return .test source measure c expected (← decodeEffect switchesCase args (next + 1))

def decodeGenerator (w : GeneratorWord) (args : Arguments) : Except DecodeError Generator := do
  match w with
  | .randomString =>
    let length ← within args 0 0 maxRandomLength
    return .randomString length (← name args 1)
  | .randomInt =>
    let min ← integer args 0
    let max ← integer args 1
    return .randomInt min max (← name args 2)
  | .randomDigits =>
    let digits ← within args 0 1 maxDigits
    return .randomDigits digits (← name args 1)
  | .randomDecimal =>
    let min ← number args 0
    let max ← number args 1
    if (max.sub min).finite?.isNone then throw (.outOfRange 1)
    let decimals ← unsigned args 2
    return .randomDecimal min max (Nat.min decimals maxDecimals) (← name args 3)
  | .hash =>
    let source ← name args 0
    let algorithm ← algorithm args 1
    return .hash source algorithm (← name args 2)

def decodeVariable (w : VariableWord) (args : Arguments) : Except DecodeError VariableOp := do
  match w with
  | .toText => return .toText (← name args 0)
  | .toInteger => return .toInteger (← name args 0)
  | .delete => return .delete (← name args 0)
  | .substring =>
    let source ← name args 0
    let start ← unsigned args 1
    let stop ← unsigned args 2
    return .substring source start stop (← name args 3)
  | .join =>
    let target ← name args 0
    let separator ← value args 1
    return .join target separator (args.drop 2)

/-- The first argument is the label of the case. -/
def decodeResponse (w : ResponseWord) (args : Arguments) : Except DecodeError ResponseOp := do
  match w with
  | .status => return .status (← within args 1 100 999)
  | .body => return .body (← name args 1)
  | .wait => return .wait (← unsigned args 1)
  | .randomWait =>
    let min ← unsigned args 1
    return .randomWait min (← unsigned args 2)
  | .header =>
    let header ← headerName args 1
    return .header header (← name args 2)
  | .copyHeader => return .copyHeader (← headerName args 1)

def wordOf {ω : Type} (word : Option ω) : Except DecodeError ω :=
  match word with
  | some w => .ok w
  | none => .error .unknownFunction

/-- In the group of responses the label is read before the function is looked up. -/
def decode? (e : Entry) : Except DecodeError Instruction := do
  match Group.ofName? e.group with
  | none => throw .unknownGroup
  | some .conditions => decodeCondition (← wordOf (ConditionWord.ofName? e.function)) e.args
  | some .generators =>
    return .generate (← decodeGenerator (← wordOf (GeneratorWord.ofName? e.function)) e.args)
  | some .manipulations =>
    return .manipulate (← decodeVariable (← wordOf (VariableWord.ofName? e.function)) e.args)
  | some .responses =>
    let label ← name e.args 0
    return .respond label (← decodeResponse (← wordOf (ResponseWord.ofName? e.function)) e.args)

/-- Entries that cannot be decoded become invalid instructions. -/
def decode (e : Entry) : Instruction :=
  match decode? e with
  | .ok i => i
  | .error reason => .invalid e.group e.function reason

end Instruction

def Script.decode (entries : List Entry) : Script := entries.map Instruction.decode

end MockHttp
