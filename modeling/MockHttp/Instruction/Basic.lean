import MockHttp.Condition
import MockHttp.Digest
import MockHttp.Http.Header

/-! # Instructions

A script is a list of instructions. They read the request, bind variables, switch the active
case, and set up the response. An entry that cannot be decoded becomes an instruction that does
nothing and remembers why.
-/

namespace MockHttp

inductive RequestPart where
  | header (name : String)
  | body (path : String)
  | path
  | query (name : String)
deriving DecidableEq, Repr

inductive Source where
  | request (part : RequestPart)
  | variable (name : String)
deriving DecidableEq, Repr

/-- What is compared: the value itself, its size, or the name of its kind. -/
inductive Measure where
  | value
  | arrayLength
  | objectLength
  | kind
deriving DecidableEq, Repr

inductive Effect where
  | bind (name : String) (value : Json)
  | switchCase (label : String)

inductive Generator where
  | randomString (length : Nat) (target : String)
  | randomInt (min max : Int) (target : String)
  | randomDigits (digits : Nat) (target : String)
  | randomDecimal (min max : Binary64) (decimals : Nat) (target : String)
  | hash (source : String) (algorithm : HashAlgorithm) (target : String)
deriving DecidableEq

inductive VariableOp where
  | toText (name : String)
  | toInteger (name : String)
  | delete (name : String)
  | substring (source : String) (start stop : Nat) (target : String)
  | join (target : String) (separator : Json) (parts : List Json)

inductive ResponseOp where
  | status (code : Nat)
  | body (template : String)
  | wait (millis : Nat)
  | randomWait (min max : Nat)
  | header (name : HeaderName) (value : String)
  | copyHeader (name : HeaderName)
deriving DecidableEq

/-- Why an entry is not an instruction. Arguments are counted from zero. -/
inductive DecodeError where
  | unknownGroup
  | unknownFunction
  | missingArgument (index : Nat)
  | notANumber (index : Nat)
  | outOfRange (index : Nat)
  | badCondition (index : Nat)
  | badAlgorithm (index : Nat)
  | badHeaderName (index : Nat)
deriving DecidableEq, Repr

def DecodeError.message : DecodeError → String
  | unknownGroup => "Unknown group"
  | unknownFunction => "Unknown function"
  | missingArgument i => "Missing argument " ++ Digits.text i
  | notANumber i => "Argument " ++ Digits.text i ++ " is not a number"
  | outOfRange i => "Argument " ++ Digits.text i ++ " is out of range"
  | badCondition i => "Argument " ++ Digits.text i ++ " is not a valid condition"
  | badAlgorithm i => "Argument " ++ Digits.text i ++ " is not a supported hash algorithm"
  | badHeaderName i => "Argument " ++ Digits.text i ++ " is not a valid header name"

inductive Instruction where
  | extract (part : RequestPart) (target : String)
  | test (source : Source) (measure : Measure) (condition : Condition) (expected : Json)
      (effect : Effect)
  | generate (generator : Generator)
  | manipulate (op : VariableOp)
  | respond (label : String) (op : ResponseOp)
  | invalid (group function : String) (reason : DecodeError)

namespace Instruction

def isValid : Instruction → Bool
  | invalid .. => false
  | _ => true

end Instruction

abbrev Script := List Instruction

/-- One instruction as it is written: a group, a function of the group, and its arguments. -/
structure Entry where
  group : String
  function : String
  args : List Json := []

end MockHttp
