import MockHttp.Instruction.Arguments
import MockHttp.Instruction.Vocabulary
import MockHttp.Template

/-! # Writing entries

A draft is an instruction as the author of a script states it. Its operands are literal values
or references to variables, and `Draft.entry` writes it down in the vocabulary.
-/

namespace MockHttp

inductive Operand where
  | text (s : String)
  | int (n : Int)
  | float (x : Binary64.Extended)
  | bool (b : Bool)
  | null
  | variable (name : String)
deriving DecidableEq, Repr

/-- What is not a finite number is written as null, and a reference as a template. -/
def Operand.toJson : Operand → Json
  | text s => .string s
  | int n => .int n
  | float x =>
    match x.finite? with
    | some y => .float y
    | none => .null
  | bool b => .bool b
  | null => .null
  | .variable name => .string (Template.referenceTo name)

inductive Outcome where
  | bind (name : String) (value : Operand)
  | switchCase (label : String)
deriving DecidableEq, Repr

def Outcome.switchesCase : Outcome → Bool
  | bind .. => false
  | switchCase _ => true

inductive Draft where
  | test (source : Source) (c : Condition) (expected : Operand) (outcome : Outcome)
  | arrayLength (path : String) (c : Condition) (length : Nat) (outcome : Outcome)
  | objectLength (path : String) (c : Condition) (length : Nat) (outcome : Outcome)
  | kind (path : String) (kind : Json.Kind) (outcome : Outcome)
  | extract (part : RequestPart) (target : String)
  | randomString (length : Nat) (target : String)
  | randomInt (min max : Int) (target : String)
  | randomDigits (digits : Nat) (target : String)
  | randomDecimal (min max : Binary64.Extended) (decimals : Nat) (target : String)
  | hash (source : String) (algorithm : HashAlgorithm) (target : String)
  | toText (name : String)
  | toInteger (name : String)
  | delete (name : String)
  | substring (source : String) (start stop : Nat) (target : String)
  | join (target separator : String) (parts : List Operand)
  | body (label template : String)
  | status (label : String) (code : Nat)
  | wait (label : String) (millis : Nat)
  | randomWait (label : String) (min max : Nat)
  | header (label name value : String)
  | copyHeader (label name : String)
deriving DecidableEq, Repr

namespace Draft

def partWord : RequestPart → Extracted × Tested
  | .header _ => (.header, .header)
  | .body _ => (.body, .body)
  | .path => (.path, .path)
  | .query _ => (.query, .query)

def partArgs : RequestPart → Arguments
  | .header n => [.string n]
  | .body p => [.string p]
  | .path => []
  | .query n => [.string n]

def sourceWord : Source → Tested
  | .request p => (partWord p).2
  | .variable _ => .variable

def sourceArgs : Source → Arguments
  | .request p => partArgs p
  | .variable n => [.string n]

def outcomeArgs : Outcome → Arguments
  | .bind n v => [.string n, v.toJson]
  | .switchCase label => [.string label]

def testEntry (tested : Tested) (args : Arguments) (outcome : Outcome) : Entry where
  group := Group.conditions.name
  function := (ConditionWord.test tested outcome.switchesCase).name
  args := args ++ outcomeArgs outcome

def generatorEntry (w : GeneratorWord) (args : Arguments) : Entry :=
  ⟨Group.generators.name, w.name, args⟩

def variableEntry (w : VariableWord) (args : Arguments) : Entry :=
  ⟨Group.manipulations.name, w.name, args⟩

def responseEntry (w : ResponseWord) (label : String) (args : Arguments) : Entry :=
  ⟨Group.responses.name, w.name, .string label :: args⟩

def entry : Draft → Entry
  | test source c expected outcome =>
    testEntry (sourceWord source)
      (sourceArgs source ++ [.string c.name, expected.toJson]) outcome
  | arrayLength path c length outcome =>
    testEntry .arrayLength [.string path, .string c.name, .nat length] outcome
  | objectLength path c length outcome =>
    testEntry .objectLength [.string path, .string c.name, .nat length] outcome
  | kind path k outcome => testEntry .kind [.string path, .string k.name] outcome
  | extract part target =>
    ⟨Group.conditions.name, (ConditionWord.extract (partWord part).1).name,
      partArgs part ++ [.string target]⟩
  | randomString length target => generatorEntry .randomString [.nat length, .string target]
  | randomInt min max target => generatorEntry .randomInt [.int min, .int max, .string target]
  | randomDigits digits target => generatorEntry .randomDigits [.nat digits, .string target]
  | randomDecimal min max decimals target =>
    generatorEntry .randomDecimal
      [(Operand.float min).toJson, (Operand.float max).toJson, .nat decimals, .string target]
  | hash source algorithm target =>
    generatorEntry .hash [.string source, .string algorithm.name, .string target]
  | toText name => variableEntry .toText [.string name]
  | toInteger name => variableEntry .toInteger [.string name]
  | delete name => variableEntry .delete [.string name]
  | substring source start stop target =>
    variableEntry .substring [.string source, .nat start, .nat stop, .string target]
  | join target separator parts =>
    variableEntry .join (.string target :: .string separator :: parts.map Operand.toJson)
  | body label template => responseEntry .body label [.string template]
  | status label code => responseEntry .status label [.nat code]
  | wait label millis => responseEntry .wait label [.nat millis]
  | randomWait label min max => responseEntry .randomWait label [.nat min, .nat max]
  | header label name value => responseEntry .header label [.string name, .string value]
  | copyHeader label name => responseEntry .copyHeader label [.string name]

end Draft

end MockHttp
