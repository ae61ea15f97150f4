import MockHttp.Instruction.Basic

/-! # The names of groups and functions

Each function belongs to one group. A group has one name that is written and perhaps another one
that is understood.
-/

namespace MockHttp

inductive Group where
  | conditions
  | generators
  | manipulations
  | responses
deriving DecidableEq, Repr

namespace Group

def name : Group → String
  | conditions => "PrepareData"
  | generators => "Generator"
  | manipulations => "DynamicVariable"
  | responses => "SetupResponse"

def alias? : Group → Option String
  | conditions => some "Condition"
  | generators => none
  | manipulations => some "VariableOp"
  | responses => some "ResponseSetup"

def all : List Group := [conditions, generators, manipulations, responses]

def names (g : Group) : List String := g.name :: g.alias?.toList

def ofName? (s : String) : Option Group := all.find? (·.names.contains s)

theorem ofName?_eq_some_iff {s : String} {g : Group} : ofName? s = some g ↔ s ∈ g.names := by
  constructor
  · intro h
    simpa using List.find?_some h
  · intro h
    cases g <;> simp only [names, name, alias?, Option.toList, List.mem_cons, List.not_mem_nil,
      or_false] at h <;> rcases h with rfl | rfl <;> decide

end Group

inductive Tested where
  | header
  | body
  | path
  | query
  | variable
  | arrayLength
  | objectLength
  | kind
deriving DecidableEq, Repr

def Tested.name : Tested → String
  | header => "IfRequestHeader"
  | body => "IfRequestJsonBody"
  | path => "IfRequestPath"
  | query => "IfRequestQuery"
  | .variable => "IfDynamicVariable"
  | arrayLength => "IfRequestJsonArrayLength"
  | objectLength => "IfRequestJsonObjectLength"
  | kind => "IfRequestJsonType"

inductive Extracted where
  | header
  | body
  | path
  | query
deriving DecidableEq, Repr

def Extracted.name : Extracted → String
  | header => "ExtractRequestHeader"
  | body => "ExtractRequestJsonBody"
  | path => "ExtractRequestPath"
  | query => "ExtractRequestQuery"

inductive ConditionWord where
  | test (tested : Tested) (switchesCase : Bool)
  | extract (extracted : Extracted)
deriving DecidableEq, Repr

namespace ConditionWord

def name : ConditionWord → String
  | test t false => t.name
  | test t true => t.name ++ "SetCase"
  | extract e => e.name

def all : List ConditionWord :=
  [.header, .body, .path, .query, .variable, .arrayLength, .objectLength, .kind].flatMap
    (fun t => [test t false, test t true]) ++
  [extract .header, extract .body, extract .path, extract .query]

def ofName? (s : String) : Option ConditionWord := all.find? (·.name == s)

theorem ofName?_name (w : ConditionWord) : ofName? w.name = some w := by
  rcases w with ⟨t, b⟩ | e
  · cases t <;> cases b <;> decide
  · cases e <;> decide

end ConditionWord

inductive GeneratorWord where
  | randomString
  | randomInt
  | randomDigits
  | randomDecimal
  | hash
deriving DecidableEq, Repr

namespace GeneratorWord

def name : GeneratorWord → String
  | randomString => "GenerateRandomString"
  | randomInt => "GenerateRandomInt"
  | randomDigits => "GenerateRandomIntFixLength"
  | randomDecimal => "GenerateRandomDecimal"
  | hash => "HashedString"

def all : List GeneratorWord := [randomString, randomInt, randomDigits, randomDecimal, hash]

def ofName? (s : String) : Option GeneratorWord := all.find? (·.name == s)

theorem ofName?_name (w : GeneratorWord) : ofName? w.name = some w := by cases w <;> decide

end GeneratorWord

inductive VariableWord where
  | toText
  | toInteger
  | delete
  | substring
  | join
deriving DecidableEq, Repr

namespace VariableWord

def name : VariableWord → String
  | toText => "ConvertToString"
  | toInteger => "ConvertToInt"
  | delete => "Delete"
  | substring => "DynamicVarSubstring"
  | join => "DynamicVarJoin"

def all : List VariableWord := [toText, toInteger, delete, substring, join]

def ofName? (s : String) : Option VariableWord := all.find? (·.name == s)

theorem ofName?_name (w : VariableWord) : ofName? w.name = some w := by cases w <;> decide

end VariableWord

inductive ResponseWord where
  | body
  | status
  | wait
  | randomWait
  | header
  | copyHeader
deriving DecidableEq, Repr

namespace ResponseWord

def name : ResponseWord → String
  | body => "SetJsonBody"
  | status => "SetStatusCode"
  | wait => "SetWait"
  | randomWait => "SetRandomWait"
  | header => "SetHeader"
  | copyHeader => "CopyHeaderFromRequest"

def all : List ResponseWord := [body, status, wait, randomWait, header, copyHeader]

def ofName? (s : String) : Option ResponseWord := all.find? (·.name == s)

theorem ofName?_name (w : ResponseWord) : ofName? w.name = some w := by cases w <;> decide

end ResponseWord

end MockHttp
