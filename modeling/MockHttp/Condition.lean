import MockHttp.Json.Display
import MockHttp.Text.Search

/-! # Conditions on values

Ten comparisons of an actual with an expected value. Numbers are compared as floating-point
numbers. Texts are compared as they are displayed, unless one side is null. A comparison that
does not apply to its operands is false.
-/

namespace MockHttp

inductive Condition where
  | equal | notEqual
  | contains | notContains | startsWith | endsWith
  | greaterThan | lessThan | greaterThanOrEqual | lessThanOrEqual
deriving DecidableEq, Repr

namespace Condition

def name : Condition → String
  | equal => "Equal"
  | notEqual => "NotEqual"
  | contains => "Contains"
  | notContains => "NotContains"
  | startsWith => "StartsWith"
  | endsWith => "EndsWith"
  | greaterThan => "GreaterThan"
  | lessThan => "LessThan"
  | greaterThanOrEqual => "GreaterThanOrEqual"
  | lessThanOrEqual => "LessThanOrEqual"

def all : List Condition :=
  [equal, notEqual, contains, notContains, startsWith, endsWith, greaterThan, lessThan,
    greaterThanOrEqual, lessThanOrEqual]

def ofName? (s : String) : Option Condition := all.find? (·.name == s)

theorem ofName?_name (c : Condition) : ofName? c.name = some c := by cases c <;> decide

structure Unknown where
  name : String

def Unknown.message (u : Unknown) : String := "Unknown condition `" ++ u.name ++ "`"

def valuesEqual (a b : Json) : Bool :=
  if a.isNull || b.isNull then a.isNull && b.isNull
  else match a.number?, b.number? with
    | some m, some n => m.toBinary64.sameValue n.toBinary64
    | _, _ => a.same b

def compareNumbers (holds : Binary64 → Binary64 → Bool) (a b : Json) : Bool :=
  match a.number?, b.number? with
  | some m, some n => holds m.toBinary64 n.toBinary64
  | _, _ => false

def compareTexts (holds : List Char → List Char → Bool) (a b : Json) : Bool :=
  if a.isNull || b.isNull then false else holds a.displayChars b.displayChars

def holds (c : Condition) (a b : Json) : Bool :=
  match c with
  | equal => valuesEqual a b
  | notEqual => !valuesEqual a b
  | greaterThan => compareNumbers (fun x y => y < x) a b
  | lessThan => compareNumbers (fun x y => x < y) a b
  | greaterThanOrEqual => compareNumbers (fun x y => y ≤ x) a b
  | lessThanOrEqual => compareNumbers (fun x y => x ≤ y) a b
  | contains => compareTexts Text.contains a b
  | notContains => compareTexts (fun s t => !Text.contains s t) a b
  | startsWith => compareTexts (fun s t => t.isPrefixOf s) a b
  | endsWith => compareTexts (fun s t => t.isSuffixOf s) a b

end Condition

end MockHttp
