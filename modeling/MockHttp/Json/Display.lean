import MockHttp.Json.Printer

/-! # Values as plain text

A string stands for itself and null for nothing. Whole floating-point numbers below `10 ^ 15` are
shown like integers. Lists and objects are shown as compact JSON.
-/

namespace MockHttp

/-- Whole numbers of at most 15 digits are shown like integers. -/
def Number.integerLike (x : Binary64) : Bool :=
  x.isWhole && x.magnitude < 1000000000000000 * Binary64.one

def Number.display : Number → List Char
  | int n => Digits.ofInt n
  | float x => if integerLike x then Digits.ofInt x.truncate else x.text

namespace Json

def displayChars : Json → List Char
  | string s => s.toList
  | number n => n.display
  | bool b => (Json.bool b).print
  | null => []
  | v => v.print

def display (v : Json) : String := String.ofList v.displayChars

end Json

end MockHttp
