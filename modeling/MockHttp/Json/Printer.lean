import MockHttp.Json.Basic
import MockHttp.Numeric.Shortest

/-! # Compact JSON text

Values without blanks. In strings the quote, the backslash and the control characters below
U+0020 are escaped and nothing else is.
-/

namespace MockHttp.Json

def controlEscape (n : Nat) : List Char :=
  ['\\', 'u', '0', '0', Nat.digitChar (n / 16), Nat.digitChar (n % 16)]

def escapedChar (c : Char) : List Char :=
  if c = '"' then ['\\', '"']
  else if c = '\\' then ['\\', '\\']
  else if c.toNat < 0x20 then
    match c.toNat with
    | 8 => ['\\', 'b']
    | 9 => ['\\', 't']
    | 10 => ['\\', 'n']
    | 12 => ['\\', 'f']
    | 13 => ['\\', 'r']
    | n => controlEscape n
  else [c]

def printString (s : String) : List Char := '"' :: (s.toList.flatMap escapedChar ++ ['"'])

def printNumber : Number → List Char
  | .int n => Digits.ofInt n
  | .float x => x.text

def commaSeparated : List (List Char) → List Char
  | [] => []
  | [part] => part
  | part :: parts => part ++ ',' :: commaSeparated parts

def printMember (key : String) (value : List Char) : List Char := printString key ++ ':' :: value

def printList (items : List (List Char)) : List Char := '[' :: (commaSeparated items ++ [']'])

def printObject (members : List (String × List Char)) : List Char :=
  '\x7b' :: (commaSeparated (members.map fun m => printMember m.1 m.2) ++ ['\x7d'])

mutual

def print : Json → List Char
  | null => ['n', 'u', 'l', 'l']
  | bool true => ['t', 'r', 'u', 'e']
  | bool false => ['f', 'a', 'l', 's', 'e']
  | number n => printNumber n
  | string s => printString s
  | array items => printList (printItems items)
  | object members => printObject (printMembers members)
termination_by structural v => v

def printItems : List Json → List (List Char)
  | [] => []
  | v :: vs => print v :: printItems vs
termination_by structural vs => vs

def printMembers : List (String × Json) → List (String × List Char)
  | [] => []
  | (k, v) :: vs => (k, print v) :: printMembers vs
termination_by structural vs => vs

end

def text (v : Json) : String := String.ofList v.print

mutual

/-- How deep lists and objects lie inside one another. -/
def depth : Json → Nat
  | array items => depthItems items + 1
  | object members => depthMembers members + 1
  | _ => 0
termination_by structural v => v

def depthItems : List Json → Nat
  | [] => 0
  | v :: vs => max (depth v) (depthItems vs)
termination_by structural vs => vs

def depthMembers : List (String × Json) → Nat
  | [] => 0
  | (_, v) :: vs => max (depth v) (depthMembers vs)
termination_by structural vs => vs

end

end MockHttp.Json
