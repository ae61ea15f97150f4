import MockHttp.Json.Reader

/-! # Values that are not wanted

The value of an unknown field is passed over. It must have the form of JSON, but lists and
objects may lie arbitrarily deep, numbers may be of any size, and codes in strings need not name
characters. The open lists and objects are kept on a stack.
-/

namespace MockHttp.Json

open Utf8 (Piece)

inductive Bracket where
  | list
  | object
deriving DecidableEq, Repr

def Bracket.closing : Bracket → Piece
  | list => .char ']'
  | object => .char '\x7d'

def Bracket.endOf : Bracket → Error
  | list => .endOfList
  | object => .endOfObject

def Bracket.expectedComma : Bracket → Error
  | list => .expectedCommaOrBracket
  | object => .expectedCommaOrBrace

def skipString (s : Input) : Except Error Input :=
  (scanStringFrom false .plain [] s).map (·.2)

def skipExponent (s : Input) : Except Error Input :=
  let digits := match s with
    | .char '+' :: rest => rest
    | .char '-' :: rest => rest
    | _ => s
  if startsWithDigit digits then .ok (skipDigits digits).2 else .error .badNumber

def skipFraction (s : Input) : Except Error Input :=
  if startsWithDigit s then
    let rest := (skipDigits s).2
    if startsExponent rest then skipExponent rest.tail else .ok rest
  else .error .badNumber

def skipAfterWhole (s : Input) : Except Error Input :=
  if s.head? = some (.char '.') then skipFraction s.tail
  else if startsExponent s then skipExponent s.tail
  else .ok s

def skipNumber (s : Input) : Except Error Input :=
  match s with
  | [] => .error .badNumber
  | p :: rest =>
    match digit? p with
    | none => .error .badNumber
    | some 0 => if startsWithDigit rest then .error .badNumber else skipAfterWhole rest
    | some _ => skipAfterWhole (skipDigits rest).2

def skipKey (s : Input) : Except Error Input :=
  match skipSpace s with
  | [] => .error .endOfObject
  | p :: rest => if p = .char '"' then skipString rest >>= colon else .error .keyNotString

def skipAtom (s : Input) : Except Error (Option Bracket × Input) :=
  let atom (result : Except Error Input) := result.map fun rest => (none, rest)
  match skipSpace s with
  | [] => .error .endOfValue
  | .illFormed _ :: _ => .error .expectedValue
  | .char c :: rest =>
    if c = 'n' then atom (scanWord ['u', 'l', 'l'] rest)
    else if c = 't' then atom (scanWord ['r', 'u', 'e'] rest)
    else if c = 'f' then atom (scanWord ['a', 'l', 's', 'e'] rest)
    else if c = '-' then atom (skipNumber rest)
    else if c.isDigit then atom (skipNumber (.char c :: rest))
    else if c = '"' then atom (skipString rest)
    else if c = '[' then .ok (some .list, rest)
    else if c = '\x7b' then .ok (some .object, rest)
    else .error .expectedValue

/-- Closes brackets until another element or member follows. An opened bracket may be closed at
once (`fresh`), after a value a comma or a bracket must follow. -/
def closeBrackets (fresh : Bool) : List Bracket → Input → Except Error (List Bracket × Input)
  | [], s => .ok ([], s)
  | bracket :: outer, s =>
    match skipSpace s with
    | [] => .error bracket.endOf
    | p :: rest =>
      if p = .char ',' ∧ !fresh then .ok (bracket :: outer, rest)
      else if p = bracket.closing then closeBrackets false outer rest
      else if fresh then .ok (bracket :: outer, p :: rest)
      else .error bracket.expectedComma

/-- Values until the stack is empty; each takes up input. -/
def skipFrom : (fuel : Nat) → List Bracket → Input → Except Error Input
  | 0, _, _ => .error .endOfValue
  | fuel + 1, stack, s => do
    let (opened, s) ← skipAtom s
    let (stack, s) ← match opened with
      | some bracket => closeBrackets true (bracket :: stack) s
      | none => closeBrackets false stack s
    match stack with
    | [] => return s
    | .list :: _ => skipFrom fuel stack s
    | .object :: _ => skipFrom fuel stack (← skipKey s)

def skipValue (s : Input) : Except Error Input := skipFrom (s.length + 1) [] s

end MockHttp.Json
