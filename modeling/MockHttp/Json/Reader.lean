import MockHttp.Json.Scanner

/-! # Reading JSON text

A text is read from left to right and the first fault wins. Lists and objects may lie 127 deep
in one another. Readers of lists and objects are parametric in what their elements are, so that
messages of a fixed shape share them.
-/

namespace MockHttp.Json

open Utf8 (Piece)

/-- How deep lists and objects may lie inside one another. -/
def maxDepth : Nat := 127

/-! ## Lists and objects -/

/-- Whether an element follows, with the input at its start or at the closing bracket. -/
def nextElement (first : Bool) (s : Input) : Except Error (Bool × Input) :=
  match skipSpace s with
  | [] => .error .endOfList
  | p :: rest =>
    if p = .char ']' then .ok (false, p :: rest)
    else if first then .ok (true, p :: rest)
    else if p = .char ',' then
      match skipSpace rest with
      | [] => .error .endOfValue
      | q :: rest => if q = .char ']' then .error .trailingComma else .ok (true, q :: rest)
    else .error .expectedCommaOrBracket

def nextMember (first : Bool) (s : Input) : Except Error (Bool × Input) :=
  match skipSpace s with
  | [] => .error .endOfObject
  | p :: rest =>
    if p = .char '\x7d' then .ok (false, p :: rest)
    else if first then
      if p = .char '"' then .ok (true, rest) else .error .keyNotString
    else if p = .char ',' then
      match skipSpace rest with
      | [] => .error .endOfValue
      | q :: rest =>
        if q = .char '"' then .ok (true, rest)
        else if q = .char '\x7d' then .error .trailingComma
        else .error .keyNotString
    else .error .expectedCommaOrBrace

def endList (s : Input) : Except Error Input :=
  match skipSpace s with
  | [] => .error .endOfList
  | p :: rest =>
    if p = .char ']' then .ok rest
    else if p = .char ',' ∧ (skipSpace rest).head? = some (.char ']') then .error .trailingComma
    else .error .trailingCharacters

def colon (s : Input) : Except Error Input :=
  match skipSpace s with
  | [] => .error .endOfObject
  | p :: rest => if p = .char ':' then .ok rest else .error .expectedColon

/-- Elements up to the closing bracket. Each takes up input, so `fuel` may be its length. -/
def readElements {α : Type} (read : Input → Except Error (α × Input)) :
    (fuel : Nat) → (first : Bool) → Input → Except Error (List α × Input)
  | 0, _, _ => .error .endOfList
  | fuel + 1, first, s => do
    let (more, s) ← nextElement first s
    if more then
      let (v, s) ← read s
      let (vs, s) ← readElements read fuel false s
      return (v :: vs, s)
    else return ([], s.tail)

def readList {α : Type} (read : Input → Except Error (α × Input)) (s : Input) :
    Except Error (List α × Input) :=
  readElements read (s.length + 1) true s

def readMembersFrom {σ : Type} (take : String → σ → Input → Except Error (σ × Input)) :
    (fuel : Nat) → (first : Bool) → σ → Input → Except Error (σ × Input)
  | 0, _, _, _ => .error .endOfObject
  | fuel + 1, first, state, s => do
    let (more, s) ← nextMember first s
    if more then
      let (key, s) ← scanString s
      let (state, s) ← take key state s
      readMembersFrom take fuel false state s
    else return (state, s.tail)

def readMembers {σ : Type} (take : String → σ → Input → Except Error (σ × Input)) (state : σ)
    (s : Input) : Except Error (σ × Input) :=
  readMembersFrom take (s.length + 1) true state s

/-! ## Values -/

def readWord (word : List Char) (v : Json) (s : Input) : Except Error (Json × Input) :=
  (scanWord word s).map fun rest => (v, rest)

/-- A value in which lists and objects lie at most `depth` deep. -/
def readValue (depth : Nat) (s : Input) : Except Error (Json × Input) :=
  match skipSpace s with
  | [] => .error .endOfValue
  | .illFormed _ :: _ => .error .expectedValue
  | .char c :: rest =>
    if c = 'n' then readWord ['u', 'l', 'l'] .null rest
    else if c = 't' then readWord ['r', 'u', 'e'] (.bool true) rest
    else if c = 'f' then readWord ['a', 'l', 's', 'e'] (.bool false) rest
    else if c = '-' then (scanNumber true rest).map fun (n, s) => (.number n, s)
    else if c.isDigit then
      (scanNumber false (.char c :: rest)).map fun (n, s) => (.number n, s)
    else if c = '"' then (scanString rest).map fun (t, s) => (.string t, s)
    else if c = '[' then
      match depth with
      | 0 => .error .tooDeep
      | depth + 1 => (readList (readValue depth) rest).map fun (vs, s) => (.array vs, s)
    else if c = '\x7b' then
      match depth with
      | 0 => .error .tooDeep
      | depth + 1 =>
        let take (key : String) (members : List (String × Json)) (s : Input) := do
          let s ← colon s
          let (v, s) ← readValue depth s
          return (Assoc.insert key v members, s)
        (readMembers take [] rest).map fun (members, s) => (.object members, s)
    else .error .expectedValue
termination_by structural depth

def finish {α : Type} (result : Except Error (α × Input)) : Except Error α := do
  let (v, s) ← result
  if skipSpace s = [] then return v else .error .trailingCharacters

def ofPieces (s : Input) : Except Error Json := finish (readValue maxDepth s)

def ofText (s : String) : Except Error Json := ofPieces (Text.pieces s)

def ofBytes (bytes : Bytes) : Except Error Json := ofPieces (Utf8.scan bytes)

end MockHttp.Json
