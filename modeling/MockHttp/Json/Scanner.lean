import MockHttp.Json.Error
import MockHttp.Json.Basic
import MockHttp.Numeric.Arithmetic
import MockHttp.Text.Utf8

/-! # The words of JSON text

Texts are read as pieces, of which the ill-formed ones may stand only inside strings that are
not wanted. A scanner returns what it read and the input behind it.
-/

namespace MockHttp.Json

open Utf8 (Piece)

abbrev Input := List Piece

def isSpace : Piece → Bool
  | .char c => c == ' ' || c == '\n' || c == '\t' || c == '\r'
  | .illFormed _ => false

def skipSpace (s : Input) : Input := s.dropWhile isSpace

def digit? : Piece → Option Nat
  | .char c => if c.isDigit then some (c.toNat - '0'.toNat) else none
  | .illFormed _ => none

def startsWithDigit : Input → Bool
  | p :: _ => (digit? p).isSome
  | [] => false

def scanWord : List Char → Input → Except Error Input
  | [], s => .ok s
  | _ :: _, [] => .error .endOfValue
  | c :: cs, p :: rest => if p = .char c then scanWord cs rest else .error .expectedWord

/-! ## Numbers -/

/-- Digits are taken into a significand while it fits 64 bits; also counts the digits taken. -/
def scanSignificand (significand count : Nat) : Input → Nat × Nat × Input
  | [] => (significand, count, [])
  | p :: rest =>
    match digit? p with
    | none => (significand, count, p :: rest)
    | some d =>
      if 10 * significand + d < 0x10000000000000000 then
        scanSignificand (10 * significand + d) (count + 1) rest
      else (significand, count, p :: rest)

def skipDigits (s : Input) : Nat × Input :=
  ((s.takeWhile fun p => (digit? p).isSome).length, s.dropWhile fun p => (digit? p).isSome)

/-- Steps of `10 ^ 308` make a small power of ten. The third step reaches zero in any case. -/
def scaleDown (x : Binary64) (power : Nat) : Binary64.Extended :=
  let steps := (power - 1) / 308
  let down (x : Binary64.Extended) := x.divBy (.powerOfTen 308)
  (Nat.repeat down (min steps 3) (.finite x)).divBy (.powerOfTen (power - 308 * steps))

/-- The significand is rounded first, and its product with the power of ten once more. -/
def floatOf (negative : Bool) (significand : Nat) (exponent : Int) : Except Error Number :=
  let x := Binary64.ofNat significand
  let scaled :=
    if significand = 0 then .finite (.zero false)
    else if exponent < 0 then scaleDown x (-exponent).toNat
    else if exponent ≤ 308 then x.mul (.powerOfTen exponent.toNat)
    else .infinite false
  match scaled with
  | .finite y => .ok (.float { y with negative })
  | _ => .error .numberTooLarge

def scanExponent (negative : Bool) (significand : Nat) (exponent : Int) (s : Input) :
    Except Error (Number × Input) :=
  let (sign, digits) : Int × Input := match s with
    | .char '-' :: rest => (-1, rest)
    | .char '+' :: rest => (1, rest)
    | _ => (1, s)
  match digits with
  | [] => .error .endOfValue
  | p :: _ =>
    if (digit? p).isNone then .error .badNumber
    else
      let power := (digits.takeWhile fun p => (digit? p).isSome).foldl
        (fun n p => 10 * n + (digit? p).getD 0) 0
      (floatOf negative significand (exponent + sign * power)).map fun x =>
        (x, (skipDigits digits).2)

def startsExponent : Input → Bool
  | .char c :: _ => c == 'e' || c == 'E'
  | _ => false

def scanScale (negative : Bool) (significand : Nat) (exponent : Int) (s : Input) :
    Except Error (Number × Input) :=
  if startsExponent s then scanExponent negative significand exponent s.tail
  else (floatOf negative significand exponent).map fun x => (x, s)

/-- The fraction, of which the point is read. Digits that no longer fit are dropped. -/
def scanFraction (negative : Bool) (significand : Nat) (exponent : Int) (s : Input) :
    Except Error (Number × Input) :=
  let (significand, count, rest) := scanSignificand significand 0 s
  if startsWithDigit rest then
    scanScale negative significand (exponent - count) (skipDigits rest).2
  else if count = 0 then
    .error (if rest.isEmpty then .endOfValue else .badNumber)
  else scanScale negative significand (exponent - count) rest

/-- A whole number that fits 64 bits is exact; minus zero does not. -/
def wholeNumber (negative : Bool) (significand : Nat) : Number :=
  if negative then
    if significand = 0 ∨ 0x8000000000000000 < significand then
      .float { Binary64.ofNat significand with negative }
    else .int (-(significand : Int))
  else .int significand

def scanAfterWhole (negative : Bool) (significand : Nat) (s : Input) :
    Except Error (Number × Input) :=
  if s.head? = some (.char '.') then scanFraction negative significand 0 s.tail
  else if startsExponent s then scanExponent negative significand 0 s.tail
  else .ok (wholeNumber negative significand, s)

def scanNumber (negative : Bool) : Input → Except Error (Number × Input)
  | [] => .error .endOfValue
  | p :: rest =>
    match digit? p with
    | none => .error .badNumber
    | some 0 =>
      if startsWithDigit rest then .error .badNumber else scanAfterWhole negative 0 rest
    | some d =>
      let (significand, _, rest) := scanSignificand d 1 rest
      if startsWithDigit rest then
        let (dropped, rest) := skipDigits rest
        if rest.head? = some (.char '.') then scanFraction negative significand dropped rest.tail
        else scanScale negative significand dropped rest
      else scanAfterWhole negative significand rest

/-! ## Strings -/

inductive StringMode where
  | plain
  | escape
  | hex (high : Option Nat) (missing code : Nat)
  | pairBackslash (high : Nat)
  | pairLetter (high : Nat)

def simpleEscape? : Char → Option Char
  | '"' => some '"'
  | '\\' => some '\\'
  | '/' => some '/'
  | 'b' => some '\x08'
  | 'f' => some '\x0c'
  | 'n' => some '\n'
  | 'r' => some '\r'
  | 't' => some '\t'
  | _ => none

def hexValue? : Piece → Option Nat
  | .char c =>
    if '0' ≤ c ∧ c ≤ '9' then some (c.toNat - 48)
    else if 'a' ≤ c ∧ c ≤ 'f' then some (c.toNat - 87)
    else if 'A' ≤ c ∧ c ≤ 'F' then some (c.toNat - 55)
    else none
  | .illFormed _ => none

def isHighSurrogate (n : Nat) : Bool := 0xD800 ≤ n && n ≤ 0xDBFF

def isLowSurrogate (n : Nat) : Bool := 0xDC00 ≤ n && n ≤ 0xDFFF

def hasCode (s : Input) : Bool := 4 ≤ (s.take 4).foldl (fun n p => n + p.width) 0

/-- What a complete code does: it adds a character, or the second half of a pair must follow. -/
def codeStep (checked : Bool) (high : Option Nat) (code : Nat) (taken : List Piece) :
    Except Error (StringMode × List Piece) :=
  if !checked then .ok (.plain, taken)
  else match high with
    | none =>
      if isLowSurrogate code then .error .loneSurrogate
      else if isHighSurrogate code then .ok (.pairBackslash code, taken)
      else .ok (.plain, .char (Char.ofNat code) :: taken)
    | some high =>
      if isLowSurrogate code then
        let c := Char.ofNat ((high - 0xD800) * 0x400 + (code - 0xDC00) + 0x10000)
        .ok (.plain, .char c :: taken)
      else .error .loneSurrogate

/-- One piece inside a string, with the input behind it at hand. `none` ends the string. -/
def stringStep (checked : Bool) (mode : StringMode) (taken : List Piece) (p : Piece)
    (rest : Input) : Except Error (Option (StringMode × List Piece)) :=
  match mode with
  | .plain =>
    match p with
    | .char c =>
      if c = '"' then .ok none
      else if c = '\\' then .ok (some (.escape, taken))
      else if c.toNat < 0x20 then .error .controlCharacter
      else .ok (some (.plain, p :: taken))
    | .illFormed _ => .ok (some (.plain, p :: taken))
  | .escape =>
    match p with
    | .char c =>
      if c = 'u' then
        if hasCode rest then .ok (some (.hex none 4 0, taken)) else .error .endOfString
      else match simpleEscape? c with
        | some d => .ok (some (.plain, .char d :: taken))
        | none => .error .badEscape
    | .illFormed _ => .error .badEscape
  | .hex high missing code =>
    match hexValue? p with
    | none => .error .badEscape
    | some v =>
      if missing ≤ 1 then (codeStep checked high (16 * code + v) taken).map some
      else .ok (some (.hex high (missing - 1) (16 * code + v), taken))
  | .pairBackslash high =>
    if p = .char '\\' then .ok (some (.pairLetter high, taken))
    else .error .unfinishedSurrogatePair
  | .pairLetter high =>
    if p = .char 'u' then
      if hasCode rest then .ok (some (.hex (some high) 4 0, taken)) else .error .endOfString
    else .error .unfinishedSurrogatePair

def scanStringFrom (checked : Bool) :
    StringMode → List Piece → Input → Except Error (List Piece × Input)
  | _, _, [] => .error .endOfString
  | mode, taken, p :: rest =>
    match stringStep checked mode taken p rest with
    | .error e => .error e
    | .ok none => .ok (taken, rest)
    | .ok (some (mode, taken)) => scanStringFrom checked mode taken rest

def scanString (s : Input) : Except Error (String × Input) := do
  let (taken, rest) ← scanStringFrom true .plain [] s
  match Utf8.chars? taken.reverse with
  | some cs => .ok (String.ofList cs, rest)
  | none => .error .badEncoding

end MockHttp.Json
