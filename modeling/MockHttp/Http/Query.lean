import MockHttp.Text.Utf8

/-! # Query strings

A query is a list of pieces with ampersands between them; empty pieces do not count. The first
equals sign of a piece ends its name. A plus sign stands for a space and a percent sign with two
hexadecimal digits for a byte; other percent signs stand for themselves.
-/

namespace MockHttp.Query

def hexValue? (b : UInt8) : Option Nat :=
  let n := b.toNat
  if 48 ≤ n ∧ n ≤ 57 then some (n - 48)
  else if 97 ≤ n ∧ n ≤ 102 then some (n - 87)
  else if 65 ≤ n ∧ n ≤ 70 then some (n - 55)
  else none

def byte? (a b : UInt8) : Option UInt8 := do
  return UInt8.ofNat (16 * (← hexValue? a) + (← hexValue? b))

def decodeBytes : Bytes → Bytes
  | [] => []
  | 0x2B :: rest => 0x20 :: decodeBytes rest
  | 0x25 :: a :: b :: rest =>
    match byte? a b with
    | some c => c :: decodeBytes rest
    | none => 0x25 :: decodeBytes (a :: b :: rest)
  | b :: rest => b :: decodeBytes rest

def decode (bytes : Bytes) : String := Text.ofBytesLossy (decodeBytes bytes)

def pieces : Bytes → List Bytes
  | [] => [[]]
  | b :: rest =>
    match pieces rest with
    | [] => [[]]
    | piece :: others => if b = 0x26 then [] :: piece :: others else (b :: piece) :: others

def parameter (piece : Bytes) : String × String :=
  (decode (piece.takeWhile (· ≠ 0x3D)), decode (piece.dropWhile (· ≠ 0x3D)).tail)

def parameters (query : List Char) : List (String × String) :=
  ((pieces (Utf8.encode query)).filter (· ≠ [])).map parameter

end MockHttp.Query
