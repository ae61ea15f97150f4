import MockHttp.Numeric.Binary64
import MockHttp.Text.Digits

/-! # Numbers written as text

A decimal literal is an optional sign, digits with an optional point among or beside them, and
an optional exponent; it denotes the nearest number. The words `inf`, `infinity` and `nan` are
literals as well, in any case of letters.
-/

namespace MockHttp.Binary64

/-- `digits * 10 ^ exponent`, rounded once. -/
def ofDecimal (negative : Bool) (digits : Nat) (exponent : Int) : Extended :=
  let count := (Digits.ofNat digits).length
  if digits = 0 then .finite (zero negative)
  else if 310 < exponent + count then .infinite negative
  else if exponent + count < -330 then .finite (zero negative)
  else if 0 ≤ exponent then ofRatio negative (digits * Nat.pow 10 exponent.toNat) 1
  else ofRatio negative digits (Nat.pow 10 (-exponent).toNat)

def exponentOf? : List Char → Option Int
  | [] => some 0
  | c :: rest =>
    if c = 'e' ∨ c = 'E' then
      match rest with
      | '-' :: ds => (Digits.number? ds).map fun n => -(n : Int)
      | '+' :: ds => (Digits.number? ds).map Int.ofNat
      | ds => (Digits.number? ds).map Int.ofNat
    else none

def unsignedLiteral? (negative : Bool) (cs : List Char) : Option Extended :=
  let whole := Digits.leading cs
  let (fraction, rest) := match Digits.afterLeading cs with
    | '.' :: rest => (Digits.leading rest, Digits.afterLeading rest)
    | rest => ([], rest)
  if whole = [] ∧ fraction = [] then none
  else (exponentOf? rest).map fun exponent =>
    ofDecimal negative (Digits.valueOf (whole ++ fraction)) (exponent - fraction.length)

def literal? (cs : List Char) : Option Extended :=
  let (negative, rest) := match cs with
    | '-' :: rest => (true, rest)
    | '+' :: rest => (false, rest)
    | _ => (false, cs)
  let word := rest.map Char.toLower
  if word = ['i', 'n', 'f'] ∨ word = ['i', 'n', 'f', 'i', 'n', 'i', 't', 'y'] then
    some (.infinite negative)
  else if word = ['n', 'a', 'n'] then some .notANumber
  else unsignedLiteral? negative rest

end MockHttp.Binary64
