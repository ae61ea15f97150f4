import MockHttp.Numeric.Binary64
import MockHttp.Text.Digits

/-! # The shortest decimal text of a number

Of the decimals that round to a number, its text has the fewest digits, and among those it is
the nearest. Exponents from -5 to 15 are written out with a point between digits, all others
after the letter `e` with their sign.
-/

namespace MockHttp.Binary64

/-- `digits * 10 ^ (power - gridOffset)` -/
structure Decimal where
  digits : Nat
  power : Nat
deriving DecidableEq, Repr

/-- All powers of ten that are met lie above `10 ^ (-gridOffset)`. -/
def gridOffset : Nat := 400

def grid : Nat := Nat.pow 10 gridOffset

/-- The decimal in quarters of units times `grid`. -/
def Decimal.scaled (d : Decimal) : Nat := (d.digits * Nat.pow 10 d.power) <<< 1076

def scaled (x : Binary64) : Nat := 4 * x.magnitude * grid

/-- Half the distance to the next number above, in the measure of `scaled`. -/
def upperGap (x : Binary64) : Nat := (2 * grid) <<< x.scale

def lowerGap (x : Binary64) : Nat :=
  if x.significand = 0x10000000000000 ∧ 0 < x.scale then grid <<< x.scale else x.upperGap

/-- The decimal rounds to the number. The ends of the interval do when the significand is even. -/
def admits (x : Binary64) (d : Decimal) : Bool :=
  if x.significand % 2 = 0 then
    x.scaled - x.lowerGap ≤ d.scaled && d.scaled ≤ x.scaled + x.upperGap
  else x.scaled - x.lowerGap < d.scaled && d.scaled < x.scaled + x.upperGap

def leadingPower (x : Binary64) : Nat :=
  (Digits.ofNat (x.magnitude * grid / one)).length - 1

/-- The nearest decimal with so many digits that rounds to the number, if there is one. -/
def onGrid (x : Binary64) (count : Nat) : Option Decimal :=
  let power := x.leadingPower + 1 - count
  let below : Decimal := ⟨x.scaled / (Nat.pow 10 power <<< 1076), power⟩
  let above : Decimal := { below with digits := below.digits + 1 }
  match x.admits below, x.admits above with
  | true, false => some below
  | false, true => some above
  | false, false => none
  | true, true =>
    let down := x.scaled - below.scaled
    let up := above.scaled - x.scaled
    some (if down < up ∨ (down = up ∧ below.digits % 2 = 0) then below else above)

/-- Seventeen digits always suffice. -/
def shortest (x : Binary64) : Decimal :=
  ((List.range 17).findSome? fun i => x.onGrid (i + 1)).getD
    ⟨x.scaled / (Nat.pow 10 (x.leadingPower - 16) <<< 1076), x.leadingPower - 16⟩

def withoutTrailingZeros (ds : List Char) : List Char := (ds.reverse.dropWhile (· == '0')).reverse

/-- Digits `d.ddd` times ten to the power of the exponent. -/
def layout (ds : List Char) (exponent : Int) : List Char :=
  if -5 ≤ exponent ∧ exponent < 0 then
    '0' :: '.' :: (List.replicate (-exponent - 1).toNat '0' ++ ds)
  else if 0 ≤ exponent ∧ exponent ≤ 15 then
    let whole := exponent.toNat + 1
    if ds.length ≤ whole then ds ++ List.replicate (whole - ds.length) '0' ++ ['.', '0']
    else ds.take whole ++ '.' :: ds.drop whole
  else
    let mantissa := match ds with
      | d :: e :: rest => d :: '.' :: e :: rest
      | _ => ds
    let sign := if exponent < 0 then '-' else '+'
    mantissa ++ 'e' :: sign :: Digits.ofNat exponent.natAbs

def magnitudeText (x : Binary64) : List Char :=
  if x.significand = 0 then ['0', '.', '0']
  else
    let d := x.shortest
    let ds := Digits.ofNat d.digits
    layout (withoutTrailingZeros ds) ((d.power : Int) + ds.length - 1 - gridOffset)

def text (x : Binary64) : List Char :=
  if x.negative then '-' :: x.magnitudeText else x.magnitudeText

end MockHttp.Binary64
