import MockHttp.Numeric.Binary64

/-! # Floating-point arithmetic

Each operation gives the nearest number to its exact result. Operations on infinite operands
follow the limits; the indeterminate ones are not a number.
-/

namespace MockHttp.Binary64

def ofUnits (n : Int) : Extended := roundUnits (n < 0) n.natAbs 1

/-- A difference of equal numbers is positive zero, unless it is `-0 - 0`. -/
def sub (x y : Binary64) : Extended :=
  let d := x.units - y.units
  if d = 0 then .finite (zero (x.negative && !y.negative && x.magnitude == 0)) else ofUnits d

def mul (x y : Binary64) : Extended :=
  roundUnits (x.negative != y.negative) (x.magnitude * y.magnitude) one

def div (x y : Binary64) : Extended :=
  if y.magnitude = 0 then
    if x.magnitude = 0 then .notANumber else .infinite (x.negative != y.negative)
  else roundUnits (x.negative != y.negative) (x.magnitude * one) y.magnitude

/-- The nearest whole number; a half goes away from zero. -/
def round (x : Binary64) : Binary64 :=
  (ofRatio x.negative ((2 * x.magnitude + one) / (2 * one)) 1).finite?.getD x

def powerOfTen (n : Nat) : Binary64 := ofNat (Nat.pow 10 (min n 308))

namespace Extended

def round : Extended → Extended
  | finite x => finite x.round
  | other => other

def divBy (x : Extended) (y : Binary64) : Extended :=
  match x with
  | finite x => x.div y
  | infinite negative => infinite (negative != y.negative)
  | notANumber => notANumber

def clamp (low high : Binary64) : Extended → Binary64
  | finite x => if x < low then low else if high < x then high else x
  | infinite negative => if negative then low else high
  | notANumber => low

end Extended

end MockHttp.Binary64
