/-! # Binary floating-point numbers of 64 bits

A finite number is a sign, a significand of at most 53 bits and a scale: it counts
`significand * 2 ^ scale` units of `2 ^ (-1074)`, the smallest positive number. Scale 0 holds the
subnormal numbers; above it the significand has all its 53 bits, so that each value apart from
zero has one representation. Values are compared by their count of units.
-/

namespace MockHttp

structure Binary64 where
  negative : Bool
  significand : Nat
  scale : Nat
  /-- The bounds are `2 ^ 53` and `2 ^ 52`. -/
  canonical : significand < 0x20000000000000 ∧ scale ≤ 2045 ∧
    (scale = 0 ∨ 0x10000000000000 ≤ significand)
deriving DecidableEq, Repr

namespace Binary64

/-- The number of units in 1. -/
def one : Nat := 1 <<< 1074

def magnitude (x : Binary64) : Nat := x.significand <<< x.scale

def units (x : Binary64) : Int := if x.negative then -(x.magnitude : Int) else x.magnitude

theorem natAbs_units (x : Binary64) : x.units.natAbs = x.magnitude := by
  unfold units
  split <;> omega

instance : LE Binary64 := ⟨fun x y => x.units ≤ y.units⟩

instance : LT Binary64 := ⟨fun x y => x.units < y.units⟩

instance (x y : Binary64) : Decidable (x ≤ y) := inferInstanceAs (Decidable (x.units ≤ y.units))

instance (x y : Binary64) : Decidable (x < y) := inferInstanceAs (Decidable (x.units < y.units))

/-- Equal as numbers: the two zeros are. -/
def sameValue (x y : Binary64) : Bool := x.units == y.units

def zero (negative : Bool) : Binary64 := ⟨negative, 0, 0, by decide⟩

def largest (negative : Bool) : Binary64 := ⟨negative, 0x1FFFFFFFFFFFFF, 2045, by decide⟩

/-- The outcome of an operation, which may lie outside the finite numbers. -/
inductive Extended where
  | finite (x : Binary64)
  | infinite (negative : Bool)
  | notANumber
deriving DecidableEq, Repr

def Extended.finite? : Extended → Option Binary64
  | finite x => some x
  | infinite _ => none
  | notANumber => none

/-- The nearest integer to a quotient; a tie goes to the even one. -/
def nearestEven (num den : Nat) : Nat :=
  let q := num / den
  let r := num % den
  if 2 * r < den ∨ (2 * r = den ∧ q % 2 = 0) then q else q + 1

/-- The number with these fields; what lies above the largest one is infinite. -/
def pack (negative : Bool) (significand scale : Nat) : Extended :=
  if h : significand < 0x20000000000000 ∧ scale ≤ 2045 ∧
      (scale = 0 ∨ 0x10000000000000 ≤ significand) then
    .finite ⟨negative, significand, scale, h⟩
  else .infinite negative

/-- The nearest number to `num / den` units, with a tie to the even significand. -/
def roundUnits (negative : Bool) (num den : Nat) : Extended :=
  let scale := (num / den).log2 - 52
  let significand := nearestEven num (den <<< scale)
  if significand = 0x20000000000000 then pack negative 0x10000000000000 (scale + 1)
  else pack negative significand scale

def ofRatio (negative : Bool) (num den : Nat) : Extended := roundUnits negative (num * one) den

/-- The nearest number; beyond the finite numbers the largest one. -/
def ofInt (n : Int) : Binary64 := (ofRatio (n < 0) n.natAbs 1).finite?.getD (largest (n < 0))

def ofNat (n : Nat) : Binary64 := ofInt n

def truncate (x : Binary64) : Int := x.units.tdiv one

def isWhole (x : Binary64) : Bool := x.magnitude % one == 0

end Binary64

end MockHttp
