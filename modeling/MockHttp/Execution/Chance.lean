import MockHttp.Instruction.Decode
import MockHttp.Numeric.Arithmetic
import MockHttp.Template

/-! # Random values

The outcome of a random choice is given from outside. Each generator that makes one takes a draw
of its own, and whatever the draw is, the value lies in the range of the generator.
-/

namespace MockHttp

/-- Enough chance for one generator: letters, an offset in a range, and a number in a range. -/
structure Draw where
  letters : Nat → Nat
  offset : Nat
  sample : Binary64

abbrev Draws := Nat → Draw

structure Chance where
  draws : Draws
  delay : Nat

namespace Draw

def alphabet : List Char :=
  "ABCDEFGHIJKLMNOPQRSTUVWXYZabcdefghijklmnopqrstuvwxyz0123456789".toList

def letter (n : Nat) : Char := alphabet.getD (n % alphabet.length) 'A'

def text (d : Draw) (length : Nat) : String :=
  String.ofList ((List.range length).map fun i => letter (d.letters i))

def between (d : Draw) (low high : Int) : Option Int :=
  if high < low then none else some (low + (d.offset % (high - low + 1).toNat : Nat))

/-- A number from `low` to `high` rounded to so many decimals, if the range is finite. A sampler may
take fewer ranges; `Strict.decimal` asks it. -/
def decimal (d : Draw) (low high : Binary64) (decimals : Nat) : Option Binary64 :=
  if high < low ∨ (high.sub low).finite?.isNone then none
  else
    let raw :=
      if low.sameValue high then low else (Binary64.Extended.finite d.sample).clamp low high
    let factor := Binary64.powerOfTen decimals
    some (((raw.mul factor).round.divBy factor).clamp low high)

end Draw

namespace Generator

def isRandom : Generator → Bool
  | hash .. => false
  | _ => true

def target : Generator → String
  | randomString _ t => t
  | randomInt _ _ t => t
  | randomDigits _ t => t
  | randomDecimal _ _ _ t => t
  | hash _ _ t => t

def value? (vars : Variables) (d : Draw) : Generator → Option Json
  | randomString length _ => some (.string (d.text (Nat.min length maxRandomLength)))
  | randomInt min max _ => (d.between min max).map Json.int
  | randomDigits digits _ =>
    (d.between (Nat.pow 10 (digits - 1)) (Nat.pow 10 digits - 1)).map Json.int
  | randomDecimal min max decimals _ => (d.decimal min max decimals).map Json.float
  | hash source algorithm _ =>
    (vars.get? source).map fun v => .string (algorithm.hexDigest v.display)

end Generator

end MockHttp
