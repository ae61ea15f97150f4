import Mathlib.Data.Int.Basic
import MockHttp.Execution.Strict
import MockHttp.Proofs.Instruction.Decode
import MockHttp.Proofs.Numeric.Truncation

/-! # Numbers in range

Arguments are arbitrary numbers and texts, but a decoded instruction holds numbers only that fit
their machine words and their use: signed integers of 64 bits, offsets and delays below `2 ^ 63`,
digits that stay in 64 bits, and legal codes.
-/

namespace MockHttp

def Generator.InRange : Generator → Prop
  | randomString length _ => length ≤ maxRandomLength
  | randomInt min max _ => IsInt64 min ∧ IsInt64 max
  | randomDigits digits _ => 1 ≤ digits ∧ digits ≤ maxDigits
  | randomDecimal _ _ decimals _ => decimals ≤ maxDecimals
  | hash .. => True

def VariableOp.InRange : VariableOp → Prop
  | substring _ start stop _ => start < 0x8000000000000000 ∧ stop < 0x8000000000000000
  | _ => True

def ResponseOp.InRange : ResponseOp → Prop
  | status code => IsStatusCode code
  | wait millis => millis < 0x8000000000000000
  | randomWait min max => min < 0x8000000000000000 ∧ max < 0x8000000000000000
  | _ => True

/-- The numbers of the instruction lie where its execution is defined. -/
def Instruction.InRange : Instruction → Prop
  | generate g => g.InRange
  | manipulate op => op.InRange
  | respond _ op => op.InRange
  | _ => True

namespace Arguments

variable {args : Arguments} {i : Nat}

/-- The fraction is cut off behind the check, which cannot take the integer out of the range. -/
theorem integer_eq_ok {n : Int} (h : integer args i = .ok n) : n.natAbs < 0x8000000000000000 := by
  obtain ⟨x, -, h⟩ := bind_eq_ok_iff.mp h
  split at h
  · cases h
  · next hx =>
    cases h
    rw [Binary64.natAbs_truncate]
    exact Nat.div_lt_of_lt_mul (by rw [Nat.mul_comm]; exact Nat.lt_of_not_le hx)

theorem isInt64_of_integer {n : Int} (h : integer args i = .ok n) : IsInt64 n := by
  have hn := integer_eq_ok h
  unfold IsInt64
  omega

theorem unsigned_eq_ok {n : Nat} (h : unsigned args i = .ok n) : n < 0x8000000000000000 := by
  obtain ⟨m, hm, h⟩ := bind_eq_ok_iff.mp h
  have hbound := integer_eq_ok hm
  split at h
  · cases h
  · cases h
    omega

end Arguments

namespace Instruction

open Arguments

variable {args : Arguments}

theorem inRange_of_decodeGenerator {w : GeneratorWord} {g : Generator}
    (h : decodeGenerator w args = .ok g) : g.InRange := by
  cases w with
  | randomString =>
    obtain ⟨length, hlength, h⟩ := bind_eq_ok_iff.mp h
    obtain ⟨_, -, h⟩ := bind_eq_ok_iff.mp h
    cases h
    exact (within_eq_ok hlength).2
  | randomInt =>
    obtain ⟨min, hmin, h⟩ := bind_eq_ok_iff.mp h
    obtain ⟨max, hmax, h⟩ := bind_eq_ok_iff.mp h
    obtain ⟨_, -, h⟩ := bind_eq_ok_iff.mp h
    cases h
    exact ⟨isInt64_of_integer hmin, isInt64_of_integer hmax⟩
  | randomDigits =>
    obtain ⟨digits, hdigits, h⟩ := bind_eq_ok_iff.mp h
    obtain ⟨_, -, h⟩ := bind_eq_ok_iff.mp h
    cases h
    exact within_eq_ok hdigits
  | randomDecimal =>
    obtain ⟨min, -, h⟩ := bind_eq_ok_iff.mp h
    obtain ⟨max, -, h⟩ := bind_eq_ok_iff.mp h
    split at h
    · cases h
    · obtain ⟨decimals, -, h⟩ := bind_eq_ok_iff.mp h
      obtain ⟨_, -, h⟩ := bind_eq_ok_iff.mp h
      cases h
      exact Nat.min_le_right ..
  | hash =>
    obtain ⟨_, -, h⟩ := bind_eq_ok_iff.mp h
    obtain ⟨_, -, h⟩ := bind_eq_ok_iff.mp h
    obtain ⟨_, -, h⟩ := bind_eq_ok_iff.mp h
    cases h
    trivial

theorem inRange_of_decodeVariable {w : VariableWord} {op : VariableOp}
    (h : decodeVariable w args = .ok op) : op.InRange := by
  cases w with
  | toText | toInteger | delete =>
    obtain ⟨_, -, h⟩ := bind_eq_ok_iff.mp h
    cases h
    trivial
  | substring =>
    obtain ⟨_, -, h⟩ := bind_eq_ok_iff.mp h
    obtain ⟨start, hstart, h⟩ := bind_eq_ok_iff.mp h
    obtain ⟨stop, hstop, h⟩ := bind_eq_ok_iff.mp h
    obtain ⟨_, -, h⟩ := bind_eq_ok_iff.mp h
    cases h
    exact ⟨unsigned_eq_ok hstart, unsigned_eq_ok hstop⟩
  | join =>
    obtain ⟨_, -, h⟩ := bind_eq_ok_iff.mp h
    obtain ⟨_, -, h⟩ := bind_eq_ok_iff.mp h
    cases h
    trivial

theorem inRange_of_decodeResponse {w : ResponseWord} {op : ResponseOp}
    (h : decodeResponse w args = .ok op) : op.InRange := by
  cases w with
  | status =>
    obtain ⟨code, hcode, h⟩ := bind_eq_ok_iff.mp h
    cases h
    exact within_eq_ok hcode
  | body | copyHeader =>
    obtain ⟨_, -, h⟩ := bind_eq_ok_iff.mp h
    cases h
    trivial
  | wait =>
    obtain ⟨millis, hmillis, h⟩ := bind_eq_ok_iff.mp h
    cases h
    exact unsigned_eq_ok hmillis
  | randomWait =>
    obtain ⟨min, hmin, h⟩ := bind_eq_ok_iff.mp h
    obtain ⟨max, hmax, h⟩ := bind_eq_ok_iff.mp h
    cases h
    exact ⟨unsigned_eq_ok hmin, unsigned_eq_ok hmax⟩
  | header =>
    obtain ⟨_, -, h⟩ := bind_eq_ok_iff.mp h
    obtain ⟨_, -, h⟩ := bind_eq_ok_iff.mp h
    cases h
    trivial

theorem inRange_decode (e : Entry) : (decode e).InRange := by
  unfold decode
  split
  · next hi =>
    cases decodesTo_of_decode? hi with
    | extract | test => trivial
    | generate h => exact inRange_of_decodeGenerator h
    | manipulate h => exact inRange_of_decodeVariable h
    | respond _ h => exact inRange_of_decodeResponse h
  · trivial

end Instruction

end MockHttp
