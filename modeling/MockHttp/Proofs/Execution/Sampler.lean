import MockHttp.Execution.Strict
import MockHttp.Proofs.Instruction.Denotation
import MockHttp.Proofs.Numeric.Overflow

/-! # Which decoded bounds the sampler takes

Decoding checks that the range of a random decimal is finite, and so does the guard in front of the
sampler. The scale is longer than the range, so two ranges pass both checks and are refused: those
with the two largest finite numbers for their length.
-/

namespace MockHttp

namespace Sampler

open Binary64

def nextToLargest : Binary64 := ⟨false, 0x1FFFFFFFFFFFFE, 2045, by decide⟩

/-- The finite numbers that overflow when they are divided by the largest draw. -/
def TooLong (span : Binary64) : Prop := span = nextToLargest ∨ span = largest false

instance (span : Binary64) : Decidable (TooLong span) := inferInstanceAs (Decidable (_ ∨ _))

theorem tooLong_iff {span : Binary64} (h : span.negative = false) :
    TooLong span ↔ span.scale = 2045 ∧ 0x1FFFFFFFFFFFFE ≤ span.significand := by
  obtain ⟨negative, significand, scale, hcanonical⟩ := span
  simp only at h
  subst h
  simp only [TooLong, nextToLargest, largest, mk.injEq, true_and]
  omega

theorem topDraw_magnitude_pos : 0 < topDraw.magnitude := by
  rw [magnitude, Nat.shiftLeft_eq]
  exact Nat.mul_pos (by decide) (Nat.two_pow_pos _)

theorem topDraw_magnitude : topDraw.magnitude * 2 ^ 52 = (2 ^ 52 - 1) * one := by
  have hfields (k : Nat) : 0x1FFFFFFFFFFFFE <<< k * 2 ^ 52 = (2 ^ 52 - 1) * 2 ^ (k + 53) := by
    rw [Nat.shiftLeft_eq]
    ring
  have hexp : 1021 + 53 = 1074 := rfl
  rw [one_eq, ← hexp]
  exact hfields 1021

/-- The largest draw is just below 1, so only where the span has the last scale is the quotient near
the overflow. -/
theorem div_topDraw_isFinite_iff {span : Binary64} (h : span.negative = false) :
    (span.div topDraw).finite?.isSome = true ↔ ¬ TooLong span := by
  obtain ⟨step, hstep, hshift⟩ : ∃ step, 0 < step ∧ ∀ n : Nat, n <<< 2045 = n * step :=
    ⟨_, Nat.two_pow_pos 2045, fun n => Nat.shiftLeft_eq n 2045⟩
  obtain ⟨hsig, hscale, -⟩ := span.canonical
  rw [div_isFinite_iff topDraw_magnitude_pos.ne', hshift, tooLong_iff h,
    ← Nat.mul_lt_mul_right (Nat.two_pow_pos 52)]
  have hleft : 2 * (span.magnitude * one) * 2 ^ 52 = span.magnitude * 2 ^ 53 * one := by ring
  have hright : (2 ^ 54 - 1) * (topDraw.magnitude * step) * 2 ^ 52 =
      (2 ^ 54 - 1) * (2 ^ 52 - 1) * step * one := by
    calc (2 ^ 54 - 1) * (topDraw.magnitude * step) * 2 ^ 52
        = (2 ^ 54 - 1) * step * (topDraw.magnitude * 2 ^ 52) := by ring
      _ = (2 ^ 54 - 1) * (2 ^ 52 - 1) * step * one := by rw [topDraw_magnitude]; ring
  rw [hleft, hright, Nat.mul_lt_mul_right Binary64.one_pos]
  rcases Nat.lt_or_eq_of_le hscale with hlt | heq
  · have hdouble : 2 * span.magnitude ≤ span.significand * step := by
      rw [← hshift]
      exact two_mul_shiftLeft_le span.significand hlt
    have hbound : span.significand * step ≤ (2 ^ 53 - 1) * step :=
      Nat.mul_le_mul_right _ (Nat.le_sub_one_of_lt hsig)
    exact iff_of_true (by omega) (by omega)
  · rw [magnitude, heq, hshift, Nat.mul_right_comm, Nat.mul_lt_mul_right hstep]
    omega

theorem scale_isFinite_iff {low high span : Binary64} (hlt : low < high)
    (h : high.sub low = .finite span) :
    (scale low high).finite?.isSome = true ↔ ¬ TooLong span := by
  rw [scale, h]
  exact div_topDraw_isFinite_iff (negative_of_sub hlt h)

theorem accepts_iff {low high span : Binary64} (hlt : low < high)
    (h : high.sub low = .finite span) : Accepts low high ↔ ¬ TooLong span := by
  rw [← scale_isFinite_iff hlt h]
  constructor
  · exact Accepts.finite
  · exact Accepts.mk (Int.le_of_lt hlt)

/-- The bounds pass the guard and are not taken. -/
def Refuses (low high : Binary64) : Prop :=
  low < high ∧ ∃ span ∈ (high.sub low).finite?, TooLong span

instance (low high : Binary64) : Decidable (Refuses low high) := inferInstanceAs (Decidable (_ ∧ _))

theorem refuses_iff {low high span : Binary64} (hlt : low < high)
    (h : high.sub low = .finite span) : Refuses low high ↔ TooLong span := by
  rw [Refuses, h]
  constructor
  · rintro ⟨-, _, hspan, hlong⟩
    cases hspan
    exact hlong
  · intro hlong
    exact ⟨hlt, span, rfl, hlong⟩

end Sampler

/-! ## Decoded bounds -/

namespace Instruction

variable {args : Arguments} {low high : Binary64} {decimals : Nat} {target : String}

theorem span_of_decodeGenerator {w : GeneratorWord}
    (h : decodeGenerator w args = .ok (.randomDecimal low high decimals target)) :
    ∃ span, high.sub low = .finite span := by
  cases w with
  | randomDecimal =>
    obtain ⟨_, -, h⟩ := bind_eq_ok_iff.mp h
    obtain ⟨_, -, h⟩ := bind_eq_ok_iff.mp h
    split at h
    · cases h
    · next hspan =>
      obtain ⟨_, -, h⟩ := bind_eq_ok_iff.mp h
      obtain ⟨_, -, h⟩ := bind_eq_ok_iff.mp h
      cases h
      cases hsub : high.sub low with
      | finite span => exact ⟨span, rfl⟩
      | infinite | notANumber => simp [hsub, Binary64.Extended.finite?] at hspan
  | randomString | randomDigits =>
    obtain ⟨_, -, h⟩ := bind_eq_ok_iff.mp h
    obtain ⟨_, -, h⟩ := bind_eq_ok_iff.mp h
    cases h
  | randomInt | hash =>
    obtain ⟨_, -, h⟩ := bind_eq_ok_iff.mp h
    obtain ⟨_, -, h⟩ := bind_eq_ok_iff.mp h
    obtain ⟨_, -, h⟩ := bind_eq_ok_iff.mp h
    cases h

theorem span_of_decode {e : Entry}
    (h : decode e = .generate (.randomDecimal low high decimals target)) :
    ∃ span, high.sub low = .finite span := by
  unfold decode at h
  split at h
  · next hi =>
    subst h
    cases decodesTo_of_decode? hi with
    | generate hg => exact span_of_decodeGenerator hg
  · cases h

end Instruction

namespace Strict

variable {low high span : Binary64} (hlt : low < high) (h : high.sub low = .finite span)

include hlt h

theorem decimal_of_guard (d : Draw) (decimals : Nat) :
    decimal d low high decimals =
      if Sampler.Accepts low high then .ok (d.decimal low high decimals)
      else .error .rangeOverflow := by
  have hguard : ¬ (high < low ∨ (high.sub low).finite?.isNone = true) := by
    rw [h]
    exact not_or.mpr ⟨(Int.le_of_lt hlt).not_gt, Bool.false_ne_true⟩
  have hvalue : low.sameValue high = false := beq_false_of_ne (Int.ne_of_lt hlt)
  simp only [decimal, Draw.decimal, if_neg hguard, hvalue, Bool.false_eq_true, if_false, sample]
  split <;> rfl

omit hlt h

/-- A number is drawn as in a step, unless the bounds are refused. -/
theorem decimal_eq (d : Draw) (low high : Binary64) (decimals : Nat) :
    decimal d low high decimals =
      if Sampler.Refuses low high then .error .rangeOverflow
      else .ok (d.decimal low high decimals) := by
  by_cases hguard : high < low ∨ (high.sub low).finite?.isNone = true
  · have hrefuses : ¬ Sampler.Refuses low high := by
      rintro ⟨hlt, span, hspan, -⟩
      rw [hspan] at hguard
      exact hguard.elim (Int.le_of_lt hlt).not_gt Bool.false_ne_true
    simp only [decimal, Draw.decimal, if_pos hguard, if_neg hrefuses]
    rfl
  · obtain ⟨hle, hfinite⟩ := not_or.mp hguard
    rcases Int.lt_or_eq_of_le (Int.not_lt.mp hle) with hlt | heq
    · cases hspan : high.sub low with
      | finite span =>
        rw [decimal_of_guard hlt hspan]
        simp only [Sampler.accepts_iff hlt hspan, Sampler.refuses_iff hlt hspan, ite_not]
      | infinite | notANumber => exact (hfinite (by rw [hspan]; rfl)).elim
    · have hvalue : low.sameValue high = true := beq_of_eq heq
      have hrefuses : ¬ Sampler.Refuses low high := fun h => Int.ne_of_lt h.1 heq
      simp only [decimal, Draw.decimal, if_neg hguard, hvalue, if_true, if_neg hrefuses]
      rfl

/-- Decoded bounds are drawn between unless their range is too long; then each draw fails. -/
theorem decimal_of_decode {e : Entry} {decimals : Nat} {target : String}
    (hdecode : Instruction.decode e = .generate (.randomDecimal low high decimals target))
    (hlt : low < high) :
    ∃ span, high.sub low = .finite span ∧ (Sampler.Accepts low high ↔ ¬ Sampler.TooLong span) ∧
      ∀ d, decimal d low high decimals =
        if Sampler.TooLong span then .error .rangeOverflow
        else .ok (d.decimal low high decimals) := by
  obtain ⟨span, hspan⟩ := Instruction.span_of_decode hdecode
  have haccepts := Sampler.accepts_iff hlt hspan
  refine ⟨span, hspan, haccepts, fun d => ?_⟩
  simp only [decimal_eq, Sampler.refuses_iff hlt hspan]

/-- The longest range that is drawn from. -/
theorem decimal_of_decode_longest :
    let high : Binary64 := ⟨false, 0x1FFFFFFFFFFFFD, 2045, by decide⟩
    Instruction.decode ⟨"Generator", "GenerateRandomDecimal",
        [.int 0, .string "1.7976931348623153e308", .int 2, .string "V"]⟩ =
          .generate (.randomDecimal (.zero false) high 2 "V") ∧
      Binary64.zero false < high ∧ Sampler.Accepts (.zero false) high ∧
      ∀ d, decimal d (.zero false) high 2 = .ok (d.decimal (.zero false) high 2) := by
  intro high
  have hdecode := @Instruction.decode_generatorEntry
    [.int 0, .string "1.7976931348623153e308", .int 2, .string "V"] .randomDecimal
    (.randomDecimal (.zero false) high 2 "V") (by decide +kernel)
  have hlt : Binary64.zero false < high := by decide +kernel
  obtain ⟨span, hspan, haccepts, hdecimal⟩ := decimal_of_decode hdecode hlt
  have hshort : ¬ Sampler.TooLong span := by
    have hsub : high.sub (.zero false) = .finite high := by decide +kernel
    cases hsub.symm.trans hspan
    decide
  refine ⟨hdecode, hlt, haccepts.mpr hshort, fun d => ?_⟩
  rw [hdecimal d, if_neg hshort]

/-- The bounds decode, and no draw between them succeeds. -/
theorem largest_bounds_refused :
    let high := Binary64.largest false
    Instruction.decode ⟨"Generator", "GenerateRandomDecimal",
        [.int 0, .string "1.7976931348623157e308", .int 2, .string "V"]⟩ =
          .generate (.randomDecimal (.zero false) high 2 "V") ∧
      Binary64.zero false < high ∧ ¬ Sampler.Accepts (.zero false) high ∧
      ∀ d, decimal d (.zero false) high 2 = .error .rangeOverflow := by
  intro high
  have hdecode := @Instruction.decode_generatorEntry
    [.int 0, .string "1.7976931348623157e308", .int 2, .string "V"] .randomDecimal
    (.randomDecimal (.zero false) high 2 "V") (by decide +kernel)
  have hlt : Binary64.zero false < high := by decide +kernel
  have hrefused : ¬ Sampler.Accepts (.zero false) high := by decide +kernel
  have hsub : high.sub (.zero false) = .finite high := by decide +kernel
  refine ⟨hdecode, hlt, hrefused, fun d => ?_⟩
  rw [decimal_of_guard hlt hsub, if_neg hrefused]

end Strict

end MockHttp
