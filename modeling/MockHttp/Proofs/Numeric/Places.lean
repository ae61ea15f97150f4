import MockHttp.Numeric.Arithmetic
import MockHttp.Proofs.Numeric.Decimal

/-! # Numbers with few decimals

A number is rounded to so many decimals by scaling it with a power of ten, rounding the product to
an integer, and scaling back. Where no step overflows, the outcome is the number nearest to a
decimal with so many digits behind the point. Whatever overflows is clamped to a bound of the range.
-/

namespace MockHttp.Binary64

variable {x y low high : Binary64} {n : Nat}

/-! ## Exact operations -/

theorem roundUnits_mul_right (negative : Bool) (num den : Nat) {c : Nat} (hc : 0 < c) :
    roundUnits negative (num * c) (den * c) = roundUnits negative num den := by
  have hshift (k : Nat) : (den * c) <<< k = (den <<< k) * c := by
    rw [Nat.shiftLeft_eq, Nat.shiftLeft_eq]
    ring
  simp only [roundUnits, Nat.mul_div_mul_right _ _ hc, hshift, nearestEven_mul_right _ _ hc]

/-- Rounding keeps what is a number already. -/
theorem exists_roundUnits_magnitude (x : Binary64) (negative : Bool) :
    ∃ y, roundUnits negative x.magnitude 1 = .finite y ∧ y.magnitude = x.magnitude := by
  refine ⟨{ x with negative := negative }, ?_, rfl⟩
  rw [roundUnits_eq_finite_iff Nat.one_pos]
  constructor
  · have hle := x.magnitude_le_largest false
    obtain ⟨step, hstep, hshift⟩ : ∃ step, 0 < step ∧ ∀ n : Nat, n <<< 2045 = n * step :=
      ⟨_, Nat.two_pow_pos 2045, fun n => Nat.shiftLeft_eq n 2045⟩
    have hlargest : (largest false).magnitude = 0x1FFFFFFFFFFFFF * step := hshift _
    rw [BelowOverflow, hshift]
    omega
  · have hzero : distance { x with negative := negative } x.magnitude 1 = 0 := by
      rw [distance, Nat.mul_one]
      exact Int.natAbs_eq_zero.mpr (Int.sub_self _)
    refine ⟨rfl, fun y => by rw [hzero]; exact Nat.zero_le _, fun y hne htie => ?_⟩
    rw [hzero] at htie
    have heq : y.magnitude = x.magnitude := by
      unfold distance at htie
      omega
    exact (hne heq).elim

theorem magnitude_ofNat (h : n ≤ 2 ^ 53) : (ofNat n).magnitude = n * one := by
  have hunits : (ofInt n).units = (n * one : Nat) := by
    rw [units_ofInt_of_le (by simpa using h)]
    exact (Int.natCast_mul ..).symm
  rw [ofNat, ← natAbs_units, hunits, Int.natAbs_natCast]

theorem one_dvd_magnitude (h : 2 ^ 53 * one ≤ x.magnitude) : one ∣ x.magnitude := by
  have hdvd (k : Nat) (hk : 2 ^ 53 * 2 ^ k ≤ x.magnitude) : 2 ^ k ∣ x.magnitude := by
    refine x.has53Digits_magnitude.two_pow_dvd (Nat.le_trans ?_ hk)
    rw [Nat.pow_add]
    exact Nat.mul_le_mul_right _ (by decide)
  rw [one_eq] at h ⊢
  exact hdvd 1074 h

/-! ## Rounding to an integer -/

/-- The integer that rounding gives is a number. -/
theorem exists_magnitude_eq_round (x : Binary64) :
    ∃ y : Binary64, y.magnitude = (2 * x.magnitude + one) / (2 * one) * one := by
  have hone := one_pos
  rcases Nat.lt_or_ge x.magnitude (2 ^ 53 * one) with hlt | hge
  · have hdigits : (2 * x.magnitude + one) / (2 * one) < 2 ^ 53 + 1 := by
      rw [Nat.div_lt_iff_lt_mul (by omega)]
      calc 2 * x.magnitude + one < 2 * (2 ^ 53 * one) + 2 * one := by omega
        _ = (2 ^ 53 + 1) * (2 * one) := by ring
    exact ⟨_, magnitude_ofNat (Nat.le_of_lt_succ hdigits)⟩
  · obtain ⟨q, hq⟩ := one_dvd_magnitude hge
    have hsplit : 2 * x.magnitude + one = one + 2 * one * q := by
      rw [hq]
      ring
    have hquotient : (2 * x.magnitude + one) / (2 * one) = q := by
      rw [hsplit, Nat.add_mul_div_left _ _ (by omega), Nat.div_eq_of_lt (by omega), Nat.zero_add]
    exact ⟨x, by rw [hquotient, hq, Nat.mul_comm]⟩

theorem magnitude_round (x : Binary64) :
    x.round.magnitude = (2 * x.magnitude + one) / (2 * one) * one := by
  obtain ⟨y, hy⟩ := exists_magnitude_eq_round x
  obtain ⟨z, hround, hz⟩ := exists_roundUnits_magnitude y x.negative
  have hfinite : x.round = z := by
    rw [round, ofRatio, ← hy, hround]
    rfl
  rw [hfinite, hz, hy]

/-! ## Rounding to decimals -/

/-- The number nearest to a decimal with so many digits behind the point. -/
def HasPlaces (x : Binary64) (places : Nat) : Prop :=
  ∃ digits, ofDecimal x.negative digits (-(places : Int)) = .finite x

theorem magnitude_powerOfTen (h : n ≤ 15) : (powerOfTen n).magnitude = 10 ^ n * one := by
  have hle : 10 ^ n ≤ 2 ^ 53 :=
    Nat.le_trans (Nat.pow_le_pow_right (by decide) h) (by decide : 10 ^ 15 ≤ 2 ^ 53)
  have hpow : Nat.pow 10 n = 10 ^ n := Nat.pow_eq
  rw [powerOfTen, Nat.min_eq_left (by omega), hpow, magnitude_ofNat hle]

theorem hasPlaces_of_div (hn : n ≤ 15) (h : x.round.div (powerOfTen n) = .finite y) :
    y.HasPlaces n := by
  have hone := one_pos
  have hpow : 0 < 10 ^ n := Nat.pow_pos (by decide)
  have hfactor := magnitude_powerOfTen hn
  have hne : (powerOfTen n).magnitude ≠ 0 := by
    rw [hfactor]
    exact (Nat.mul_pos hpow hone).ne'
  rw [div, if_neg hne, hfactor, magnitude_round, roundUnits_mul_right _ _ _ hone] at h
  refine ⟨(2 * x.magnitude + one) / (2 * one), ?_⟩
  have hunits (k : Nat) : decimalUnits k (-(n : Int)) = k * one := by
    rw [decimalUnits, Int.toNat_neg_natCast, Nat.pow_zero, Nat.mul_one]
  have hpart : decimalPart (-(n : Int)) = 10 ^ n := by
    rw [decimalPart, Int.neg_neg, Int.toNat_natCast]
  rw [ofDecimal_eq_roundUnits, hunits, hpart, negative_of_roundUnits h, h]

/-! ## Clamping -/

theorem Extended.clamp_mem (h : low ≤ high) (x : Extended) :
    low ≤ x.clamp low high ∧ x.clamp low high ≤ high := by
  have hlow : low ≤ low := Int.le_refl _
  have hhigh : high ≤ high := Int.le_refl _
  cases x with
  | finite x =>
    simp only [clamp]
    split
    · exact ⟨hlow, h⟩
    · next hbelow =>
      split
      · exact ⟨h, hhigh⟩
      · next habove => exact ⟨Int.not_lt.mp hbelow, Int.not_lt.mp habove⟩
  | infinite negative =>
    simp only [clamp]
    split
    · exact ⟨hlow, h⟩
    · exact ⟨h, hhigh⟩
  | notANumber => exact ⟨hlow, h⟩

theorem Extended.clamp_cases (x : Extended) (low high : Binary64) :
    x.clamp low high = low ∨ x.clamp low high = high ∨ x = .finite (x.clamp low high) := by
  cases x with
  | finite x =>
    simp only [clamp]
    split
    · exact .inl rfl
    · split
      · exact .inr (.inl rfl)
      · exact .inr (.inr rfl)
  | infinite negative => cases negative <;> simp [clamp]
  | notANumber => exact .inl rfl

end MockHttp.Binary64
