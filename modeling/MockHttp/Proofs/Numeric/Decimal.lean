import MockHttp.Numeric.Literal
import MockHttp.Proofs.Numeric.NearestEven

/-! # Decimals and the numbers nearest to them

A decimal is rounded once, as the quotient that it stands for. The bounds on its leading digit only
keep the powers of ten small: beyond them rounding overflows or gives zero anyway.
-/

namespace MockHttp

namespace Digits

theorem lt_pow_length (n : Nat) : n < 10 ^ (ofNat n).length :=
  (Nat.length_toDigits_le_iff (by decide) Nat.length_toDigits_pos).mp Nat.le.refl

theorem pow_length_le {n k : Nat} (hn : n ≠ 0) (h : (ofNat n).length = k + 1) : 10 ^ k ≤ n := by
  apply Nat.le_of_not_lt
  intro hlt
  rcases Nat.eq_zero_or_pos k with rfl | hk
  · omega
  · have hle := (Nat.length_toDigits_le_iff (by decide) hk).mpr hlt
    unfold ofNat at h
    omega

theorem length_ofNat_iff {n k : Nat} (hn : n ≠ 0) :
    (ofNat n).length = k + 1 ↔ 10 ^ k ≤ n ∧ n < 10 ^ (k + 1) := by
  constructor
  · intro h
    exact ⟨pow_length_le hn h, h ▸ lt_pow_length n⟩
  · rintro ⟨hlow, hhigh⟩
    have hle : (ofNat n).length ≤ k + 1 :=
      (Nat.length_toDigits_le_iff (by decide) k.succ_pos).mpr hhigh
    have hlt : ¬ (ofNat n).length ≤ k := by
      intro h
      have hpow : 10 ^ (ofNat n).length ≤ 10 ^ k := Nat.pow_le_pow_right (by decide) h
      exact Nat.not_le.mpr (lt_pow_length n) (Nat.le_trans hpow hlow)
    omega

end Digits

namespace Binary64

variable {negative : Bool} {num den digits : Nat} {exponent : Int} {x : Binary64}

theorem roundUnits_of_lt (negative : Bool) (h : 2 * num < den) :
    roundUnits negative num den = .finite (zero negative) := by
  have hquotient : num / den = 0 := Nat.div_eq_of_lt (by omega)
  have hround : nearestEven num den = 0 := by
    rw [nearestEven, hquotient, Nat.mod_eq_of_lt (by omega), if_pos (.inl h)]
  rw [roundUnits, hquotient]
  have hscale : Nat.log2 0 - 52 = 0 := rfl
  rw [hscale, Nat.shiftLeft_zero, hround]
  rfl

/-- The units of a decimal as a quotient: a negative exponent goes into the denominator. -/
def decimalUnits (digits : Nat) (exponent : Int) : Nat := digits * 10 ^ exponent.toNat * one

def decimalPart (exponent : Int) : Nat := 10 ^ (-exponent).toNat

theorem decimalPart_pos (exponent : Int) : 0 < decimalPart exponent := Nat.pow_pos (by decide)

theorem not_below_of_large (hdigits : digits ≠ 0)
    (h : 310 < exponent + (Digits.ofNat digits).length) :
    ¬ BelowOverflow (decimalUnits digits exponent) (decimalPart exponent) := by
  obtain ⟨k, hk⟩ := Nat.exists_eq_succ_of_ne_zero
    fun hlength => Digits.ofNat_ne_nil digits (List.length_eq_zero_iff.mp hlength)
  have hlead := Digits.pow_length_le hdigits hk
  have hexponent : 310 + (-exponent).toNat ≤ k + exponent.toNat := by omega
  have hlarge : 10 ^ 310 * decimalPart exponent ≤ digits * 10 ^ exponent.toNat := by
    calc 10 ^ 310 * decimalPart exponent
        = 10 ^ (310 + (-exponent).toNat) := by rw [Nat.pow_add, decimalPart]
      _ ≤ 10 ^ (k + exponent.toNat) := Nat.pow_le_pow_right (by decide) hexponent
      _ = 10 ^ k * 10 ^ exponent.toNat := Nat.pow_add ..
      _ ≤ digits * 10 ^ exponent.toNat := Nat.mul_le_mul_right _ hlead
  have htop : (2 ^ 54 - 1) * 2 ^ 971 ≤ 2 * 10 ^ 310 := by decide +kernel
  have hshift (n j k : Nat) : n <<< (j + k) = 2 ^ j * (n * 2 ^ k) := by
    rw [Nat.shiftLeft_eq, Nat.pow_add]
    ring
  have hsplit : 2045 = 971 + 1074 := rfl
  rw [BelowOverflow, Nat.not_lt, hsplit, hshift, ← one_eq]
  generalize 2 ^ 971 = a at *
  generalize 10 ^ 310 = b at *
  calc (2 ^ 54 - 1) * (a * (decimalPart exponent * one))
      = (2 ^ 54 - 1) * a * (decimalPart exponent * one) := (Nat.mul_assoc ..).symm
    _ ≤ 2 * b * (decimalPart exponent * one) := Nat.mul_le_mul_right _ htop
    _ = 2 * (b * decimalPart exponent * one) := by ring
    _ ≤ 2 * decimalUnits digits exponent :=
        Nat.mul_le_mul_left 2 (Nat.mul_le_mul_right one hlarge)

theorem units_lt_of_small (h : exponent + (Digits.ofNat digits).length < -330) :
    2 * decimalUnits digits exponent < decimalPart exponent := by
  have hpos : exponent.toNat = 0 := by omega
  have hone : 2 * one ≤ 10 ^ 331 := by
    rw [one_eq]
    decide +kernel
  have hone_pos := one_pos
  rw [decimalUnits, decimalPart, hpos, Nat.pow_zero, Nat.mul_one]
  have hexponent : 331 + (Digits.ofNat digits).length ≤ (-exponent).toNat := by omega
  calc 2 * (digits * one)
      = digits * (2 * one) := Nat.mul_left_comm ..
    _ < 10 ^ (Digits.ofNat digits).length * (2 * one) :=
        Nat.mul_lt_mul_of_pos_right (Digits.lt_pow_length digits) (by omega)
    _ ≤ 10 ^ (Digits.ofNat digits).length * 10 ^ 331 := Nat.mul_le_mul_left _ hone
    _ = 10 ^ (331 + (Digits.ofNat digits).length) := by rw [Nat.mul_comm, ← Nat.pow_add]
    _ ≤ 10 ^ (-exponent).toNat := Nat.pow_le_pow_right (by decide) hexponent

/-- Decimals are rounded as quotients. -/
theorem ofDecimal_eq_roundUnits (negative : Bool) (digits : Nat) (exponent : Int) :
    ofDecimal negative digits exponent =
      roundUnits negative (decimalUnits digits exponent) (decimalPart exponent) := by
  have hpart := decimalPart_pos exponent
  unfold ofDecimal
  dsimp only
  split
  · next hzero =>
    have hunits : decimalUnits digits exponent = 0 := by simp [decimalUnits, hzero]
    rw [hunits, roundUnits_of_lt negative hpart]
  split
  · next hzero hlarge =>
    rw [roundUnits_of_not_below negative hpart (not_below_of_large hzero hlarge)]
  split
  · next hsmall => rw [roundUnits_of_lt negative (units_lt_of_small hsmall)]
  split
  · next hpos =>
    have hneg : (-exponent).toNat = 0 := by omega
    rw [ofRatio, decimalUnits, decimalPart, hneg, Nat.pow_zero]
    rfl
  · next hneg =>
    have hpos : exponent.toNat = 0 := by omega
    rw [ofRatio, decimalUnits, decimalPart, hpos, Nat.pow_zero, Nat.mul_one]
    rfl

theorem ofDecimal_eq_finite_iff : ofDecimal negative digits exponent = .finite x ↔
    BelowOverflow (decimalUnits digits exponent) (decimalPart exponent) ∧
      IsNearest negative (decimalUnits digits exponent) (decimalPart exponent) x := by
  rw [ofDecimal_eq_roundUnits, roundUnits_eq_finite_iff (decimalPart_pos exponent)]

end Binary64

end MockHttp
