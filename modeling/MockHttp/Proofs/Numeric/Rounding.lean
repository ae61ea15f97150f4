import Mathlib.Tactic.Ring
import MockHttp.Numeric.Binary64

/-! # Rounding to floating-point numbers

Rounding keeps the 53 leading binary digits of a count of units; what is cut off is rounded to the
nearest, a tie to the even neighbour. A natural number is kept as it is exactly when it is a
number of 53 binary digits times a power of two.
-/

namespace MockHttp.Binary64

/-! ## The nearest integer to a quotient -/

theorem le_nearestEven (num den : Nat) : num / den ≤ nearestEven num den := by
  unfold nearestEven
  dsimp only
  split <;> omega

theorem nearestEven_le (num den : Nat) : nearestEven num den ≤ num / den + 1 := by
  unfold nearestEven
  dsimp only
  split <;> omega

theorem nearestEven_mul_right (num den : Nat) {c : Nat} (hc : 0 < c) :
    nearestEven (num * c) (den * c) = nearestEven num den := by
  have hlt : 2 * (num % den * c) < den * c ↔ 2 * (num % den) < den := by
    rw [← Nat.mul_assoc, Nat.mul_lt_mul_right hc]
  have heq : 2 * (num % den * c) = den * c ↔ 2 * (num % den) = den := by
    rw [← Nat.mul_assoc, Nat.mul_left_inj hc.ne']
  simp only [nearestEven, Nat.mul_div_mul_right _ _ hc, Nat.mul_mod_mul_right, hlt, heq]

theorem nearestEven_mul_self (q : Nat) {den : Nat} (hden : 0 < den) :
    nearestEven (q * den) den = q := by
  simp [nearestEven, Nat.mul_div_cancel _ hden, hden]

/-! ## Rounding a quotient of units -/

theorem div_shiftLeft_lt (num den : Nat) :
    num / (den <<< ((num / den).log2 - 52)) < 2 ^ 53 := by
  rw [Nat.shiftLeft_eq, ← Nat.div_div_eq_div_mul, Nat.div_lt_iff_lt_mul (Nat.two_pow_pos _),
    ← Nat.pow_add]
  refine Nat.lt_of_lt_of_le Nat.lt_log2_self (Nat.pow_le_pow_right (by decide) ?_)
  omega

theorem le_div_shiftLeft {num den : Nat} (h : (num / den).log2 - 52 ≠ 0) :
    2 ^ 52 ≤ num / (den <<< ((num / den).log2 - 52)) := by
  have h0 : num / den ≠ 0 := by
    intro h0
    rw [h0] at h
    exact h rfl
  rw [Nat.shiftLeft_eq, ← Nat.div_div_eq_div_mul, Nat.le_div_iff_mul_le (Nat.two_pow_pos _),
    ← Nat.pow_add]
  refine Nat.le_trans (Nat.pow_le_pow_right (by decide) ?_) (Nat.log2_self_le h0)
  omega

theorem pack_eq_finite {negative : Bool} {significand scale : Nat}
    (h : significand < 0x20000000000000 ∧ scale ≤ 2045 ∧
      (scale = 0 ∨ 0x10000000000000 ≤ significand)) :
    pack negative significand scale = .finite ⟨negative, significand, scale, h⟩ :=
  dif_pos h

/-- Below the largest number, rounding gives the significand that is nearest at its scale. -/
theorem roundUnits_eq_finite (negative : Bool) {num den : Nat}
    (hscale : (num / den).log2 - 52 ≤ 2044) :
    ∃ x, roundUnits negative num den = .finite x ∧ x.negative = negative ∧
      x.magnitude = nearestEven num (den <<< ((num / den).log2 - 52)) *
        2 ^ ((num / den).log2 - 52) := by
  have hlow := le_nearestEven num (den <<< ((num / den).log2 - 52))
  have hhigh := nearestEven_le num (den <<< ((num / den).log2 - 52))
  have hlt := div_shiftLeft_lt num den
  have hle := @le_div_shiftLeft num den
  unfold roundUnits
  dsimp only
  generalize (num / den).log2 - 52 = scale at *
  generalize nearestEven num (den <<< scale) = significand at *
  by_cases hcarry : significand = 0x20000000000000
  · refine ⟨⟨negative, 0x10000000000000, scale + 1, by omega⟩, ?_, rfl, ?_⟩
    · simp only [hcarry, if_true]
      exact pack_eq_finite _
    · rw [magnitude, Nat.shiftLeft_eq, hcarry, Nat.pow_succ]
      ring
  · have h : significand < 0x20000000000000 ∧ scale ≤ 2045 ∧
        (scale = 0 ∨ 0x10000000000000 ≤ significand) := by omega
    refine ⟨⟨negative, significand, scale, h⟩, ?_, rfl, ?_⟩
    · simp only [hcarry, if_false]
      exact pack_eq_finite h
    · rw [magnitude, Nat.shiftLeft_eq]

/-! ## Integers -/

/-- The number with its 53 leading binary digits; the others are rounded away. -/
def roundNat (n : Nat) : Nat := nearestEven n (2 ^ (n.log2 - 52)) * 2 ^ (n.log2 - 52)

def roundInt (n : Int) : Int := n.sign * roundNat n.natAbs

theorem natAbs_roundInt (n : Int) : (roundInt n).natAbs = roundNat n.natAbs := by
  rcases Decidable.eq_or_ne n 0 with rfl | hn
  · rfl
  · rw [roundInt, Int.natAbs_mul, Int.natAbs_sign_of_ne_zero hn, Nat.one_mul, Int.natAbs_natCast]

theorem roundInt_natCast (n : Nat) : roundInt n = roundNat n := by
  rcases Nat.eq_zero_or_pos n with rfl | hn
  · rfl
  · rw [roundInt, Int.sign_eq_one_of_pos (by exact_mod_cast hn), Int.one_mul, Int.natAbs_natCast]

theorem one_eq : one = 2 ^ 1074 := by
  -- for any exponent, so that the power is not evaluated
  have shift (k : Nat) : 1 <<< k = 2 ^ k := Nat.one_shiftLeft k
  exact shift 1074

theorem one_pos : 0 < one := by
  rw [one_eq]
  exact pow_pos Nat.two_pos 1074

theorem log2_mul_two_pow {n : Nat} (h : n ≠ 0) (k : Nat) : (n * 2 ^ k).log2 = n.log2 + k := by
  have hk := Nat.two_pow_pos k
  rw [Nat.log2_eq_iff (Nat.mul_ne_zero h hk.ne'), Nat.add_right_comm, Nat.pow_add 2 n.log2,
    Nat.pow_add 2 (n.log2 + 1)]
  exact ⟨Nat.mul_le_mul_right _ (Nat.log2_self_le h),
    Nat.mul_lt_mul_of_pos_right Nat.lt_log2_self hk⟩

theorem log2_lt_of_le {n : Nat} (h : n ≤ 2 ^ 64) : n.log2 < 1000 := by
  rcases Nat.eq_zero_or_pos n with rfl | hpos
  · simp
  · have hlog := (Nat.log2_lt (k := 65) hpos.ne').mpr (by omega)
    omega

theorem ofRatio_one_eq_finite (negative : Bool) {n : Nat} (hlog : n.log2 < 1000) :
    ∃ x, ofRatio negative n 1 = .finite x ∧ x.negative = negative ∧
      x.magnitude = roundNat n * one := by
  rcases Nat.eq_zero_or_pos n with rfl | hn
  · refine ⟨zero negative, ?_, rfl, ?_⟩
    · rw [ofRatio, Nat.zero_mul]
      rfl
    · rw [show roundNat 0 = 0 from rfl, Nat.zero_mul]
      rfl
  have hunits : (n * one / 1).log2 - 52 = n.log2 + 1022 := by
    rw [Nat.div_one, one_eq, log2_mul_two_pow hn.ne']
    omega
  have hscale : (n * one / 1).log2 - 52 ≤ 2044 := by omega
  obtain ⟨x, hx, hs, hm⟩ := roundUnits_eq_finite negative hscale
  refine ⟨x, hx, hs, ?_⟩
  rw [hm, hunits, Nat.one_shiftLeft, roundNat]
  rcases Nat.le_total n.log2 52 with hsmall | hlarge
  · have hexp : 52 - n.log2 + (n.log2 + 1022) = 1074 := by omega
    have hsplit : n * one = n * 2 ^ (52 - n.log2) * 2 ^ (n.log2 + 1022) := by
      rw [Nat.mul_assoc, ← Nat.pow_add, hexp, one_eq]
    have hzero : n.log2 - 52 = 0 := by omega
    have hself : nearestEven n 1 = n := by
      simpa using nearestEven_mul_self n Nat.one_pos
    rw [hsplit, nearestEven_mul_self _ (Nat.two_pow_pos _), ← hsplit, hzero, Nat.pow_zero, hself,
      Nat.mul_one]
  · have hexp : n.log2 - 52 + 1074 = n.log2 + 1022 := by omega
    have hsplit : 2 ^ (n.log2 + 1022) = 2 ^ (n.log2 - 52) * one := by
      rw [one_eq, ← Nat.pow_add, hexp]
    rw [hsplit, nearestEven_mul_right _ _ one_pos, Nat.mul_assoc]

section OfInt

variable {n : Int}

theorem ofInt_negative (h : n.natAbs.log2 < 1000) : (ofInt n).negative = decide (n < 0) := by
  obtain ⟨x, hx, hs, -⟩ := ofRatio_one_eq_finite (decide (n < 0)) h
  rw [ofInt, hx]
  exact hs

theorem ofInt_magnitude (h : n.natAbs.log2 < 1000) :
    (ofInt n).magnitude = roundNat n.natAbs * one := by
  obtain ⟨x, hx, -, hm⟩ := ofRatio_one_eq_finite (decide (n < 0)) h
  rw [ofInt, hx]
  exact hm

theorem ofInt_truncate (h : n.natAbs.log2 < 1000) : (ofInt n).truncate = roundInt n := by
  have hone : (one : Int) ≠ 0 := by exact_mod_cast one_pos.ne'
  rw [truncate, units, ofInt_negative h, ofInt_magnitude h, roundInt]
  rcases Int.lt_trichotomy n 0 with hn | rfl | hn
  · simp [hn, Int.sign_eq_neg_one_of_neg hn, Int.neg_tdiv, Int.mul_tdiv_cancel _ hone]
  · simp [roundNat, nearestEven]
  · simp [Int.not_lt.mpr hn.le, Int.sign_eq_one_of_pos hn, Int.mul_tdiv_cancel _ hone]

end OfInt

/-! ## What is kept -/

/-- All but 53 binary digits are zeros at the end. -/
def Has53Digits (n : Nat) : Prop := ∃ m k, m < 2 ^ 53 ∧ n = m * 2 ^ k

theorem has53Digits_of_le {n : Nat} (h : n ≤ 2 ^ 53) : Has53Digits n := by
  rcases Nat.lt_or_eq_of_le h with h | rfl
  · exact ⟨n, 0, h, by simp⟩
  · exact ⟨1, 53, by norm_num, by simp⟩

theorem has53Digits_roundNat (n : Nat) : Has53Digits (roundNat n) := by
  have hlt : n / 2 ^ (n.log2 - 52) < 2 ^ 53 := by
    simpa [Nat.one_shiftLeft] using div_shiftLeft_lt n 1
  have hle := nearestEven_le n (2 ^ (n.log2 - 52))
  rw [roundNat]
  rcases Nat.lt_or_eq_of_le (Nat.le_trans hle hlt) with hsig | hsig
  · exact ⟨_, _, hsig, rfl⟩
  · refine ⟨1, 53 + (n.log2 - 52), by norm_num, ?_⟩
    rw [Nat.one_mul, Nat.pow_add, ← hsig]

theorem roundNat_eq_self_iff {n : Nat} : roundNat n = n ↔ Has53Digits n := by
  constructor
  · intro h
    rw [← h]
    exact has53Digits_roundNat n
  · rintro ⟨m, k, hm, rfl⟩
    rcases Nat.eq_zero_or_pos m with rfl | hpos
    · simp [roundNat, nearestEven]
    have hlog : m.log2 < 53 := (Nat.log2_lt hpos.ne').mpr hm
    have hk : (m * 2 ^ k).log2 - 52 ≤ k := by
      rw [log2_mul_two_pow hpos.ne']
      omega
    have hsplit : m * 2 ^ k =
        m * 2 ^ (k - ((m * 2 ^ k).log2 - 52)) * 2 ^ ((m * 2 ^ k).log2 - 52) := by
      rw [Nat.mul_assoc, ← Nat.pow_add, Nat.sub_add_cancel hk]
    rw [roundNat]
    generalize (m * 2 ^ k).log2 - 52 = j at *
    rw [hsplit, nearestEven_mul_self _ (Nat.two_pow_pos j)]

theorem roundInt_eq_self_iff {n : Int} : roundInt n = n ↔ Has53Digits n.natAbs := by
  rw [← roundNat_eq_self_iff]
  constructor
  · intro h
    rw [← natAbs_roundInt, h]
  · intro h
    rw [roundInt, h, Int.sign_mul_natAbs]

def integerLimit : Nat := 2 ^ 63 - 512

theorem le_roundNat_iff {n : Nat} : 2 ^ 63 ≤ roundNat n ↔ integerLimit ≤ n := by
  rw [integerLimit]
  have hlow := le_nearestEven n (2 ^ (n.log2 - 52))
  have hhigh := nearestEven_le n (2 ^ (n.log2 - 52))
  rcases Nat.lt_or_ge n (2 ^ 62) with hn | hn
  · have hround : roundNat n ≤ n + 2 ^ (n.log2 - 52) := by
      calc roundNat n ≤ (n / 2 ^ (n.log2 - 52) + 1) * 2 ^ (n.log2 - 52) :=
            Nat.mul_le_mul_right _ hhigh
        _ ≤ n + 2 ^ (n.log2 - 52) := by
            rw [Nat.add_mul, Nat.one_mul]
            exact Nat.add_le_add_right (Nat.div_mul_le_self ..) _
    have hlog : n.log2 < 63 := by
      rcases Nat.eq_zero_or_pos n with rfl | hpos
      · simp
      · exact (Nat.log2_lt hpos.ne').mpr (by omega)
    have hstep : 2 ^ (n.log2 - 52) ≤ 2 ^ 10 := Nat.pow_le_pow_right (by decide) (by omega)
    omega
  rcases Nat.lt_or_ge n (2 ^ 63) with hn' | hn'
  · have hlog : n.log2 = 62 := (Nat.log2_eq_iff (by omega)).mpr ⟨hn, hn'⟩
    simp only [roundNat, hlog, nearestEven, Nat.reduceSub, Nat.reducePow]
    split <;> omega
  · have hlog : 63 ≤ n.log2 := (Nat.le_log2 (by omega)).mpr hn'
    have hdigits : 2 ^ 52 ≤ n / 2 ^ (n.log2 - 52) := by
      rw [Nat.le_div_iff_mul_le (Nat.two_pow_pos _), ← Nat.pow_add,
        Nat.add_sub_cancel' (by omega)]
      exact Nat.log2_self_le (by omega)
    have hround : 2 ^ 63 ≤ roundNat n := by
      calc 2 ^ 63 = 2 ^ 52 * 2 ^ 11 := by norm_num
        _ ≤ 2 ^ 52 * 2 ^ (n.log2 - 52) :=
            Nat.mul_le_mul_left _ (Nat.pow_le_pow_right (by decide) (by omega))
        _ ≤ roundNat n := Nat.mul_le_mul_right _ (Nat.le_trans hdigits hlow)
    omega

end MockHttp.Binary64
