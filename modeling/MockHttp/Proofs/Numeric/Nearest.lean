import MockHttp.Proofs.Numeric.Representation
import MockHttp.Proofs.Numeric.Rounding

/-! # The nearest number

A rounded integer is nearest among all integers of 53 binary digits. Everything else about the
order of rounded integers follows from this: rounding is monotone, and nothing is rounded to an
integer below `2 ^ 53` but that integer.
-/

namespace MockHttp.Binary64

theorem nearestEven_nearest (num : Nat) {den : Nat} (hden : 0 < den) (c : Nat) :
    ((nearestEven num den * den : Nat) - num : Int).natAbs ≤
      ((c * den : Nat) - num : Int).natAbs := by
  have hsplit := Nat.div_add_mod' num den
  have hmod := Nat.mod_lt num hden
  unfold nearestEven
  dsimp only
  generalize num / den = q at *
  generalize num % den = r at *
  have hnext : (q + 1) * den = q * den + den := Nat.succ_mul ..
  rcases Nat.lt_or_ge q c with hc | hc
  · have hmul : (q + 1) * den ≤ c * den := Nat.mul_le_mul_right den hc
    split <;> omega
  · have hmul : c * den ≤ q * den := Nat.mul_le_mul_right den hc
    split <;> omega

section Natural

variable {m n : Nat}

theorem has53Digits_magnitude (x : Binary64) : Has53Digits x.magnitude :=
  ⟨x.significand, x.scale, x.canonical.1, x.magnitude_eq⟩

theorem has53Digits_zero : Has53Digits 0 := has53Digits_of_le (Nat.zero_le _)

theorem Has53Digits.two_pow_dvd (h : Has53Digits m) {k : Nat} (hm : 2 ^ (52 + k) ≤ m) :
    2 ^ k ∣ m := by
  obtain ⟨a, j, ha, rfl⟩ := h
  have hlt : 2 ^ (52 + k) < 2 ^ (53 + j) := by
    calc 2 ^ (52 + k) ≤ a * 2 ^ j := hm
      _ < 2 ^ 53 * 2 ^ j := Nat.mul_lt_mul_of_pos_right ha (Nat.two_pow_pos j)
      _ = 2 ^ (53 + j) := (Nat.pow_add ..).symm
  have hexp := (Nat.pow_lt_pow_iff_right Nat.one_lt_two).mp hlt
  exact Nat.dvd_mul_left_of_dvd (Nat.pow_dvd_pow 2 (by omega)) a

theorem roundNat_nearest (h : Has53Digits m) :
    ((roundNat n : Int) - n).natAbs ≤ ((m : Int) - n).natAbs := by
  rw [roundNat]
  have hnearest := nearestEven_nearest n (Nat.two_pow_pos (n.log2 - 52))
  by_cases hdvd : 2 ^ (n.log2 - 52) ∣ m
  · obtain ⟨c, rfl⟩ := hdvd
    rw [Nat.mul_comm _ c]
    exact hnearest c
  · have hm : m < 2 ^ (52 + (n.log2 - 52)) := Nat.lt_of_not_le fun hle => hdvd (h.two_pow_dvd hle)
    have hcut : n.log2 - 52 ≠ 0 := fun hzero => hdvd (by rw [hzero]; exact Nat.one_dvd m)
    have hn : 2 ^ (52 + (n.log2 - 52)) ≤ n := by
      rw [Nat.add_sub_cancel' (by omega)]
      refine Nat.log2_self_le ?_
      rintro rfl
      exact hcut rfl
    have hstep := hnearest (2 ^ 52)
    rw [← Nat.pow_add] at hstep
    omega

end Natural

section Integer

variable {a b m n : Int}

theorem roundInt_neg (n : Int) : roundInt (-n) = -roundInt n := by
  rw [roundInt, roundInt, Int.sign_neg, Int.natAbs_neg, Int.neg_mul]

theorem has53Digits_roundInt (n : Int) : Has53Digits (roundInt n).natAbs := by
  rw [natAbs_roundInt]
  exact has53Digits_roundNat n.natAbs

theorem roundInt_nearest (h : Has53Digits m.natAbs) :
    (roundInt n - n).natAbs ≤ (m - n).natAbs := by
  have hnat (k : Nat) {m : Int} (h : Has53Digits m.natAbs) :
      ((roundNat k : Int) - k).natAbs ≤ (m - k).natAbs := by
    rcases Int.le_total 0 m with hm | hm
    · have hround := @roundNat_nearest _ k h
      omega
    · have hround := @roundNat_nearest _ k has53Digits_zero
      omega
  rcases Int.natAbs_eq n with hn | hn <;> rw [hn]
  · rw [roundInt_natCast]
    exact hnat n.natAbs h
  · rw [roundInt_neg, roundInt_natCast]
    have hround := @hnat n.natAbs (-m) (by rwa [Int.natAbs_neg])
    omega

/-- The midpoint between two different roundings separates the integers. -/
theorem roundInt_mono (h : a ≤ b) : roundInt a ≤ roundInt b := by
  apply Int.not_lt.mp
  intro hlt
  have ha := @roundInt_nearest _ a (has53Digits_roundInt b)
  have hb := @roundInt_nearest _ b (has53Digits_roundInt a)
  have heq : a = b := by omega
  subst heq
  exact Int.lt_irrefl _ hlt

theorem lt_of_roundInt_lt (h : roundInt a < roundInt b) : a < b := by
  apply Int.not_le.mp
  intro hle
  exact Int.not_lt.mpr (roundInt_mono hle) h

theorem roundInt_of_lt (h : n.natAbs < 2 ^ 53) : roundInt n = n :=
  roundInt_eq_self_iff.mpr (has53Digits_of_le h.le)

/-- Both neighbours of the number are numbers, and one of them is nearer to any other integer. -/
theorem eq_of_roundInt_eq (ha : a.natAbs < 2 ^ 53) (h : roundInt a = roundInt b) : a = b := by
  rw [roundInt_of_lt ha] at h
  have hup := @roundInt_nearest (a + 1) b (has53Digits_of_le (by omega))
  have hdown := @roundInt_nearest (a - 1) b (has53Digits_of_le (by omega))
  omega

end Integer

/-! ## Values of integers -/

theorem units_ofInt {n : Int} (h : n.natAbs.log2 < 1000) : (ofInt n).units = roundInt n * one := by
  rw [units, ofInt_negative h, ofInt_magnitude h, roundInt]
  rcases Int.lt_trichotomy n 0 with hn | rfl | hn
  · simp [hn, Int.sign_eq_neg_one_of_neg hn]
  · rfl
  · simp [Int.not_lt.mpr hn.le, Int.sign_eq_one_of_pos hn]

theorem units_ofInt_of_le {n : Int} (h : n.natAbs ≤ 2 ^ 53) : (ofInt n).units = n * one := by
  have hround : roundInt n = n := roundInt_eq_self_iff.mpr (has53Digits_of_le h)
  rw [units_ofInt (log2_lt_of_le (by omega)), hround]

end MockHttp.Binary64
