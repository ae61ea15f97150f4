import MockHttp.Proofs.Numeric.Nearest

/-! # The integer part of a number

Truncation goes toward zero. What it leaves of a number has no more than 53 binary digits, so
rounding keeps it.
-/

namespace MockHttp.Binary64

/-- The integer has the sign of the number, and its magnitude is the largest one not beyond. -/
structure IsTruncation (x : Binary64) (t : Int) : Prop where
  le : t.natAbs * one ≤ x.magnitude
  lt : x.magnitude < (t.natAbs + 1) * one
  sign : t ≠ 0 → (t < 0 ↔ x.negative = true)

variable {x : Binary64} {t : Int}

theorem natAbs_truncate (x : Binary64) : x.truncate.natAbs = x.magnitude / one := by
  rw [truncate, Int.natAbs_tdiv, natAbs_units, Int.natAbs_natCast]
  rfl

theorem truncate_neg_iff (h : x.truncate ≠ 0) : x.truncate < 0 ↔ x.negative = true := by
  unfold truncate units at *
  split
  · next hneg =>
    rw [if_pos hneg, Int.neg_tdiv] at h
    have hnonneg := Int.tdiv_nonneg (Int.natCast_nonneg x.magnitude) (Int.natCast_nonneg one)
    rw [Int.neg_tdiv]
    exact iff_of_true (by omega) hneg
  · next hpos =>
    have hnonneg := Int.tdiv_nonneg (Int.natCast_nonneg x.magnitude) (Int.natCast_nonneg one)
    exact iff_of_false (by omega) hpos

theorem isTruncation_truncate (x : Binary64) : IsTruncation x x.truncate where
  le := by
    rw [natAbs_truncate]
    exact Nat.div_mul_le_self ..
  lt := by
    rw [natAbs_truncate]
    exact Nat.lt_mul_of_div_lt (Nat.lt_succ_self _) one_pos
  sign := truncate_neg_iff

theorem magnitude_of_units_eq (h : x.units = t * one) : x.magnitude = t.natAbs * one := by
  rw [← natAbs_units, h, Int.natAbs_mul, Int.natAbs_natCast]

theorem truncate_of_units_eq (h : x.units = t * one) : x.truncate = t := by
  have hone : (one : Int) ≠ 0 := Int.natCast_ne_zero.mpr one_pos.ne'
  rw [truncate, h, Int.mul_tdiv_cancel t hone]

theorem has53Digits_div {m : Nat} (hm : m < 2 ^ 53) (j k : Nat) :
    Has53Digits (m * 2 ^ j / 2 ^ k) := by
  rcases Nat.le_total k j with hle | hle
  · obtain ⟨i, rfl⟩ := Nat.exists_eq_add_of_le hle
    rw [Nat.pow_add, Nat.mul_left_comm, Nat.mul_div_cancel_left _ (Nat.two_pow_pos k)]
    exact ⟨m, i, hm, rfl⟩
  · obtain ⟨i, rfl⟩ := Nat.exists_eq_add_of_le hle
    rw [Nat.pow_add, Nat.mul_comm, Nat.mul_div_mul_left _ _ (Nat.two_pow_pos j)]
    exact has53Digits_of_le (Nat.le_trans (Nat.div_le_self ..) hm.le)

theorem has53Digits_truncate (x : Binary64) : Has53Digits x.truncate.natAbs := by
  rw [natAbs_truncate, magnitude_eq, one_eq]
  exact has53Digits_div x.canonical.1 x.scale 1074

end MockHttp.Binary64
