import Mathlib.Tactic.Ring
import MockHttp.Numeric.Binary64

/-! # Representations of numbers

A magnitude determines its significand and its scale. A larger magnitude has no smaller scale, so
nothing lies between a number and the one with the next significand.
-/

namespace MockHttp.Binary64

theorem shiftLeft_pos {n : Nat} (hn : 0 < n) (k : Nat) : 0 < n <<< k := by
  rw [Nat.shiftLeft_eq]
  exact Nat.mul_pos hn (Nat.two_pow_pos k)

theorem two_mul_shiftLeft_le (n : Nat) {j k : Nat} (h : j < k) : 2 * (n <<< j) ≤ n <<< k := by
  rw [Nat.shiftLeft_eq, Nat.shiftLeft_eq, Nat.mul_left_comm, ← Nat.pow_succ']
  exact Nat.mul_le_mul_left n (Nat.pow_le_pow_right Nat.two_pos h)

variable {x y : Binary64}

theorem magnitude_eq (x : Binary64) : x.magnitude = x.significand * 2 ^ x.scale :=
  Nat.shiftLeft_eq ..

theorem scale_le_of_magnitude_le (h : x.magnitude ≤ y.magnitude) : x.scale ≤ y.scale := by
  apply Nat.le_of_not_lt
  intro hlt
  obtain ⟨hsmall, -, -⟩ := y.canonical
  obtain ⟨-, -, hlarge⟩ := x.canonical
  have hdouble := Nat.le_trans (two_mul_shiftLeft_le x.significand hlt) h
  rw [magnitude_eq, Nat.shiftLeft_eq, ← Nat.mul_assoc] at hdouble
  have hle := Nat.le_of_mul_le_mul_right hdouble (Nat.two_pow_pos y.scale)
  omega

theorem significand_eq_of_magnitude_eq (h : x.magnitude = y.magnitude) :
    x.significand = y.significand ∧ x.scale = y.scale := by
  have hscale : x.scale = y.scale :=
    Nat.le_antisymm (scale_le_of_magnitude_le h.le) (scale_le_of_magnitude_le h.ge)
  rw [magnitude_eq, magnitude_eq, hscale] at h
  exact ⟨Nat.eq_of_mul_eq_mul_right (Nat.two_pow_pos y.scale) h, hscale⟩

theorem eq_of_magnitude_eq (hnegative : x.negative = y.negative)
    (h : x.magnitude = y.magnitude) : x = y := by
  obtain ⟨hsignificand, hscale⟩ := significand_eq_of_magnitude_eq h
  cases x
  cases y
  cases hnegative
  cases hsignificand
  cases hscale
  rfl

theorem magnitude_add_le (h : x.magnitude < y.magnitude) :
    x.magnitude + 2 ^ x.scale ≤ y.magnitude := by
  obtain ⟨k, hk⟩ := Nat.exists_eq_add_of_le (scale_le_of_magnitude_le h.le)
  have hy : y.magnitude = y.significand * 2 ^ k * 2 ^ x.scale := by
    rw [magnitude_eq, hk, Nat.mul_assoc, ← Nat.pow_add, Nat.add_comm k]
  rw [hy, magnitude_eq, Nat.mul_lt_mul_right (Nat.two_pow_pos x.scale)] at h
  rw [hy, magnitude_eq, ← Nat.succ_mul]
  exact Nat.mul_le_mul_right _ h

end MockHttp.Binary64
