import MockHttp.Numeric.Arithmetic
import MockHttp.Proofs.Numeric.Representation
import MockHttp.Proofs.Numeric.Rounding

/-! # Where rounding overflows

A count of units rounds to a finite number if it lies below the midpoint between the largest number
and the one that would come next. The midpoint itself goes to the even neighbour, which is infinite.
-/

namespace MockHttp.Binary64

theorem nearestEven_le_iff {num den q : Nat} (hden : 0 < den) (hq : q % 2 = 1) :
    nearestEven num den ≤ q ↔ 2 * num < (2 * q + 1) * den := by
  have hsplit := Nat.div_add_mod num den
  have hmod := Nat.mod_lt num hden
  have hexpand : (2 * q + 1) * den = 2 * (den * q) + den := by ring
  unfold nearestEven
  dsimp only
  generalize num / den = k at *
  generalize num % den = r at *
  rw [hexpand]
  rcases Nat.lt_trichotomy k q with hk | rfl | hk
  · have hmul : den * (k + 1) ≤ den * q := Nat.mul_le_mul_left den hk
    rw [Nat.mul_succ] at hmul
    refine iff_of_true ?_ (by omega)
    split <;> omega
  · have hodd : ¬ k % 2 = 0 := by omega
    simp only [hodd, and_false, or_false]
    split <;> omega
  · have hmul : den * (q + 1) ≤ den * k := Nat.mul_le_mul_left den hk
    rw [Nat.mul_succ] at hmul
    refine iff_of_false ?_ (by omega)
    split <;> omega

theorem pack_isFinite_iff {negative : Bool} {significand scale : Nat} :
    (pack negative significand scale).finite?.isSome = true ↔
      significand < 0x20000000000000 ∧ scale ≤ 2045 ∧
        (scale = 0 ∨ 0x10000000000000 ≤ significand) := by
  unfold pack
  split
  · next h => exact iff_of_true rfl h
  · next h => exact iff_of_false Bool.false_ne_true h

/-- The scale decides unless it is the last one, where the significand does. -/
theorem roundUnits_isFinite_iff (negative : Bool) (num : Nat) {den : Nat} (hden : 0 < den) :
    (roundUnits negative num den).finite?.isSome = true ↔
      2 * num < (2 ^ 54 - 1) * (den <<< 2045) := by
  have hpos := shiftLeft_pos hden
  rcases Nat.lt_trichotomy ((num / den).log2 - 52) 2045 with hscale | hscale | hscale
  · obtain ⟨x, hx, -, -⟩ := roundUnits_eq_finite negative (Nat.le_of_lt_succ hscale)
    have hdigits := (Nat.div_lt_iff_lt_mul (hpos _)).mp (div_shiftLeft_lt num den)
    have hdouble := two_mul_shiftLeft_le den hscale
    refine iff_of_true (by rw [hx]; rfl) ?_
    omega
  · have hdigits := @le_div_shiftLeft num den (by omega)
    have hlow := le_nearestEven num (den <<< ((num / den).log2 - 52))
    have hmidpoint : (2 : Nat) ^ 54 - 1 = 2 * (2 ^ 53 - 1) + 1 := rfl
    rw [hmidpoint, ← nearestEven_le_iff (hpos 2045) (by decide)]
    unfold roundUnits
    dsimp only
    rw [hscale] at hdigits hlow ⊢
    generalize nearestEven num (den <<< 2045) = significand at *
    split <;> rw [pack_isFinite_iff] <;> omega
  · have hdigits := (Nat.le_div_iff_mul_le (hpos _)).mp (@le_div_shiftLeft num den (by omega))
    have hdouble := two_mul_shiftLeft_le den hscale
    refine iff_of_false ?_ (by omega)
    unfold roundUnits
    dsimp only
    split <;> rw [pack_isFinite_iff] <;> omega

theorem negative_of_roundUnits {negative : Bool} {num den : Nat} {x : Binary64}
    (h : roundUnits negative num den = .finite x) : x.negative = negative := by
  have hpack {significand scale : Nat} (h : pack negative significand scale = .finite x) :
      x.negative = negative := by
    unfold pack at h
    split at h <;> cases h
    rfl
  unfold roundUnits at h
  dsimp only at h
  split at h <;> exact hpack h

theorem div_isFinite_iff {x y : Binary64} (hy : y.magnitude ≠ 0) :
    (x.div y).finite?.isSome = true ↔
      2 * (x.magnitude * one) < (2 ^ 54 - 1) * (y.magnitude <<< 2045) := by
  rw [div, if_neg hy, roundUnits_isFinite_iff _ _ (Nat.pos_of_ne_zero hy)]

theorem negative_of_sub {x y z : Binary64} (hlt : y < x) (h : x.sub y = .finite z) :
    z.negative = false := by
  have hpos : 0 < x.units - y.units := Int.sub_pos.mpr hlt
  unfold sub ofUnits at h
  rw [if_neg hpos.ne'] at h
  rw [negative_of_roundUnits h, decide_eq_false hpos.not_gt]

end MockHttp.Binary64
