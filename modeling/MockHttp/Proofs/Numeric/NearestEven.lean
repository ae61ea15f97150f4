import MockHttp.Proofs.Numeric.Nearest
import MockHttp.Proofs.Numeric.Overflow

/-! # Rounding to the nearest number

Rounding gives the number that is nearest to a quotient, and where two are as near as each other
the one with the even significand. No other number has this property. There is one as long as the
quotient lies below the midpoint at which rounding overflows.
-/

namespace MockHttp.Binary64

/-- How far the magnitude is from `num / den` units, in parts of `1 / den`. -/
def distance (x : Binary64) (num den : Nat) : Nat := ((x.magnitude * den : Nat) - num : Int).natAbs

/-- No number is nearer to `num / den` units, and if another one is as near this one is even. -/
structure IsNearest (negative : Bool) (num den : Nat) (x : Binary64) : Prop where
  sign : x.negative = negative
  nearest : ∀ y : Binary64, x.distance num den ≤ y.distance num den
  even : ∀ y : Binary64, y.magnitude ≠ x.magnitude → y.distance num den = x.distance num den →
    x.significand % 2 = 0

/-- The quotient lies below the midpoint between the largest number and what would come next. -/
def BelowOverflow (num den : Nat) : Prop := 2 * num < (2 ^ 54 - 1) * (den <<< 2045)

variable {negative : Bool} {num den : Nat} {x y : Binary64}

/-! ## There is one nearest number -/

theorem magnitude_next (h : x.significand % 2 = 0) :
    ∃ z : Binary64, z.magnitude = x.magnitude + 2 ^ x.scale ∧
      z.significand = x.significand + 1 := by
  have hcanonical : x.significand + 1 < 0x20000000000000 ∧ x.scale ≤ 2045 ∧
      (x.scale = 0 ∨ 0x10000000000000 ≤ x.significand + 1) := by
    have hx := x.canonical
    omega
  refine ⟨⟨false, x.significand + 1, x.scale, hcanonical⟩, ?_, rfl⟩
  rw [magnitude_eq, magnitude_eq, Nat.succ_mul]

theorem IsNearest.not_magnitude_lt (hden : 0 < den) (hx : IsNearest negative num den x)
    (hy : IsNearest negative num den y) : ¬ x.magnitude < y.magnitude := by
  intro hlt
  have htie : x.distance num den = y.distance num den :=
    Nat.le_antisymm (hx.nearest y) (hy.nearest x)
  have hevenx := hx.even y hlt.ne' htie.symm
  have heveny := hy.even x hlt.ne htie
  obtain ⟨z, hz, hodd⟩ := magnitude_next hevenx
  have hle := magnitude_add_le hlt
  rw [← hz] at hle
  rcases Nat.lt_or_eq_of_le hle with hbefore | heq
  · have hafter : x.magnitude < z.magnitude := hz ▸ Nat.lt_add_of_pos_right (Nat.two_pow_pos _)
    have hxz := Nat.mul_lt_mul_of_pos_right hafter hden
    have hzy := Nat.mul_lt_mul_of_pos_right hbefore hden
    have hnearest := hx.nearest z
    unfold distance at htie hnearest
    omega
  · have hsignificand := (significand_eq_of_magnitude_eq heq).1
    omega

theorem IsNearest.unique (hden : 0 < den) (hx : IsNearest negative num den x)
    (hy : IsNearest negative num den y) : x = y := by
  apply eq_of_magnitude_eq (hx.sign.trans hy.sign.symm)
  have hle := Nat.le_of_not_lt (hy.not_magnitude_lt hden hx)
  have hge := Nat.le_of_not_lt (hx.not_magnitude_lt hden hy)
  exact Nat.le_antisymm hle hge

theorem IsNearest.magnitude_mul_le (hx : IsNearest negative num den x) :
    x.magnitude * den ≤ 2 * num := by
  have hzero : (zero false).magnitude = 0 := rfl
  have hnearest := hx.nearest (zero false)
  rw [distance, distance, hzero] at hnearest
  omega

theorem IsNearest.le_magnitude (hden : 0 < den) (hx : IsNearest negative num den x)
    (hy : y.magnitude * den ≤ num) : y.magnitude ≤ x.magnitude := by
  apply Nat.le_of_not_lt
  intro hlt
  have hless := Nat.mul_lt_mul_of_pos_right hlt hden
  have hnearest := hx.nearest y
  rw [distance, distance] at hnearest
  omega

/-! ## Rounding finds it -/

theorem nearestEven_even_of_tie (hden : 0 < den) {c : Nat} (hc : c ≠ nearestEven num den)
    (htie : ((c * den : Nat) - num : Int).natAbs =
      ((nearestEven num den * den : Nat) - num : Int).natAbs) : nearestEven num den % 2 = 0 := by
  have hsplit := Nat.div_add_mod' num den
  have hmod := Nat.mod_lt num hden
  unfold nearestEven at *
  dsimp only at *
  generalize num / den = q at *
  generalize num % den = r at *
  have hnext : (q + 1) * den = q * den + den := Nat.succ_mul ..
  rcases Nat.lt_trichotomy c q with hlt | rfl | hgt
  · have hmul : (c + 1) * den ≤ q * den := Nat.mul_le_mul_right den hlt
    rw [Nat.succ_mul] at hmul
    split at htie <;> omega
  · split at hc
    · exact (hc rfl).elim
    · next hup =>
      rw [if_neg hup] at htie ⊢
      omega
  · have hle : q + 1 ≤ c := hgt
    rcases Nat.lt_or_eq_of_le hle with hfar | rfl
    · have hmul : (q + 1 + 1) * den ≤ c * den := Nat.mul_le_mul_right den hfar
      rw [Nat.succ_mul] at hmul
      split at htie <;> omega
    · split at hc
      · next hdown =>
        rw [if_pos hdown] at htie ⊢
        omega
      · exact (hc rfl).elim

theorem fields_of_roundUnits (h : roundUnits negative num den = .finite x) :
    x.magnitude = nearestEven num (den <<< ((num / den).log2 - 52)) * 2 ^ ((num / den).log2 - 52) ∧
      x.significand % 2 = nearestEven num (den <<< ((num / den).log2 - 52)) % 2 := by
  have hpack {significand scale : Nat} (h : pack negative significand scale = .finite x) :
      x.significand = significand ∧ x.scale = scale := by
    unfold pack at h
    split at h <;> cases h
    exact ⟨rfl, rfl⟩
  unfold roundUnits at h
  dsimp only at h
  generalize (num / den).log2 - 52 = scale at *
  generalize nearestEven num (den <<< scale) = significand at *
  rw [magnitude_eq]
  split at h
  · next hcarry =>
    obtain ⟨hsignificand, hscale⟩ := hpack h
    rw [hsignificand, hscale, hcarry, Nat.pow_succ]
    omega
  · obtain ⟨hsignificand, hscale⟩ := hpack h
    rw [hsignificand, hscale]
    exact ⟨rfl, rfl⟩

/-- A number off the grid of the scale lies below the first power of two on it, and so does not come
near. -/
theorem distance_lt_of_not_dvd (hden : 0 < den) (h : roundUnits negative num den = .finite x)
    (hdvd : ¬ 2 ^ ((num / den).log2 - 52) ∣ y.magnitude) :
    x.distance num den < y.distance num den := by
  have hpos := shiftLeft_pos hden ((num / den).log2 - 52)
  have hstep := nearestEven_nearest num hpos (2 ^ 52)
  have hcut : (num / den).log2 - 52 ≠ 0 := fun hzero => hdvd (by rw [hzero]; exact Nat.one_dvd _)
  have hy : y.magnitude < 2 ^ (52 + ((num / den).log2 - 52)) :=
    Nat.lt_of_not_le fun hle => hdvd (y.has53Digits_magnitude.two_pow_dvd hle)
  have hquotient : 2 ^ (52 + ((num / den).log2 - 52)) ≤ num / den := by
    rw [Nat.add_sub_cancel' (by omega)]
    apply Nat.log2_self_le
    intro hzero
    rw [hzero] at hcut
    exact hcut rfl
  have hnum := (Nat.le_div_iff_mul_le hden).mp hquotient
  have hlt := Nat.mul_lt_mul_of_pos_right hy hden
  rw [distance, distance, (fields_of_roundUnits h).1]
  rw [Nat.shiftLeft_eq] at hstep ⊢
  generalize (num / den).log2 - 52 = scale at *
  have hfirst : 2 ^ 52 * (den * 2 ^ scale) = 2 ^ (52 + scale) * den := by
    rw [Nat.pow_add]
    ring
  have hround (q : Nat) : q * (den * 2 ^ scale) = q * 2 ^ scale * den := by ring
  rw [hfirst, hround] at hstep
  omega

theorem isNearest_of_roundUnits (hden : 0 < den) (h : roundUnits negative num den = .finite x) :
    IsNearest negative num den x := by
  have hpos := shiftLeft_pos hden ((num / den).log2 - 52)
  obtain ⟨hmagnitude, hparity⟩ := fields_of_roundUnits h
  have hgrid (q : Nat) : q * 2 ^ ((num / den).log2 - 52) * den =
      q * (den <<< ((num / den).log2 - 52)) := by
    rw [Nat.shiftLeft_eq]
    ring
  constructor
  · exact negative_of_roundUnits h
  · intro y
    by_cases hdvd : 2 ^ ((num / den).log2 - 52) ∣ y.magnitude
    · obtain ⟨c, hc⟩ := hdvd
      rw [distance, distance, hc, hmagnitude, Nat.mul_comm _ c, hgrid, hgrid]
      exact nearestEven_nearest num hpos c
    · exact (distance_lt_of_not_dvd hden h hdvd).le
  · intro y hne htie
    by_cases hdvd : 2 ^ ((num / den).log2 - 52) ∣ y.magnitude
    · obtain ⟨c, hc⟩ := hdvd
      rw [hc, hmagnitude, Nat.mul_comm _ c] at hne
      rw [distance, distance, hc, hmagnitude, Nat.mul_comm _ c, hgrid, hgrid] at htie
      rw [hparity]
      exact nearestEven_even_of_tie hpos (fun heq => hne (by rw [heq])) htie
    · exact ((distance_lt_of_not_dvd hden h hdvd).ne' htie).elim

theorem exists_isNearest (negative : Bool) (hden : 0 < den) (h : BelowOverflow num den) :
    ∃ x, roundUnits negative num den = .finite x ∧ IsNearest negative num den x := by
  have hfinite := (roundUnits_isFinite_iff negative num hden).mpr h
  cases hround : roundUnits negative num den with
  | finite x => exact ⟨x, rfl, isNearest_of_roundUnits hden hround⟩
  | infinite _ => rw [hround] at hfinite; cases hfinite
  | notANumber => rw [hround] at hfinite; cases hfinite

/-- Rounding is finite below the overflow only, and then it gives the nearest number. -/
theorem roundUnits_eq_finite_iff (hden : 0 < den) : roundUnits negative num den = .finite x ↔
    BelowOverflow num den ∧ IsNearest negative num den x := by
  constructor
  · intro h
    refine ⟨(roundUnits_isFinite_iff negative num hden).mp ?_, isNearest_of_roundUnits hden h⟩
    rw [h]
    rfl
  · rintro ⟨hbelow, hnearest⟩
    obtain ⟨z, hround, hz⟩ := exists_isNearest negative hden hbelow
    rw [hround, hz.unique hden hnearest]

theorem roundUnits_of_not_below (negative : Bool) (hden : 0 < den) (h : ¬ BelowOverflow num den) :
    roundUnits negative num den = .infinite negative := by
  have hpack (significand scale : Nat) : (pack negative significand scale).finite?.isSome = true ∨
      pack negative significand scale = .infinite negative := by
    unfold pack
    split
    · exact .inl rfl
    · exact .inr rfl
  have hround : (roundUnits negative num den).finite?.isSome = true ∨
      roundUnits negative num den = .infinite negative := by
    unfold roundUnits
    dsimp only
    split <;> exact hpack ..
  exact hround.resolve_left fun hfinite =>
    h ((roundUnits_isFinite_iff negative num hden).mp hfinite)

/-! ## Integers -/

theorem magnitude_le_largest (x : Binary64) (negative : Bool) :
    x.magnitude ≤ (largest negative).magnitude := by
  obtain ⟨hsignificand, hscale, -⟩ := x.canonical
  have hle : x.significand ≤ (largest negative).significand := Nat.le_of_lt_succ hsignificand
  rw [magnitude_eq, magnitude_eq]
  exact Nat.mul_le_mul hle (Nat.pow_le_pow_right Nat.two_pos hscale)

theorem isNearest_largest (h : ¬ BelowOverflow num 1) :
    IsNearest negative num 1 (largest negative) := by
  have hlarge : (largest negative).magnitude < num := by
    -- the step between the largest numbers is left abstract, since it has too many digits
    obtain ⟨step, hstep, hshift⟩ : ∃ step, 0 < step ∧ ∀ n : Nat, n <<< 2045 = n * step :=
      ⟨_, Nat.two_pow_pos 2045, fun n => Nat.shiftLeft_eq n 2045⟩
    rw [BelowOverflow, hshift] at h
    rw [magnitude, largest]
    dsimp only
    rw [hshift]
    omega
  have hle (y : Binary64) := y.magnitude_le_largest negative
  constructor
  · rfl
  · intro y
    have hy := hle y
    unfold distance
    omega
  · intro y hne htie
    have hy := hle y
    unfold distance at htie
    omega

theorem isNearest_ofInt (n : Int) : IsNearest (decide (n < 0)) (n.natAbs * one) 1 (ofInt n) := by
  rw [ofInt, ofRatio]
  by_cases hbelow : BelowOverflow (n.natAbs * one) 1
  · obtain ⟨x, hround, hx⟩ := exists_isNearest (decide (n < 0)) Nat.one_pos hbelow
    rw [hround]
    exact hx
  · rw [roundUnits_of_not_below _ Nat.one_pos hbelow]
    exact isNearest_largest hbelow

end MockHttp.Binary64
