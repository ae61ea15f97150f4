import Mathlib.Data.List.DropRight
import MockHttp.Numeric.Shortest
import MockHttp.Proofs.Numeric.Decimal
import MockHttp.Proofs.Numeric.Truncation

/-! # The text of whole numbers of sixteen digits

From `10 ^ 15` up to `2 ^ 53` the numbers lie no further apart than integers do, so the shortest
decimal of a whole number is the number itself without some of the zeros at its end. The layout
puts the zeros back, and behind them a point and another zero.
-/

namespace MockHttp

namespace Digits

variable {n : Nat}

theorem ofNat_mul_pow (hn : n ≠ 0) (k : Nat) :
    ofNat (n * 10 ^ k) = ofNat n ++ List.replicate k '0' := by
  induction k with
  | zero => rw [Nat.pow_zero, Nat.mul_one, List.replicate_zero, List.append_nil]
  | succ k ih =>
    have hpos : 0 < n * 10 ^ k := Nat.mul_pos (Nat.pos_of_ne_zero hn) (Nat.pow_pos (by decide))
    have hsplit : n * 10 ^ (k + 1) = 10 * (n * 10 ^ k) + 0 := by
      rw [Nat.pow_succ]
      ring
    have happend := Nat.toDigits_append_toDigits (b := 10) (d := 0) (by decide) hpos (by decide)
    rw [hsplit]
    unfold ofNat at ih ⊢
    rw [← happend, ih, List.append_assoc, List.replicate_succ']
    rfl

end Digits

namespace Binary64

variable {x : Binary64} {m n p : Nat} {d : Decimal}

/-! ## Decimals in the measure of units -/

theorem grid_eq : grid = 10 ^ gridOffset := by
  unfold grid
  generalize gridOffset = k
  exact Nat.pow_eq

theorem grid_pos : 0 < grid := by
  rw [grid_eq]
  exact Nat.pow_pos (by decide)

/-- The distance of two integers, in the measure in which decimals are compared. -/
def integerStep : Nat := 4 * one * grid

theorem integerStep_pos : 0 < integerStep :=
  Nat.mul_pos (Nat.mul_pos (by decide) one_pos) grid_pos

theorem scaled_eq (hx : x.magnitude = m * one) : x.scaled = m * integerStep := by
  rw [scaled, hx, integerStep]
  ring

theorem mul_pow_shiftLeft (n p : Nat) :
    (n * Nat.pow 10 (p + gridOffset)) <<< 1076 = n * 10 ^ p * integerStep := by
  have hshift (n k : Nat) : n <<< (2 + k) = n * (4 * 2 ^ k) := by rw [Nat.shiftLeft_eq, Nat.pow_add]
  rw [show 1076 = 2 + 1074 from rfl, hshift, ← one_eq, Nat.pow_eq, Nat.pow_add, ← grid_eq,
    integerStep]
  ring

theorem scaled_mk (n p : Nat) :
    (Decimal.mk n (p + gridOffset)).scaled = n * 10 ^ p * integerStep := mul_pow_shiftLeft ..

/-! ## The whole numbers that round to a number -/

theorem gaps_pos (x : Binary64) : 0 < x.lowerGap ∧ 0 < x.upperGap := by
  have hupper : 0 < x.upperGap := shiftLeft_pos (Nat.mul_pos Nat.two_pos grid_pos) x.scale
  refine ⟨?_, hupper⟩
  unfold lowerGap
  split
  · exact shiftLeft_pos grid_pos x.scale
  · exact hupper

theorem admits_of_scaled_eq (h : d.scaled = x.scaled) : x.admits d = true := by
  obtain ⟨hlower, hupper⟩ := x.gaps_pos
  unfold admits
  split
  · simp [h]
  · next hodd =>
    have hpos : 0 < x.scaled := by
      have hsignificand : 0 < x.significand := by omega
      have hmagnitude : 0 < x.magnitude := by
        rw [magnitude_eq]
        exact Nat.mul_pos hsignificand (Nat.two_pow_pos _)
      exact Nat.mul_pos (Nat.mul_pos (by decide) hmagnitude) grid_pos
    simp only [h, Bool.and_eq_true, decide_eq_true_eq]
    omega

theorem bounds_of_admits (h : x.admits d = true) :
    x.scaled - x.lowerGap ≤ d.scaled ∧ d.scaled ≤ x.scaled + x.upperGap := by
  unfold admits at h
  split at h
  · simpa using h
  · simp only [Bool.and_eq_true, decide_eq_true_eq] at h
    omega

theorem scale_of_magnitude_le (hm : m ≤ 2 ^ 53) (hx : x.magnitude = m * one) :
    x.scale ≤ 1074 ∨ (x.scale = 1075 ∧ x.significand = 0x10000000000000 ∧ m = 2 ^ 53) := by
  obtain ⟨y, hy, hscale, hsignificand⟩ : ∃ y : Binary64, y.magnitude = 2 ^ 53 * one ∧
      y.scale = 1075 ∧ y.significand = 0x10000000000000 := by
    refine ⟨⟨false, 0x10000000000000, 1075, by decide⟩, ?_, rfl, rfl⟩
    have hstep (n k : Nat) : n * 2 ^ (k + 1) = 2 * n * 2 ^ k := by
      rw [Nat.pow_succ]
      ring
    have hdigits : 2 * 0x10000000000000 = 2 ^ 53 := by decide
    rw [magnitude_eq, hstep, ← one_eq]
    exact congrArg (· * one) hdigits
  have hle : x.magnitude ≤ y.magnitude := by
    rw [hx, hy]
    exact Nat.mul_le_mul_right one hm
  rcases Nat.lt_or_eq_of_le (scale_le_of_magnitude_le hle) with hlt | heq
  · exact .inl (by omega)
  · have hlarge := x.canonical.2.2
    rw [magnitude_eq, magnitude_eq, heq] at hle
    have hsig := Nat.le_of_mul_le_mul_right hle (Nat.two_pow_pos _)
    have hsame : x.significand = y.significand := by omega
    have hmag : x.magnitude = y.magnitude := by rw [magnitude_eq, magnitude_eq, hsame, heq]
    rw [hx, hy] at hmag
    exact .inr ⟨heq.trans hscale, hsame.trans hsignificand, Nat.eq_of_mul_eq_mul_right one_pos hmag⟩

theorem shiftLeft_le_integerStep {k : Nat} (hk : k ≤ 1074) : (4 * grid) <<< k ≤ integerStep := by
  have hshift (j : Nat) (hj : k ≤ j) : 2 ^ k ≤ 1 <<< j := by
    rw [Nat.one_shiftLeft]
    exact Nat.pow_le_pow_right Nat.two_pos hj
  have hpow : 2 ^ k ≤ one := hshift 1074 hk
  rw [Nat.shiftLeft_eq, integerStep, Nat.mul_right_comm]
  exact Nat.mul_le_mul_right grid (Nat.mul_le_mul_left 4 hpow)

theorem two_mul_gaps_le (hscale : x.scale ≤ 1074) :
    2 * x.lowerGap ≤ integerStep ∧ 2 * x.upperGap ≤ integerStep := by
  have hstep := shiftLeft_le_integerStep hscale
  have hupper : 2 * x.upperGap = (4 * grid) <<< x.scale := by
    rw [upperGap, Nat.shiftLeft_eq, Nat.shiftLeft_eq]
    ring
  have hlower : x.lowerGap ≤ x.upperGap := by
    unfold lowerGap
    split
    · rw [upperGap, Nat.shiftLeft_eq, Nat.shiftLeft_eq]
      exact Nat.mul_le_mul_right _ (by omega)
    · exact Nat.le_refl _
  omega

theorem gaps_of_scale_eq (hscale : x.scale = 1075)
    (hsignificand : x.significand = 0x10000000000000) :
    2 * x.lowerGap = integerStep ∧ x.upperGap = integerStep := by
  have hstep (n k : Nat) : n <<< (k + 1) = 2 * n * 2 ^ k := by
    rw [Nat.shiftLeft_eq, Nat.pow_succ]
    ring
  have hlower : x.lowerGap = grid <<< x.scale := if_pos ⟨hsignificand, by omega⟩
  rw [hlower, upperGap, hscale, hstep, hstep, ← one_eq, integerStep]
  exact ⟨by ring, by ring⟩

/-- No other whole number rounds to this one, save the one above `2 ^ 53`. -/
theorem eq_of_admits (hm : m ≤ 2 ^ 53) (hx : x.magnitude = m * one)
    (hd : d.scaled = n * integerStep) (h : x.admits d = true) : n = m ∨ n = 2 ^ 53 + 1 := by
  obtain ⟨hlow, hhigh⟩ := bounds_of_admits h
  have hstep := integerStep_pos
  rw [hd, scaled_eq hx] at hlow hhigh
  have hnext (j k : Nat) (hjk : j < k) : j * integerStep + integerStep ≤ k * integerStep := by
    rw [← Nat.succ_mul]
    exact Nat.mul_le_mul_right integerStep hjk
  rcases scale_of_magnitude_le hm hx with hscale | ⟨hscale, hsignificand, hlast⟩
  · obtain ⟨hlower, hupper⟩ := two_mul_gaps_le hscale
    left
    rcases Nat.lt_trichotomy n m with hlt | heq | hgt
    · have hbelow := hnext n m hlt
      omega
    · exact heq
    · have habove := hnext m n hgt
      omega
  · obtain ⟨hlower, hupper⟩ := gaps_of_scale_eq hscale hsignificand
    rcases Nat.lt_trichotomy n m with hlt | heq | hgt
    · have hbelow := hnext n m hlt
      omega
    · exact .inl heq
    · rcases Nat.lt_or_eq_of_le (show m + 1 ≤ n from hgt) with hfar | hnear
      · have hfirst := hnext m (m + 1) (Nat.lt_succ_self m)
        have habove := hnext (m + 1) n hfar
        omega
      · exact .inr (by omega)

/-! ## The shortest decimal -/

theorem leadingPower_eq (hlow : 10 ^ 15 ≤ m) (hm : m ≤ 2 ^ 53) (hx : x.magnitude = m * one) :
    x.leadingPower = 15 + gridOffset := by
  have hquotient : x.magnitude * grid / one = m * 10 ^ gridOffset := by
    rw [hx, Nat.mul_right_comm, Nat.mul_div_cancel _ one_pos, grid_eq]
  have hlength := (Digits.length_ofNat_iff (k := 15) (by omega)).mpr ⟨hlow, by omega⟩
  rw [leadingPower, hquotient, Digits.ofNat_mul_pow (by omega), List.length_append, hlength,
    List.length_replicate]
  omega

theorem admits_iff_dvd (hm : m ≤ 2 ^ 53) (hx : x.magnitude = m * one) (p : Nat) :
    x.admits ⟨m / 10 ^ p, p + gridOffset⟩ = true ↔ 10 ^ p ∣ m := by
  constructor
  · intro h
    have hle := Nat.div_mul_le_self m (10 ^ p)
    rcases eq_of_admits hm hx (scaled_mk ..) h with heq | hlast
    · exact ⟨m / 10 ^ p, by rw [Nat.mul_comm, heq]⟩
    · omega
  · intro hdvd
    apply admits_of_scaled_eq
    rw [scaled_mk, scaled_eq hx, Nat.div_mul_cancel hdvd]

theorem eq_zero_of_admits_succ (hm : m ≤ 2 ^ 53) (hx : x.magnitude = m * one)
    (h : x.admits ⟨m / 10 ^ p + 1, p + gridOffset⟩ = true) : p = 0 := by
  have hlt : m < (m / 10 ^ p + 1) * 10 ^ p := by
    rw [Nat.succ_mul]
    exact Nat.lt_div_mul_add (Nat.pow_pos (by decide))
  rcases eq_of_admits hm hx (scaled_mk ..) h with heq | hlast
  · omega
  · cases p with
    | zero => rfl
    | succ p =>
      rw [Nat.pow_succ, ← Nat.mul_assoc] at hlast
      omega

theorem onGrid_eq (hlow : 10 ^ 15 ≤ m) (hm : m ≤ 2 ^ 53) (hx : x.magnitude = m * one)
    (hp : p ≤ 15) :
    x.onGrid (16 - p) = if 10 ^ p ∣ m then some ⟨m / 10 ^ p, p + gridOffset⟩ else none := by
  have hpower : x.leadingPower + 1 - (16 - p) = p + gridOffset := by
    rw [leadingPower_eq hlow hm hx]
    omega
  have hbelow : x.scaled / (Nat.pow 10 (p + gridOffset) <<< 1076) = m / 10 ^ p := by
    have hunit := mul_pow_shiftLeft 1 p
    rw [Nat.one_mul, Nat.one_mul] at hunit
    rw [hunit, scaled_eq hx, Nat.mul_div_mul_right _ _ integerStep_pos]
  unfold onGrid
  dsimp only
  rw [hpower, hbelow]
  by_cases hdvd : 10 ^ p ∣ m
  · have hdown : x.scaled - (Decimal.mk (m / 10 ^ p) (p + gridOffset)).scaled = 0 := by
      rw [scaled_mk, scaled_eq hx, Nat.div_mul_cancel hdvd, Nat.sub_self]
    have hup : 0 < (Decimal.mk (m / 10 ^ p + 1) (p + gridOffset)).scaled - x.scaled := by
      rw [scaled_mk, scaled_eq hx, Nat.succ_mul, Nat.div_mul_cancel hdvd, Nat.add_mul]
      have hpos := Nat.mul_pos (Nat.pow_pos (n := p) (show 0 < 10 by decide)) integerStep_pos
      omega
    rw [(admits_iff_dvd hm hx p).mpr hdvd, if_pos hdvd]
    split
    · rfl
    · next hfalse _ => cases hfalse
    · next hfalse _ => cases hfalse
    · rw [if_pos (.inl (by rw [hdown]; exact hup))]
  · have hfalse : x.admits ⟨m / 10 ^ p, p + gridOffset⟩ = false :=
      Bool.eq_false_iff.mpr fun h => hdvd ((admits_iff_dvd hm hx p).mp h)
    have habove : x.admits ⟨m / 10 ^ p + 1, p + gridOffset⟩ = false := by
      refine Bool.eq_false_iff.mpr fun h => hdvd ?_
      rw [eq_zero_of_admits_succ hm hx h, Nat.pow_zero]
      exact Nat.one_dvd m
    rw [hfalse, habove, if_neg hdvd]

/-- Of the sixteen digits some zeros at the end are left out. -/
theorem shortest_eq (hlow : 10 ^ 15 ≤ m) (hm : m ≤ 2 ^ 53) (hx : x.magnitude = m * one) :
    ∃ p ≤ 15, 10 ^ p ∣ m ∧ x.shortest = ⟨m / 10 ^ p, p + gridOffset⟩ := by
  have hall : x.onGrid (15 + 1) = some ⟨m / 10 ^ 0, 0 + gridOffset⟩ :=
    (onGrid_eq hlow hm hx (Nat.zero_le 15)).trans (if_pos (Nat.one_dvd m))
  have hfind : ∃ d, (List.range 16).findSome? (fun i => x.onGrid (i + 1)) = some d := by
    rw [← Option.isSome_iff_exists, List.findSome?_isSome_iff]
    exact ⟨15, by decide, by rw [hall]; rfl⟩
  obtain ⟨d, hd⟩ := hfind
  obtain ⟨i, hi, hgrid⟩ := List.exists_of_findSome?_eq_some hd
  have hcount : i + 1 = 16 - (15 - i) := by
    have hlt := List.mem_range.mp hi
    omega
  rw [hcount, onGrid_eq hlow hm hx (Nat.sub_le ..), Option.ite_none_right_eq_some] at hgrid
  obtain ⟨hdvd, hsome⟩ := hgrid
  refine ⟨15 - i, Nat.sub_le .., hdvd, ?_⟩
  have hsplit : List.range 17 = List.range 16 ++ [16] := rfl
  rw [shortest, hsplit, List.findSome?_append, hd, Option.some_or, Option.getD_some]
  exact (Option.some.inj hsome).symm

/-! ## The text -/

theorem withoutTrailingZeros_append (ds : List Char) :
    ∃ k, withoutTrailingZeros ds ++ List.replicate k '0' = ds := by
  obtain ⟨zeros, hzeros⟩ : ∃ zeros, zeros = ds.rtakeWhile (· == '0') := ⟨_, rfl⟩
  have hall : ∀ c ∈ zeros, c = '0' := by
    intro c hc
    rw [hzeros] at hc
    exact eq_of_beq (List.mem_rtakeWhile_imp (p := (· == '0')) hc)
  refine ⟨zeros.length, ?_⟩
  rw [← List.eq_replicate_length.mpr hall, hzeros]
  exact List.rdropWhile_append_rtakeWhile

theorem layout_withoutTrailingZeros {ds : List Char} {k : Nat} (h : ds.length + k = 16) :
    layout (withoutTrailingZeros ds) 15 = ds ++ List.replicate k '0' ++ ['.', '0'] := by
  obtain ⟨j, hj⟩ := withoutTrailingZeros_append ds
  generalize withoutTrailingZeros ds = kept at *
  have hlength : kept.length + j + k = 16 := by
    rw [← h, ← hj, List.length_append, List.length_replicate]
  have hmissing : 16 - kept.length = j + k := by omega
  have hshort : kept.length ≤ 16 := by omega
  have hlayout : layout kept 15 = kept ++ List.replicate (16 - kept.length) '0' ++ ['.', '0'] :=
    if_pos hshort
  rw [hlayout, hmissing, ← hj, List.replicate_add]
  simp only [List.append_assoc]

theorem magnitudeText_eq (hlow : 10 ^ 15 ≤ m) (hm : m ≤ 2 ^ 53) (hx : x.magnitude = m * one) :
    x.magnitudeText = Digits.ofNat m ++ ['.', '0'] := by
  obtain ⟨p, hp, hdvd, hshortest⟩ := shortest_eq hlow hm hx
  have hsignificand : x.significand ≠ 0 := by
    intro hzero
    rw [magnitude_eq, hzero, Nat.zero_mul] at hx
    have hpos := Nat.mul_pos (Nat.lt_of_lt_of_le (by decide) hlow) one_pos
    omega
  have hquotient : m / 10 ^ p ≠ 0 := by
    intro hzero
    have hmul := Nat.div_mul_cancel hdvd
    rw [hzero, Nat.zero_mul] at hmul
    omega
  have hdigits := Digits.ofNat_mul_pow hquotient p
  have hlength := (Digits.length_ofNat_iff (k := 15) (by omega)).mpr ⟨hlow, by omega⟩
  rw [Nat.div_mul_cancel hdvd] at hdigits
  rw [hdigits, List.length_append, List.length_replicate] at hlength
  have hexponent : ((p + gridOffset : Nat) : Int) + (Digits.ofNat (m / 10 ^ p)).length - 1 -
      gridOffset = 15 := by omega
  unfold magnitudeText
  rw [if_neg hsignificand, hshortest]
  dsimp only
  rw [hexponent, layout_withoutTrailingZeros hlength, hdigits]

theorem text_of_units_eq {n : Int} (hx : x.units = n * one) (hlow : 10 ^ 15 ≤ n.natAbs)
    (hhigh : n.natAbs ≤ 2 ^ 53) : x.text = Digits.ofInt n ++ ['.', '0'] := by
  have htruncate := truncate_of_units_eq hx
  have hsign : n < 0 ↔ x.negative = true :=
    htruncate ▸ truncate_neg_iff (by rw [htruncate]; omega)
  unfold text Digits.ofInt
  rw [magnitudeText_eq hlow hhigh (magnitude_of_units_eq hx)]
  by_cases hneg : n < 0
  · rw [if_pos (hsign.mp hneg), if_pos hneg, List.cons_append]
  · rw [if_neg (mt hsign.mpr hneg), if_neg hneg]

end Binary64

end MockHttp
