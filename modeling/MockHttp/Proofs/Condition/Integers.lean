import MockHttp.Condition
import MockHttp.Proofs.Numeric.Nearest

/-! # Comparing integers

Numbers are compared by their values as floating-point numbers, so two integers compare as the
numbers nearest to them do. Their order is never reversed, but different integers of more than 53
binary digits can have the same nearest number, and then they are taken for equal.
-/

namespace MockHttp.Condition

open Binary64

/-- The conditions on numbers answer for `m` and `n` as the order does for `x` and `y`. -/
structure ComparesAs (m n : Number) (x y : Int) : Prop where
  equal : Condition.equal.holds (.number m) (.number n) = true ↔ x = y
  notEqual : Condition.notEqual.holds (.number m) (.number n) = true ↔ x ≠ y
  greaterThan : Condition.greaterThan.holds (.number m) (.number n) = true ↔ y < x
  lessThan : Condition.lessThan.holds (.number m) (.number n) = true ↔ x < y
  greaterThanOrEqual : Condition.greaterThanOrEqual.holds (.number m) (.number n) = true ↔ y ≤ x
  lessThanOrEqual : Condition.lessThanOrEqual.holds (.number m) (.number n) = true ↔ x ≤ y

theorem comparesAs_units (m n : Number) :
    ComparesAs m n m.toBinary64.units n.toBinary64.units where
  equal := beq_iff_eq
  notEqual := by
    have h : Condition.notEqual.holds (.number m) (.number n) =
      !m.toBinary64.sameValue n.toBinary64 := rfl
    simp [h, sameValue]
  greaterThan := decide_eq_true_iff
  lessThan := decide_eq_true_iff
  greaterThanOrEqual := decide_eq_true_iff
  lessThanOrEqual := decide_eq_true_iff

namespace ComparesAs

variable {m n : Number} {x y x' y' : Int}

theorem congr (h : ComparesAs m n x y) (hlt : x < y ↔ x' < y') (hgt : y < x ↔ y' < x') :
    ComparesAs m n x' y' where
  equal := h.equal.trans (by omega)
  notEqual := h.notEqual.trans (by omega)
  greaterThan := h.greaterThan.trans hgt
  lessThan := h.lessThan.trans hlt
  greaterThanOrEqual := h.greaterThanOrEqual.trans (by omega)
  lessThanOrEqual := h.lessThanOrEqual.trans (by omega)

theorem eq_iff_eq (h : ComparesAs m n x y) (h' : ComparesAs m n x' y') : x = y ↔ x' = y' :=
  h.equal.symm.trans h'.equal

end ComparesAs

variable {a b : Int}

theorem log2_lt_of_isExact (h : Number.IsExact a) : a.natAbs.log2 < 1000 := by
  unfold Number.IsExact at h
  exact log2_lt_of_le (by omega)

theorem comparesAs_roundInt (ha : Number.IsExact a) (hb : Number.IsExact b) :
    ComparesAs (.int a) (.int b) (roundInt a) (roundInt b) := by
  have hone : (0 : Int) < one := by exact_mod_cast Binary64.one_pos
  have h := comparesAs_units (.int a) (.int b)
  simp only [Number.toBinary64] at h
  rw [units_ofInt (log2_lt_of_isExact ha), units_ofInt (log2_lt_of_isExact hb)] at h
  exact h.congr (Int.mul_lt_mul_right hone) (Int.mul_lt_mul_right hone)

/-- The answers are right unless different integers round to the same number. -/
theorem comparesAs_self_iff (ha : Number.IsExact a) (hb : Number.IsExact b) :
    ComparesAs (.int a) (.int b) a b ↔ (roundInt a = roundInt b → a = b) := by
  have hround := comparesAs_roundInt ha hb
  constructor
  · intro h
    exact (hround.eq_iff_eq h).mp
  · intro h
    have hlt (c d : Int) (hcd : roundInt c = roundInt d → c = d) :
        roundInt c < roundInt d ↔ c < d := by
      constructor
      · exact lt_of_roundInt_lt
      · intro hlt
        apply Int.lt_iff_le_and_ne.mpr
        refine ⟨roundInt_mono (Int.le_of_lt hlt), ?_⟩
        exact fun heq => Int.ne_of_lt hlt (hcd heq)
    apply hround.congr
    · exact hlt a b h
    · exact hlt b a fun heq => (h heq.symm).symm

/-- The strict conditions hold in order only, and an integer below `2 ^ 53` is compared right with
every other one. -/
theorem comparesAs_nearest (ha : Number.IsExact a) (hb : Number.IsExact b) :
    ComparesAs (.int a) (.int b) (roundInt a) (roundInt b) ∧
      (ComparesAs (.int a) (.int b) a b ↔ (roundInt a = roundInt b → a = b)) ∧
      (greaterThan.holds (.int a) (.int b) = true → b < a) ∧
      (lessThan.holds (.int a) (.int b) = true → a < b) ∧
      (a.natAbs < 2 ^ 53 → ComparesAs (.int a) (.int b) a b) := by
  have hround := comparesAs_roundInt ha hb
  have hself := comparesAs_self_iff ha hb
  refine ⟨hround, hself, ?_, ?_, ?_⟩
  · intro h
    apply lt_of_roundInt_lt
    exact hround.greaterThan.mp h
  · intro h
    apply lt_of_roundInt_lt
    exact hround.lessThan.mp h
  · intro h
    exact hself.mpr (eq_of_roundInt_eq h)

/-- Two odd integers with 54 digits have different nearest numbers, one on either side. -/
theorem comparesAs_nearest_odd :
    Number.IsExact 9007199254740993 ∧ Number.IsExact 9007199254740995 ∧
      ComparesAs (.int 9007199254740993) (.int 9007199254740995)
        9007199254740993 9007199254740995 := by
  have ha : Number.IsExact 9007199254740993 := by decide
  have hb : Number.IsExact 9007199254740995 := by decide
  obtain ⟨-, hself, -⟩ := comparesAs_nearest ha hb
  have hround : roundInt 9007199254740993 ≠ roundInt 9007199254740995 := by decide +kernel
  exact ⟨ha, hb, hself.mpr fun heq => absurd heq hround⟩

/-- The smallest natural number that is not kept, and the one before it. -/
theorem equal_neighbours :
    Number.IsExact 9007199254740993 ∧ Number.IsExact 9007199254740992 ∧
      equal.holds (.int 9007199254740993) (.int 9007199254740992) = true ∧
      ¬ ComparesAs (.int 9007199254740993) (.int 9007199254740992)
        9007199254740993 9007199254740992 := by
  have hequal : equal.holds (.int 9007199254740993) (.int 9007199254740992) = true := by
    decide +kernel
  exact ⟨by decide, by decide, hequal, fun h => absurd (h.equal.mp hequal) (by decide)⟩

end MockHttp.Condition
