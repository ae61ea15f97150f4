import MockHttp.Proofs.Json.NumberText
import MockHttp.Proofs.Numeric.WholeText

/-! # The text of floating-point numbers

The shortest decimal of a number has no zero in front, and it is no larger than the number with
one more in the last place. So the layout gives a text that is read as a number, with an exponent
that is bounded by the size of the number.
-/

namespace MockHttp

namespace Binary64

variable {x : Binary64} {k : Nat}

/-! ## The digits of the shortest decimal -/

theorem scaled_div (x : Binary64) (p : Nat) :
    x.scaled / (Nat.pow 10 p <<< 1076) = x.magnitude * grid / one / 10 ^ p := by
  have hshift (n k : Nat) : n <<< (2 + k) = 4 * (2 ^ k * n) := by
    rw [Nat.shiftLeft_eq, Nat.pow_add]
    ring
  rw [show 1076 = 2 + 1074 from rfl, hshift, ← one_eq, Nat.pow_eq, scaled, Nat.mul_assoc 4,
    Nat.mul_div_mul_left _ _ (by decide), Nat.div_div_eq_div_mul]

theorem onGrid_cases {count : Nat} {d : Decimal} (h : x.onGrid count = some d) :
    d = ⟨x.magnitude * grid / one / 10 ^ (x.leadingPower + 1 - count),
        x.leadingPower + 1 - count⟩ ∨
      d = ⟨x.magnitude * grid / one / 10 ^ (x.leadingPower + 1 - count) + 1,
        x.leadingPower + 1 - count⟩ := by
  unfold onGrid at h
  dsimp only at h
  rw [scaled_div] at h
  split at h
  · cases h
    exact .inl rfl
  · cases h
    exact .inr rfl
  · cases h
  · cases h
    split
    · exact .inl rfl
    · exact .inr rfl

/-- The decimal is one of the two neighbours of the number on a grid that is not too coarse. -/
theorem shortest_cases (x : Binary64) : ∃ p ≤ x.leadingPower,
    x.shortest = ⟨x.magnitude * grid / one / 10 ^ p, p⟩ ∨
      x.shortest = ⟨x.magnitude * grid / one / 10 ^ p + 1, p⟩ := by
  unfold shortest
  cases hfind : (List.range 17).findSome? fun i => x.onGrid (i + 1) with
  | none =>
    refine ⟨x.leadingPower - 16, Nat.sub_le .., .inl ?_⟩
    rw [Option.getD_none, scaled_div]
  | some d =>
    obtain ⟨i, -, hgrid⟩ := List.exists_of_findSome?_eq_some hfind
    exact ⟨x.leadingPower + 1 - (i + 1), by omega, onGrid_cases hgrid⟩

theorem magnitude_mul_grid_pos (hx : x.significand ≠ 0) : 0 < x.magnitude * grid / one := by
  have hpow (j k : Nat) (hjk : j ≤ 3 * k) : 2 ^ j ≤ 10 ^ k := by
    calc 2 ^ j ≤ 2 ^ (3 * k) := Nat.pow_le_pow_right Nat.two_pos hjk
      _ = 8 ^ k := Nat.pow_mul 2 3 k
      _ ≤ 10 ^ k := Nat.pow_le_pow_left (by decide) k
  have hgrid : one ≤ grid := by
    rw [one_eq, grid_eq]
    exact hpow 1074 gridOffset (by decide)
  have hmagnitude : 0 < x.magnitude := by
    rw [magnitude_eq]
    exact Nat.mul_pos (Nat.pos_of_ne_zero hx) (Nat.two_pow_pos _)
  exact Nat.div_pos (Nat.le_trans hgrid (Nat.le_mul_of_pos_left grid hmagnitude)) one_pos

theorem shortest_digits_pos (hx : x.significand ≠ 0) : 0 < x.shortest.digits := by
  have hpos := magnitude_mul_grid_pos hx
  obtain ⟨p, hp, h | h⟩ := x.shortest_cases
  · have hlead : 10 ^ x.leadingPower ≤ x.magnitude * grid / one := by
      refine Digits.pow_length_le hpos.ne' ?_
      have hlength := List.length_pos_iff.mpr (Digits.ofNat_ne_nil (x.magnitude * grid / one))
      unfold leadingPower
      omega
    rw [h]
    have hpow : 10 ^ p ≤ 10 ^ x.leadingPower := Nat.pow_le_pow_right (by decide) hp
    exact Nat.div_pos (Nat.le_trans hpow hlead) (Nat.pow_pos (by decide))
  · rw [h]
    exact Nat.succ_pos _

theorem shortest_exponent_le (hx : x.magnitude < 10 ^ k * one) :
    ((x.shortest.power : Int) + (Digits.ofNat x.shortest.digits).length - 1 - gridOffset) ≤ k := by
  have hlength {n j : Nat} (h : n < 10 ^ (j + 1)) : (Digits.ofNat n).length ≤ j + 1 :=
    (Nat.length_toDigits_le_iff (by decide) j.succ_pos).mpr h
  have hquotient : x.magnitude * grid / one < 10 ^ (k + gridOffset) := by
    rw [Nat.div_lt_iff_lt_mul one_pos, Nat.pow_add, ← grid_eq, Nat.mul_right_comm]
    exact Nat.mul_lt_mul_of_pos_right hx grid_pos
  have hlead : x.leadingPower < k + gridOffset := by
    obtain ⟨j, hj⟩ := Nat.exists_eq_succ_of_ne_zero (show k + gridOffset ≠ 0 from nofun)
    rw [hj] at hquotient ⊢
    have hle := hlength hquotient
    unfold leadingPower
    omega
  obtain ⟨p, hp, hpower, hdigits⟩ : ∃ p ≤ x.leadingPower, x.shortest.power = p ∧
      x.shortest.digits ≤ x.magnitude * grid / one / 10 ^ p + 1 := by
    obtain ⟨p, hp, h | h⟩ := x.shortest_cases
    · exact ⟨p, hp, by rw [h], by rw [h]; exact Nat.le_succ _⟩
    · exact ⟨p, hp, by rw [h], by rw [h]⟩
  obtain ⟨j, hj⟩ := Nat.exists_eq_add_of_lt (Nat.lt_of_le_of_lt hp hlead)
  have hcut : x.magnitude * grid / one / 10 ^ p < 10 ^ (j + 1) := by
    have hsplit : 10 ^ (j + 1) * 10 ^ p = 10 ^ (k + gridOffset) := by
      rw [← Nat.pow_add, hj]
      congr 1
      omega
    rw [Nat.div_lt_iff_lt_mul (Nat.pow_pos (by decide)), hsplit]
    exact hquotient
  have hdigits' : (Digits.ofNat x.shortest.digits).length ≤ j + 1 + 1 := by
    refine hlength (Nat.lt_of_le_of_lt (Nat.le_trans hdigits hcut) ?_)
    exact Nat.pow_lt_pow_right (by decide) (Nat.lt_succ_self _)
  omega

/-! ## The layout -/

open Json (IsWhole IsNumberText)

section Layout

variable {ds : List Char} {exponent : Int}

theorem isDigit_zeros (n : Nat) : ∀ c ∈ List.replicate n '0', c.isDigit = true := by
  intro c hc
  rw [List.eq_of_mem_replicate hc]
  rfl

theorem isExponent_layout (exponent : Int) :
    IsExponent ('e' :: (if exponent < 0 then '-' else '+') :: Digits.ofNat exponent.natAbs)
      exponent := by
  have hnumber := Digits.number?_ofNat exponent.natAbs
  split
  · have h := IsExponent.letter (c := 'e') (.inl rfl) .minus hnumber
    have hvalue : (if true then -(exponent.natAbs : Int) else exponent.natAbs) = exponent := by
      rw [if_pos rfl]
      omega
    rwa [hvalue] at h
  · have h := IsExponent.letter (c := 'e') (.inl rfl) .plus hnumber
    have hvalue : (if false then -(exponent.natAbs : Int) else exponent.natAbs) = exponent := by
      rw [if_neg Bool.false_ne_true]
      omega
    rwa [hvalue] at h

theorem exists_isNumberText_layout (hne : ds ≠ []) (hzero : ds.head? ≠ some '0')
    (hds : ∀ c ∈ ds, c.isDigit = true) :
    ∃ power ≤ max 16 (exponent + 1), IsNumberText (layout ds exponent) power := by
  have happend {cs cs' : List Char} (hcs : ∀ c ∈ cs, c.isDigit = true)
      (hcs' : ∀ c ∈ cs', c.isDigit = true) : ∀ c ∈ cs ++ cs', c.isDigit = true := by
    intro c hc
    exact (List.mem_append.mp hc).elim (hcs c) (hcs' c)
  obtain ⟨d, ds, rfl⟩ := List.exists_cons_of_ne_nil hne
  have hd : d ≠ '0' := fun h => hzero (by rw [h]; rfl)
  unfold layout
  dsimp only
  split
  · refine ⟨_, ?_, IsNumberText.pointed .zero (happend (isDigit_zeros _) hds) (by simp)⟩
    rw [List.length_singleton]
    omega
  · split
    · next hexponent =>
      split
      · next hlength =>
        refine ⟨_, ?_, IsNumberText.pointed (.digits hd (happend hds (isDigit_zeros _)))
          (isDigit_zeros 1) (by simp)⟩
        rw [List.length_append, List.length_replicate]
        omega
      · next hlength =>
        have htake : ∀ c ∈ d :: ds.take exponent.toNat, c.isDigit = true := by
          intro c hc
          exact hds c (List.mem_of_mem_take (i := exponent.toNat + 1) hc)
        have hdrop : ∀ c ∈ ds.drop exponent.toNat, c.isDigit = true := by
          intro c hc
          exact hds c (List.mem_cons_of_mem d (List.mem_of_mem_drop hc))
        rw [List.length_cons] at hlength
        have hrest : ds.drop exponent.toNat ≠ [] := by
          rw [ne_eq, List.drop_eq_nil_iff]
          omega
        refine ⟨_, ?_, IsNumberText.pointed (.digits hd htake) hdrop hrest⟩
        change (((d :: ds.take exponent.toNat).length : Nat) : Int) ≤ _
        rw [List.length_cons, List.length_take]
        omega
    · have hexponent := isExponent_layout exponent
      cases ds with
      | nil =>
        refine ⟨_, ?_, IsNumberText.mk (.digits hd hds) .none (fun h => (h rfl).elim) hexponent⟩
        rw [List.length_singleton]
        omega
      | cons next rest =>
        have hrest : ∀ c ∈ next :: rest, c.isDigit = true := by
          intro c hc
          exact hds c (List.mem_cons_of_mem d hc)
        have hfirst : ∀ c ∈ [d], c.isDigit = true := by
          intro c hc
          exact List.mem_singleton.mp hc ▸ hds d List.mem_cons_self
        refine ⟨_, ?_, IsNumberText.mk (.digits hd hfirst) (.point hrest)
          (fun _ => List.cons_ne_nil _ _) hexponent⟩
        rw [List.length_singleton]
        omega

end Layout

/-- The text of a number without a sign is one that is read as a number. -/
theorem exists_isNumberText_text (hsign : x.negative = false) (hx : x.magnitude < 10 ^ k * one) :
    ∃ power ≤ max 16 ((k : Int) + 1), IsNumberText x.text power := by
  unfold text magnitudeText
  rw [hsign, if_neg Bool.false_ne_true]
  split
  · refine ⟨_, ?_, IsNumberText.pointed .zero (isDigit_zeros 1) (by simp)⟩
    rw [List.length_singleton]
    omega
  · next hsignificand =>
    have hpos := shortest_digits_pos hsignificand
    have hexponent := shortest_exponent_le hx
    have hhead := Digits.head?_ofNat hpos
    have hne := Digits.ofNat_ne_nil x.shortest.digits
    obtain ⟨zeros, hzeros⟩ := withoutTrailingZeros_append (Digits.ofNat x.shortest.digits)
    have hkept : withoutTrailingZeros (Digits.ofNat x.shortest.digits) ≠ [] := by
      intro hnil
      rw [hnil, List.nil_append] at hzeros
      cases zeros with
      | zero => exact hne hzeros.symm
      | succ n => exact hhead (by rw [← hzeros]; rfl)
    have hdigits : ∀ c ∈ withoutTrailingZeros (Digits.ofNat x.shortest.digits),
        c.isDigit = true := by
      intro c hc
      exact Digits.isDigit_of_mem_ofNat (hzeros ▸ List.mem_append_left _ hc)
    rw [← hzeros, List.head?_append_of_ne_nil _ hkept] at hhead
    obtain ⟨power, hpower, htext⟩ := exists_isNumberText_layout hkept hhead hdigits
    exact ⟨power, Int.le_trans hpower (by omega), htext⟩

end Binary64

end MockHttp
