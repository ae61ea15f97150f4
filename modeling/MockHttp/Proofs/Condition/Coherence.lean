import MockHttp.Proofs.Condition.Integers
import MockHttp.Proofs.Json.Sameness

/-! # Coherence of the conditions

How the ten conditions fit together is said of any evaluator of them: equality is an equivalence,
the orderings are those of a linear order on numbers and fail elsewhere, and the conditions on
texts bear on each other like the parts of a text. The evaluator here has these laws, since it
compares operands for sameness, numbers by their values, and texts as lists of characters.
-/

namespace MockHttp.Condition

structure Coherent (holds : Condition → Json → Json → Bool) : Prop where
  equal_equivalence : Equivalence fun a b => holds equal a b = true
  notEqual_eq_not : ∀ a b, holds notEqual a b = !holds equal a b
  equal_null_iff : ∀ a, holds equal a .null = true ↔ a = .null
  trichotomy : ∀ a b : Json, a.kind = .number → b.kind = .number →
    ∃! c, c ∈ [lessThan, equal, greaterThan] ∧ holds c a b = true
  greaterThanOrEqual_eq_or : ∀ a b : Json, a.kind = .number → b.kind = .number →
    holds greaterThanOrEqual a b = (holds greaterThan a b || holds equal a b)
  lessThanOrEqual_eq_or : ∀ a b : Json, a.kind = .number → b.kind = .number →
    holds lessThanOrEqual a b = (holds lessThan a b || holds equal a b)
  lessThan_swap : ∀ a b, holds lessThan a b = holds greaterThan b a
  lessThan_trans : ∀ a b c, holds lessThan a b = true → holds lessThan b c = true →
    holds lessThan a c = true
  unordered : ∀ a b : Json, a.kind ≠ .number ∨ b.kind ≠ .number →
    ∀ c ∈ [lessThan, greaterThan, lessThanOrEqual, greaterThanOrEqual], holds c a b = false
  contains_or_not : ∀ a b, a ≠ .null → b ≠ .null →
    ∃! c, c ∈ [contains, notContains] ∧ holds c a b = true
  contains_of_startsWith : ∀ a b, a ≠ .null → b ≠ .null →
    holds startsWith a b = true → holds contains a b = true
  contains_of_endsWith : ∀ a b, a ≠ .null → b ≠ .null →
    holds endsWith a b = true → holds contains a b = true
  /-- The text of null counts for nothing. -/
  textless : ∀ a b, a = .null ∨ b = .null →
    ∀ c ∈ [contains, notContains, startsWith, endsWith], holds c a b = false

variable {a b c : Json}

/-! ## Equality -/

/-- What is compared for sameness: of a number, its value as a floating-point number. -/
def operand : Json → Json
  | .number n => .float n.toBinary64
  | v => v

theorem holds_equal (a b : Json) : equal.holds a b = (operand a).same (operand b) := by
  cases a <;> cases b <;> rfl

theorem holds_equal_equivalence : Equivalence fun a b => equal.holds a b = true := by
  simp only [holds_equal]
  exact Json.same_equivalence.comap operand

theorem holds_equal_null_iff : equal.holds a .null = true ↔ a = .null := by
  cases a <;> simp [holds_equal, operand, Json.same, Json.float]

/-! ## Order -/

theorem exists_of_kind (h : a.kind = .number) : ∃ n, a = .number n := by
  cases a with
  | number n => exact ⟨n, rfl⟩
  | null | bool _ | string _ | array _ | object _ => cases h

/-- Two numbers compare as some integers do. -/
theorem exists_comparesAs (ha : a.kind = .number) (hb : b.kind = .number) :
    ∃ m n x y, a = .number m ∧ b = .number n ∧ ComparesAs m n x y := by
  obtain ⟨m, rfl⟩ := exists_of_kind ha
  obtain ⟨n, rfl⟩ := exists_of_kind hb
  exact ⟨m, n, _, _, rfl, rfl, comparesAs_units m n⟩

theorem existsUnique_order (ha : a.kind = .number) (hb : b.kind = .number) :
    ∃! c, c ∈ [lessThan, equal, greaterThan] ∧ c.holds a b = true := by
  obtain ⟨m, n, x, y, rfl, rfl, h⟩ := exists_comparesAs ha hb
  have hfew {c : Condition} : c ∈ [lessThan, equal, greaterThan] ∧ c.holds (.number m) (.number n) ↔
      c = lessThan ∧ x < y ∨ c = equal ∧ x = y ∨ c = greaterThan ∧ y < x := by
    rw [← h.lessThan, ← h.equal, ← h.greaterThan]
    cases c <;> simp
  simp only [hfew]
  rcases Int.lt_trichotomy x y with hlt | heq | hgt
  · refine ⟨lessThan, .inl ⟨rfl, hlt⟩, ?_⟩
    rintro _ (⟨rfl, -⟩ | ⟨-, heq⟩ | ⟨-, hgt⟩)
    · rfl
    all_goals omega
  · refine ⟨equal, .inr (.inl ⟨rfl, heq⟩), ?_⟩
    rintro _ (⟨-, hlt⟩ | ⟨rfl, -⟩ | ⟨-, hgt⟩)
    · omega
    · rfl
    · omega
  · refine ⟨greaterThan, .inr (.inr ⟨rfl, hgt⟩), ?_⟩
    rintro _ (⟨-, hlt⟩ | ⟨-, heq⟩ | ⟨rfl, -⟩)
    · omega
    · omega
    · rfl

theorem greaterThanOrEqual_eq (ha : a.kind = .number) (hb : b.kind = .number) :
    greaterThanOrEqual.holds a b = (greaterThan.holds a b || equal.holds a b) := by
  obtain ⟨m, n, x, y, rfl, rfl, h⟩ := exists_comparesAs ha hb
  rw [Bool.eq_iff_iff, Bool.or_eq_true, h.greaterThanOrEqual, h.greaterThan, h.equal]
  omega

theorem lessThanOrEqual_eq (ha : a.kind = .number) (hb : b.kind = .number) :
    lessThanOrEqual.holds a b = (lessThan.holds a b || equal.holds a b) := by
  obtain ⟨m, n, x, y, rfl, rfl, h⟩ := exists_comparesAs ha hb
  rw [Bool.eq_iff_iff, Bool.or_eq_true, h.lessThanOrEqual, h.lessThan, h.equal]
  omega

theorem compareNumbers_eq_false (relates : Binary64 → Binary64 → Bool)
    (h : a.kind ≠ .number ∨ b.kind ≠ .number) : compareNumbers relates a b = false := by
  unfold compareNumbers
  cases a <;> cases b <;> simp_all [Json.kind, Json.number?]

theorem holds_lessThan_swap (a b : Json) : lessThan.holds a b = greaterThan.holds b a := by
  cases a <;> cases b <;> rfl

theorem holds_lessThan_trans (h : lessThan.holds a b = true) (h' : lessThan.holds b c = true) :
    lessThan.holds a c = true := by
  have hnumbers {v w : Json} (h : lessThan.holds v w = true) :
      v.kind = .number ∧ w.kind = .number := by
    by_contra hnot
    rw [not_and_or] at hnot
    rw [holds, compareNumbers_eq_false _ hnot] at h
    cases h
  obtain ⟨ha, hb⟩ := hnumbers h
  obtain ⟨-, hc⟩ := hnumbers h'
  obtain ⟨m, rfl⟩ := exists_of_kind ha
  obtain ⟨n, rfl⟩ := exists_of_kind hb
  obtain ⟨k, rfl⟩ := exists_of_kind hc
  rw [(comparesAs_units ..).lessThan] at h h' ⊢
  exact Int.lt_trans h h'

/-! ## Texts -/

theorem compareTexts_eq (relates : List Char → List Char → Bool) (ha : a ≠ .null)
    (hb : b ≠ .null) : compareTexts relates a b = relates a.displayChars b.displayChars := by
  cases a <;> cases b <;> first | contradiction | rfl

theorem compareTexts_eq_false (relates : List Char → List Char → Bool)
    (h : a = .null ∨ b = .null) : compareTexts relates a b = false := by
  unfold compareTexts
  rcases h with rfl | rfl <;> simp [Json.isNull]

theorem existsUnique_contains (ha : a ≠ .null) (hb : b ≠ .null) :
    ∃! c, c ∈ [contains, notContains] ∧ c.holds a b = true := by
  have hnot : notContains.holds a b = !contains.holds a b := by
    rw [holds, holds, compareTexts_eq _ ha hb, compareTexts_eq _ ha hb]
  simp only [List.mem_cons, List.not_mem_nil, or_false]
  cases hcontains : contains.holds a b with
  | true =>
    refine ⟨contains, ⟨.inl rfl, hcontains⟩, ?_⟩
    rintro _ ⟨rfl | rfl, h⟩
    · rfl
    · rw [hnot, hcontains] at h
      cases h
  | false =>
    refine ⟨notContains, ⟨.inr rfl, by rw [hnot, hcontains]; rfl⟩, ?_⟩
    rintro _ ⟨rfl | rfl, h⟩
    · rw [hcontains] at h
      cases h
    · rfl

theorem holds_contains_iff (ha : a ≠ .null) (hb : b ≠ .null) :
    contains.holds a b = true ↔ b.displayChars <:+: a.displayChars := by
  rw [holds, compareTexts_eq _ ha hb, Text.contains_iff]

theorem contains_of_prefix (ha : a ≠ .null) (hb : b ≠ .null) (h : startsWith.holds a b = true) :
    contains.holds a b = true := by
  rw [holds, compareTexts_eq _ ha hb, List.isPrefixOf_iff_prefix] at h
  exact (holds_contains_iff ha hb).mpr h.isInfix

theorem contains_of_suffix (ha : a ≠ .null) (hb : b ≠ .null) (h : endsWith.holds a b = true) :
    contains.holds a b = true := by
  rw [holds, compareTexts_eq _ ha hb, List.isSuffixOf_iff_suffix] at h
  exact (holds_contains_iff ha hb).mpr h.isInfix

theorem coherent_holds : Coherent holds where
  equal_equivalence := holds_equal_equivalence
  notEqual_eq_not _ _ := rfl
  equal_null_iff _ := holds_equal_null_iff
  trichotomy _ _ := existsUnique_order
  greaterThanOrEqual_eq_or _ _ := greaterThanOrEqual_eq
  lessThanOrEqual_eq_or _ _ := lessThanOrEqual_eq
  lessThan_swap := holds_lessThan_swap
  lessThan_trans _ _ _ := holds_lessThan_trans
  unordered a b h := by
    simp only [List.mem_cons, List.not_mem_nil, or_false]
    rintro c (rfl | rfl | rfl | rfl) <;>
    · rw [holds]
      exact compareNumbers_eq_false _ h
  contains_or_not _ _ := existsUnique_contains
  contains_of_startsWith _ _ := contains_of_prefix
  contains_of_endsWith _ _ := contains_of_suffix
  textless a b h := by
    simp only [List.mem_cons, List.not_mem_nil, or_false]
    rintro c (rfl | rfl | rfl | rfl) <;>
    · rw [holds]
      exact compareTexts_eq_false _ h

end MockHttp.Condition
