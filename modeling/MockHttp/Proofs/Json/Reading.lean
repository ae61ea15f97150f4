import MockHttp.Json.Spelled
import MockHttp.Proofs.Numeric.Literal

/-! # Values that stand for numbers

A number stands for itself, or for the nearest floating-point number, and a text for the decimal
that it spells, with blanks on either side left out. No other value stands for a number, and neither
does a text whose decimal is beyond the finite numbers.
-/

namespace MockHttp.Json

open Binary64

inductive ReadsAs : Json → Binary64 → Prop where
  | int {n : Int} {x : Binary64} : IsNearest (decide (n < 0)) (n.natAbs * one) 1 x →
      ReadsAs (.int n) x
  | float (x : Binary64) : ReadsAs (.float x) x
  | text {l cs r : List Char} {negative : Bool} {digits : Nat} {exponent : Int} {x : Binary64} :
      (∀ c ∈ l, Text.isBlank c = true) → (∀ c ∈ r, Text.isBlank c = true) →
      IsDecimal cs negative digits exponent →
      BelowOverflow (decimalUnits digits exponent) (decimalPart exponent) →
      IsNearest negative (decimalUnits digits exponent) (decimalPart exponent) x →
      ReadsAs (.string (String.ofList (l ++ cs ++ r))) x

variable {v : Json} {x : Binary64} {l r : List Char} {n : Int}

theorem readsAs_int_iff : ReadsAs (.int n) x ↔ x = ofInt n := by
  constructor
  · intro h
    cases h with
    | int hnearest => exact hnearest.unique Nat.one_pos (isNearest_ofInt n)
  · rintro rfl
    exact .int (isNearest_ofInt n)

theorem readsAs_string_iff {s : String} : ReadsAs (.string s) x ↔
    literal? (Text.trimmed s.toList) = some (.finite x) := by
  rw [literal?_eq_some_finite_iff]
  simp only [ofDecimal_eq_finite_iff]
  constructor
  · intro h
    cases h with
    | text hl hr hdecimal hbelow hnearest =>
      rw [String.toList_ofList, Text.trimmed_append hl hdecimal.not_isBlank hr]
      exact ⟨_, _, _, hdecimal, hbelow, hnearest⟩
  · rintro ⟨negative, digits, exponent, hdecimal, hbelow, hnearest⟩
    obtain ⟨l, r, heq, hl, hr⟩ := Text.exists_trimmed s.toList
    rw [← String.ofList_toList (s := s), heq]
    exact .text hl hr hdecimal hbelow hnearest

theorem spelledNumber?_eq_some_iff : v.spelledNumber? = some x ↔ ReadsAs v x := by
  cases v with
  | number n =>
    cases n with
    | int n => exact (Option.some_inj.trans eq_comm).trans readsAs_int_iff.symm
    | float y =>
      constructor
      · rintro ⟨⟩
        exact .float y
      · rintro ⟨⟩
        rfl
  | string s =>
    rw [readsAs_string_iff, spelledNumber?, Option.bind_eq_some_iff]
    constructor
    · rintro ⟨y, hy, hfinite⟩
      cases y with
      | finite y =>
        cases hfinite
        exact hy
      | infinite _ | notANumber => cases hfinite
    · exact fun h => ⟨_, h, rfl⟩
  | null | bool _ | array _ | object _ => exact ⟨nofun, nofun⟩

theorem spelledNumber?_eq_none_iff : v.spelledNumber? = none ↔ ∀ x, ¬ ReadsAs v x := by
  simp only [Option.eq_none_iff_forall_ne_some, ne_eq, spelledNumber?_eq_some_iff]

/-- The value is the integer, or its decimal text between blanks. -/
inductive Spells : Json → Int → Prop where
  | number (n : Int) : Spells (.int n) n
  | text {l r : List Char} (n : Int) : (∀ c ∈ l, Text.isBlank c = true) →
      (∀ c ∈ r, Text.isBlank c = true) →
      Spells (.string (String.ofList (l ++ Digits.ofInt n ++ r))) n

theorem Spells.readsAs (h : Spells v n) (hlog : n.natAbs.log2 < 1000) : ReadsAs v (ofInt n) := by
  cases h with
  | number => exact readsAs_int_iff.mpr rfl
  | text _ hl hr =>
    obtain ⟨hbelow, hnearest⟩ := ofDecimal_eq_finite_iff.mp (ofDecimal_natAbs hlog)
    exact .text hl hr (isDecimal_ofInt n) hbelow hnearest

end MockHttp.Json
