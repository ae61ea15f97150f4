import MockHttp.Execution.Step
import MockHttp.Proofs.Json.Reading
import MockHttp.Proofs.Numeric.Truncation

/-! # Conversions of variables

A variable that stands for a number is converted to an integer by truncation, and what lies outside
the signed integers of 64 bits goes to the nearest one; every other variable is left alone. The
integer passes through a floating-point number each time, also where it was one before, so integers
of more than 53 binary digits are rounded. What has been converted stays as it is.
-/

namespace MockHttp

open Binary64

namespace Json

variable {n : Int}

theorem clampInt_mem (n : Int) : -2 ^ 63 ≤ clampInt n ∧ clampInt n < 2 ^ 63 := by
  unfold clampInt
  omega

theorem clampInt_of_mem (hlow : -2 ^ 63 ≤ n) (hhigh : n < 2 ^ 63) : clampInt n = n := by
  unfold clampInt
  omega

theorem clampInt_roundInt_greatest : clampInt (roundInt (2 ^ 63 - 1)) = 2 ^ 63 - 1 := by
  have hround : 2 ^ 63 ≤ roundNat (2 ^ 63 - 1) := le_roundNat_iff.mpr (by decide)
  have hcast : roundInt (2 ^ 63 - 1) = roundNat (2 ^ 63 - 1) := roundInt_natCast (2 ^ 63 - 1)
  rw [hcast]
  unfold clampInt
  omega

theorem has53Digits_least : Has53Digits (-2 ^ 63 : Int).natAbs := ⟨1, 63, by decide, by decide⟩

theorem clampInt_roundInt_eq_self_iff (hlow : -2 ^ 63 ≤ n) (hhigh : n < 2 ^ 63) :
    clampInt (roundInt n) = n ↔ Has53Digits n.natAbs ∨ n = 2 ^ 63 - 1 := by
  constructor
  · intro h
    by_cases hgreatest : n = 2 ^ 63 - 1
    · exact .inr hgreatest
    by_cases hleast : n = -2 ^ 63
    · subst hleast
      exact .inl has53Digits_least
    · have hself : roundInt n = n := by
        unfold clampInt at h
        omega
      exact .inl (roundInt_eq_self_iff.mp hself)
  · rintro (hdigits | rfl)
    · rw [roundInt_eq_self_iff.mpr hdigits, clampInt_of_mem hlow hhigh]
    · exact clampInt_roundInt_greatest

/-- What truncation leaves is kept by rounding unless it is clamped, and the bounds are kept too. -/
theorem clampInt_roundInt_clampInt (x : Binary64) :
    clampInt (roundInt (clampInt x.truncate)) = clampInt x.truncate := by
  obtain ⟨hlow, hhigh⟩ := clampInt_mem x.truncate
  rw [clampInt_roundInt_eq_self_iff hlow hhigh]
  rcases Int.lt_or_le x.truncate (-2 ^ 63) with hbelow | hbelow
  · have hleast : clampInt x.truncate = -2 ^ 63 := by
      unfold clampInt
      omega
    rw [hleast]
    exact .inl has53Digits_least
  rcases Int.lt_or_le x.truncate (2 ^ 63) with habove | habove
  · rw [clampInt_of_mem hbelow habove]
    exact .inl (has53Digits_truncate x)
  · right
    unfold clampInt
    omega

end Json

namespace Execution

variable {e : Execution} {name : String} {v : Json} {x : Binary64} {n : Int}

theorem toInteger_of_readsAs (hv : e.vars.get? name = some v) (h : v.ReadsAs x) :
    e.manipulate (.toInteger name) = e.bind name (.int (Json.clampInt x.truncate)) := by
  rw [manipulate, hv, Option.bind_some, Json.spelledNumber?_eq_some_iff.mpr h]

theorem toInteger_of_not_readsAs (h : ¬ ∃ v x, e.vars.get? name = some v ∧ v.ReadsAs x) :
    e.manipulate (.toInteger name) = e := by
  have hnone : (e.vars.get? name).bind Json.spelledNumber? = none := by
    rw [Option.bind_eq_none_iff]
    intro v hv
    exact Json.spelledNumber?_eq_none_iff.mpr fun x hx => h ⟨v, x, hv, hx⟩
  rw [manipulate, hnone]

theorem toInteger_bind_of_spells (e : Execution) (name : String) (h : v.Spells n)
    (hlog : n.natAbs.log2 < 1000) :
    (e.bind name v).manipulate (.toInteger name) =
      e.bind name (.int (Json.clampInt (roundInt n))) := by
  rw [toInteger_of_readsAs (get?_bind e name v) (h.readsAs hlog), ofInt_truncate hlog, bind_bind]

theorem toText_bind (e : Execution) (name : String) (v : Json) :
    (e.bind name v).manipulate (.toText name) = e.bind name (.string v.display) := by
  rw [manipulate, get?_bind]
  exact bind_bind ..

/-! ## Integers that are restored -/

theorem log2_toInt_lt (n : Int64) : n.toInt.natAbs.log2 < 1000 := by
  have hlow := n.le_toInt
  have hhigh := n.toInt_lt
  exact log2_lt_of_le (by omega)

theorem clampInt_roundInt_toInt_iff (n : Int64) :
    Json.clampInt (roundInt n.toInt) = n.toInt ↔
      Has53Digits n.toInt.natAbs ∨ n = Int64.maxValue := by
  have hgreatest : n = Int64.maxValue ↔ n.toInt = 2 ^ 63 - 1 := Int64.toInt_inj.symm
  rw [Json.clampInt_roundInt_eq_self_iff n.le_toInt n.toInt_lt, hgreatest]

theorem get?_toInteger_bind_iff (e : Execution) (name : String) (n : Int64)
    (h : v.Spells n.toInt) :
    ((e.bind name v).manipulate (.toInteger name)).vars.get? name = some (.int n.toInt) ↔
      Has53Digits n.toInt.natAbs ∨ n = Int64.maxValue := by
  rw [toInteger_bind_of_spells e name h (log2_toInt_lt n), get?_bind,
    ← clampInt_roundInt_toInt_iff]
  simp [Json.int]

/-- An integer of 64 bits comes back from itself, from its text and from the conversion to text
exactly if it has 53 binary digits or is the greatest one. -/
theorem toInteger_restores_iff (e : Execution) (name : String) (n : Int64)
    (h : v.Spells n.toInt) :
    (e.bind name v).manipulate (.toInteger name) =
      e.bind name (.int (Json.clampInt (roundInt n.toInt))) ∧
    (((e.bind name v).manipulate (.toInteger name)).vars.get? name = some (.int n.toInt) ↔
      Has53Digits n.toInt.natAbs ∨ n = Int64.maxValue) ∧
    ((((e.bind name (.int n.toInt)).manipulate (.toText name)).manipulate
        (.toInteger name)).vars.get? name = some (.int n.toInt) ↔
      Has53Digits n.toInt.natAbs ∨ n = Int64.maxValue) := by
  refine ⟨toInteger_bind_of_spells e name h (log2_toInt_lt n),
    get?_toInteger_bind_iff e name n h, ?_⟩
  have htext : Json.Spells (.string (Json.int n.toInt).display) n.toInt := by
    have hspells := Json.Spells.text (l := []) (r := []) n.toInt (by simp) (by simp)
    rw [List.nil_append, List.append_nil] at hspells
    exact hspells
  rw [toText_bind]
  exact get?_toInteger_bind_iff e name n htext

/-- The least integer, written between blanks. -/
theorem toInteger_restores_least :
    let v := Json.string " -9223372036854775808\n"
    v.Spells Int64.minValue.toInt ∧
      (((start ⟨"GET", "/", [], [], []⟩).bind "A" v).manipulate (.toInteger "A")).vars.get? "A" =
        some (.int (-9223372036854775808)) := by
  intro v
  have h : v.Spells Int64.minValue.toInt :=
    .text Int64.minValue.toInt (l := [' ']) (r := ['\n'])
      (List.forall_mem_singleton.mpr (by decide)) (List.forall_mem_singleton.mpr (by decide))
  refine ⟨h, ?_⟩
  exact (toInteger_restores_iff _ "A" Int64.minValue h).2.1.mpr (.inl ⟨1, 63, by decide, by decide⟩)

/-- The smallest natural number that is lost. -/
theorem toInteger_loses_odd :
    ((start ⟨"GET", "/", [], [], []⟩).bind "A" (.int 9007199254740993)).manipulate
        (.toInteger "A") =
      (start ⟨"GET", "/", [], [], []⟩).bind "A" (.int 9007199254740992) ∧
    (((start ⟨"GET", "/", [], [], []⟩).bind "A" (.int 9007199254740993)).manipulate
        (.toInteger "A")).vars.get? "A" ≠ some (.int 9007199254740993) := by
  have hround : Json.clampInt (roundInt 9007199254740993) = 9007199254740992 := by decide +kernel
  have hlost := toInteger_bind_of_spells (start ⟨"GET", "/", [], [], []⟩) "A"
    (.number 9007199254740993) (log2_lt_of_le (by decide))
  rw [hround] at hlost
  refine ⟨hlost, ?_⟩
  rw [hlost, get?_bind]
  simp [Json.int]

/-! ## Repeated conversions -/

theorem toText_toText (e : Execution) (name : String) :
    (e.manipulate (.toText name)).manipulate (.toText name) = e.manipulate (.toText name) := by
  cases hv : e.vars.get? name with
  | none =>
    have hsame : e.manipulate (.toText name) = e := by rw [manipulate, hv]
    rw [hsame, hsame]
  | some v =>
    have htext : e.manipulate (.toText name) = e.bind name (.string v.display) := by
      rw [manipulate, hv]
    rw [htext, toText_bind]
    congr 2
    exact String.ofList_toList

theorem toInteger_toInteger (e : Execution) (name : String) :
    (e.manipulate (.toInteger name)).manipulate (.toInteger name) =
      e.manipulate (.toInteger name) := by
  by_cases h : ∃ v x, e.vars.get? name = some v ∧ v.ReadsAs x
  · obtain ⟨v, x, hv, hx⟩ := h
    obtain ⟨hlow, hhigh⟩ := Json.clampInt_mem x.truncate
    have hlog : (Json.clampInt x.truncate).natAbs.log2 < 1000 := log2_lt_of_le (by omega)
    rw [toInteger_of_readsAs hv hx, toInteger_bind_of_spells e name (.number _) hlog,
      Json.clampInt_roundInt_clampInt]
  · rw [toInteger_of_not_readsAs h, toInteger_of_not_readsAs h]

/-- Each conversion made twice is the conversion made once. A variable that stands for a number is
bound to its integer part, clamped to 64 bits, and nothing else changes; if it stands for no number,
or is not bound, nothing changes at all. -/
theorem conversions_idempotent (e : Execution) (name : String) :
    (e.manipulate (.toText name)).manipulate (.toText name) = e.manipulate (.toText name) ∧
    (e.manipulate (.toInteger name)).manipulate (.toInteger name) =
      e.manipulate (.toInteger name) ∧
    ((∃ v x t k, e.vars.get? name = some v ∧ v.ReadsAs x ∧ IsTruncation x t ∧
        k = max (-2 ^ 63) (min t (2 ^ 63 - 1)) ∧
        e.manipulate (.toInteger name) = e.bind name (.int k)) ∨
      (¬ ∃ v x, e.vars.get? name = some v ∧ v.ReadsAs x) ∧
        e.manipulate (.toInteger name) = e) := by
  refine ⟨toText_toText e name, toInteger_toInteger e name, ?_⟩
  by_cases h : ∃ v x, e.vars.get? name = some v ∧ v.ReadsAs x
  · obtain ⟨v, x, hv, hx⟩ := h
    exact .inl ⟨v, x, _, _, hv, hx, isTruncation_truncate x, rfl, toInteger_of_readsAs hv hx⟩
  · exact .inr ⟨h, toInteger_of_not_readsAs h⟩

end Execution

end MockHttp
