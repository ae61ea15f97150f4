import MockHttp.Instruction.Arguments
import MockHttp.Proofs.Numeric.Rounding

/-! # Arguments that fit

What a reader makes of an argument of the right form. An integer passes through a floating-point
number: it keeps its 53 leading binary digits and must stay below `2 ^ 63` in magnitude.
-/

namespace MockHttp

open Binary64

@[simp] theorem Json.display_string (s : String) : (Json.string s).display = s :=
  String.ofList_toList

namespace Arguments

variable {args : Arguments} {i : Nat}

theorem value_of_getElem? {v : Json} (h : args[i]? = some v) : value args i = .ok v := by
  simp only [value, h]

theorem name_of_string {s : String} (h : args[i]? = some (.string s)) : name args i = .ok s := by
  rw [name, value_of_getElem? h, Except.map, Json.display_string]

theorem condition_of_name {c : Condition} (h : args[i]? = some (.string c.name)) :
    condition args i = .ok c := by
  simp only [condition, name_of_string h, bind, Except.bind, Condition.ofName?_name]
  rfl

theorem algorithm_of_name {a : HashAlgorithm} (h : args[i]? = some (.string a.name)) :
    algorithm args i = .ok a := by
  simp only [algorithm, name_of_string h, bind, Except.bind, HashAlgorithm.ofName?_name]
  rfl

theorem headerName_of_string {s : String} {header : HeaderName}
    (h : args[i]? = some (.string s)) (hs : HeaderName.ofText? s = some header) :
    headerName args i = .ok header := by
  simp only [headerName, name_of_string h, bind, Except.bind, hs]
  rfl

theorem number_of_number {n : Number} (h : args[i]? = some (.number n)) :
    number args i = .ok n.toBinary64 := by
  simp only [number, value_of_getElem? h, bind, Except.bind, Json.spelledNumber?]
  rfl

/-! ## Integers -/

/-- An integer is read as its 53 leading binary digits, if these stay below `2 ^ 63`. -/
theorem integer_of_int {n : Int} (h : args[i]? = some (.int n)) (hlog : n.natAbs.log2 < 1000) :
    integer args i =
      if integerLimit ≤ n.natAbs then .error (.outOfRange i)
      else .ok (roundInt n) := by
  have hbound : 0x8000000000000000 * one ≤ (ofInt n).magnitude ↔ integerLimit ≤ n.natAbs := by
    rw [ofInt_magnitude hlog, Nat.mul_le_mul_right_iff Binary64.one_pos]
    exact le_roundNat_iff
  simp only [integer, number_of_number h, bind, Except.bind, Number.toBinary64, hbound,
    ofInt_truncate hlog]
  rfl

theorem unsigned_of_nat {n : Nat} (h : args[i]? = some (.nat n)) (hlog : n.log2 < 1000) :
    unsigned args i =
      if integerLimit ≤ n then .error (.outOfRange i) else .ok (roundNat n) := by
  simp only [unsigned, integer_of_int (n := n) h hlog, Int.natAbs_natCast, roundInt_natCast]
  split
  · rfl
  · simp only [bind, Except.bind, Int.not_lt.mpr (Int.natCast_nonneg _), if_false,
      Int.toNat_natCast]
    rfl

theorem integer_of_le {n : Int} (h : args[i]? = some (.int n)) (hn : n.natAbs ≤ 2 ^ 53) :
    integer args i = .ok n := by
  rw [integer_of_int h (log2_lt_of_le (by omega)), if_neg (by unfold integerLimit; omega),
    roundInt_eq_self_iff.mpr (has53Digits_of_le hn)]

theorem unsigned_of_le {n : Nat} (h : args[i]? = some (.nat n)) (hn : n ≤ 2 ^ 53) :
    unsigned args i = .ok n := by
  rw [unsigned_of_nat h (log2_lt_of_le (by omega)), if_neg (by unfold integerLimit; omega),
    roundNat_eq_self_iff.mpr (has53Digits_of_le hn)]

theorem within_of_le {n low high : Nat} (h : args[i]? = some (.nat n)) (hn : low ≤ n ∧ n ≤ high)
    (hhigh : high ≤ 2 ^ 53) : within args i low high = .ok n := by
  simp only [within, unsigned_of_le h (Nat.le_trans hn.2 hhigh), bind, Except.bind, hn]
  rfl

end Arguments

end MockHttp
