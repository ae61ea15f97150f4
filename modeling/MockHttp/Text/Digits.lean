/-! # Decimal digits

Natural numbers and integers as decimal text, and the reading of digits. Reading what is written
gives the number back (`valueOf_ofNat`).
-/

namespace MockHttp.Digits

def ofNat (n : Nat) : List Char := Nat.toDigits 10 n

def ofInt (n : Int) : List Char := if n < 0 then '-' :: ofNat n.natAbs else ofNat n.natAbs

def valueOf (cs : List Char) : Nat := Nat.ofDigitChars 10 cs 0

theorem valueOf_ofNat (n : Nat) : valueOf (ofNat n) = n :=
  Nat.ofDigitChars_toDigits (by decide) (by decide)

theorem ofNat_ne_nil (n : Nat) : ofNat n ≠ [] := List.ne_nil_of_length_pos Nat.length_toDigits_pos

theorem isDigit_of_mem_ofNat {n : Nat} {c : Char} (h : c ∈ ofNat n) : c.isDigit = true :=
  Nat.isDigit_of_mem_toDigits (by decide) (by decide) h

def leading (cs : List Char) : List Char := cs.takeWhile Char.isDigit

def afterLeading (cs : List Char) : List Char := cs.dropWhile Char.isDigit

theorem leading_append_afterLeading (cs : List Char) : leading cs ++ afterLeading cs = cs :=
  List.takeWhile_append_dropWhile

def number? (cs : List Char) : Option Nat :=
  if cs ≠ [] ∧ cs.all Char.isDigit then some (valueOf cs) else none

theorem number?_eq_some_iff {cs : List Char} {n : Nat} :
    number? cs = some n ↔ cs ≠ [] ∧ (∀ c ∈ cs, c.isDigit = true) ∧ valueOf cs = n := by
  rw [number?, Option.ite_none_right_eq_some, List.all_eq_true, Option.some.injEq, and_assoc]

theorem number?_ofNat (n : Nat) : number? (ofNat n) = some n := by
  rw [number?, if_pos ⟨ofNat_ne_nil n, List.all_eq_true.mpr fun _ => isDigit_of_mem_ofNat⟩,
    valueOf_ofNat]

/-- An unsigned number below a bound; one plus sign may stand in front. -/
def unsigned? (bound : Nat) (cs : List Char) : Option Nat :=
  let digits := match cs with
    | '+' :: rest => rest
    | _ => cs
  (number? digits).filter (· < bound)

theorem unsigned?_eq_some_iff {bound : Nat} {cs : List Char} {n : Nat} :
    unsigned? bound cs = some n ↔ n < bound ∧
      (number? cs = some n ∨ ∃ digits, cs = '+' :: digits ∧ number? digits = some n) := by
  have hplus (digits : List Char) : number? ('+' :: digits) ≠ some n := by
    intro h
    exact absurd ((number?_eq_some_iff.mp h).2.1 '+' List.mem_cons_self) (by decide)
  unfold unsigned?
  dsimp only
  rw [Option.filter_eq_some_iff, decide_eq_true_eq, and_comm]
  split
  · next digits => simp [hplus]
  · next h =>
    have hnone : ¬ ∃ digits, cs = '+' :: digits ∧ number? digits = some n := by
      rintro ⟨digits, rfl, -⟩
      exact h digits rfl
    rw [or_iff_left hnone]

def text (n : Nat) : String := String.ofList (ofNat n)

theorem text_injective {m n : Nat} (h : text m = text n) : m = n := by
  have hdigits : ofNat m = ofNat n := String.ofList_injective h
  rw [← valueOf_ofNat m, hdigits, valueOf_ofNat]

theorem isDigit_of_mem_text {n : Nat} {c : Char} (h : c ∈ (text n).toList) : c.isDigit = true := by
  rw [text, String.toList_ofList] at h
  exact isDigit_of_mem_ofNat h

def intText (n : Int) : String := String.ofList (ofInt n)

end MockHttp.Digits
