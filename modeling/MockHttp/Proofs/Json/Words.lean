import MockHttp.Json.Printer
import MockHttp.Json.Reader

/-! # Reading printed words

Numbers and strings are read as what was printed, whatever stands behind them. A number must
not go on there, since its end is not marked.
-/

namespace MockHttp

namespace Digits

theorem head?_ofNat {n : Nat} (h : 0 < n) : (ofNat n).head? ≠ some '0' := by
  induction n using Nat.strongRecOn with
  | ind n ih =>
    unfold ofNat at ih ⊢
    by_cases hn : n < 10
    · rw [Nat.toDigits_of_lt_base hn]
      simp only [List.head?_cons, ne_eq, Option.some.injEq]
      intro hc
      have := congrArg Char.toNat hc
      rw [Nat.toNat_digitChar_of_lt_ten hn] at this
      simp at this
      omega
    · have hne : (Nat.toDigits 10 (n / 10)).head?.isSome = true := by
        simp [Nat.toDigits_ne_nil]
      rw [Nat.toDigits_of_base_le (by decide) (by omega), List.head?_append,
        Option.or_of_isSome hne]
      exact ih (n / 10) (by omega) (by omega)

theorem exists_ofNat_eq_cons (n : Nat) : ∃ c cs, ofNat n = c :: cs ∧ c.isDigit = true := by
  obtain ⟨c, cs, hcs⟩ := List.exists_cons_of_ne_nil (ofNat_ne_nil n)
  have hc : c ∈ ofNat n := by rw [hcs]; exact .head _
  exact ⟨c, cs, hcs, isDigit_of_mem_ofNat hc⟩

theorem ofDigitChars_tail {n : Nat} {c : Char} {cs : List Char} (h : ofNat n = c :: cs) :
    Nat.ofDigitChars 10 cs (c.toNat - '0'.toNat) = n := by
  have hvalue := valueOf_ofNat n
  rw [valueOf, h, Nat.ofDigitChars_cons] at hvalue
  simpa using hvalue

theorem leading_ne_zero {n : Nat} {c : Char} {cs : List Char} (hn : 0 < n)
    (h : ofNat n = c :: cs) : c.toNat - '0'.toNat ≠ 0 := by
  intro hc
  have hdigit := Char.isDigit_iff_toNat.mp (isDigit_of_mem_ofNat (h ▸ List.mem_cons_self))
  have hhead := head?_ofNat hn
  rw [h] at hhead
  refine hhead (congrArg some (Char.toNat_inj.mp ?_))
  have hzero : '0'.toNat = 48 := rfl
  omega

theorem le_ofDigitChars (cs : List Char) (n : Nat) : n ≤ Nat.ofDigitChars 10 cs n := by
  induction cs generalizing n with
  | nil => simp
  | cons c cs ih =>
    rw [Nat.ofDigitChars_cons]
    exact Nat.le_trans (by omega) (ih _)

end Digits

namespace Json

open Utf8 (Piece)

/-- No number goes on here. -/
def EndsNumber (rest : Input) : Prop :=
  startsWithDigit rest = false ∧ startsExponent rest = false ∧ rest.head? ≠ some (.char '.')

/-- The reader takes the text for the value and stops behind it. -/
def Reads {α : Type} (read : Input → Except Error (α × Input)) (text : List Char) (v : α) : Prop :=
  ∀ rest, EndsNumber rest → read (text.map Piece.char ++ rest) = .ok (v, rest)

theorem endsNumber_nil : EndsNumber [] := by simp [EndsNumber, startsWithDigit, startsExponent]

/-! ## Numbers -/

theorem digit?_char {c : Char} (h : c.isDigit = true) :
    digit? (.char c) = some (c.toNat - '0'.toNat) := if_pos h

theorem scanSignificand_digits {cs : List Char} (hcs : ∀ c ∈ cs, c.isDigit = true) {rest : Input}
    (hrest : startsWithDigit rest = false) {n : Nat}
    (hn : Nat.ofDigitChars 10 cs n < 0x10000000000000000) (count : Nat) :
    scanSignificand n count (cs.map Piece.char ++ rest) =
      (Nat.ofDigitChars 10 cs n, count + cs.length, rest) := by
  induction cs generalizing n count with
  | nil =>
    cases rest with
    | nil => rfl
    | cons p rest =>
      have hp : digit? p = none := by simpa [startsWithDigit] using hrest
      simp [scanSignificand, hp]
  | cons c cs ih =>
    rw [Nat.ofDigitChars_cons] at hn ⊢
    have hfit := Nat.lt_of_le_of_lt (Digits.le_ofDigitChars cs _) hn
    simp only [List.map_cons, List.cons_append, scanSignificand, digit?_char (hcs c (.head _))]
    rw [if_pos hfit, ih (fun d hd => hcs d (.tail _ hd)) hn]
    simp only [List.length_cons, Nat.add_assoc, Nat.add_comm 1]

theorem scanAfterWhole_of_ends {rest : Input} (h : EndsNumber rest) (negative : Bool) (n : Nat) :
    scanAfterWhole negative n rest = .ok (wholeNumber negative n, rest) := by
  simp [scanAfterWhole, h.2.1, h.2.2]

theorem scanNumber_ofNat {n : Nat} (hn : n < 0x10000000000000000) (negative : Bool) :
    Reads (scanNumber negative) (Digits.ofNat n) (wholeNumber negative n) := by
  intro rest hrest
  rcases Nat.eq_zero_or_pos n with rfl | hpos
  · have hd : digit? (.char '0') = some 0 := rfl
    simp [Digits.ofNat, Nat.toDigits_zero, scanNumber, hd, hrest.1, scanAfterWhole_of_ends hrest]
  · obtain ⟨c, cs, hcs, hc⟩ := Digits.exists_ofNat_eq_cons n
    have hall : ∀ d ∈ cs, d.isDigit = true := fun d hd =>
      Digits.isDigit_of_mem_ofNat (hcs ▸ List.mem_cons_of_mem c hd)
    have hvalue := Digits.ofDigitChars_tail hcs
    have hscan := scanSignificand_digits hall hrest.1 (hvalue.symm ▸ hn) 1
    rw [hvalue] at hscan
    have hleading := Digits.leading_ne_zero hpos hcs
    rw [hcs]
    simp only [List.map_cons, List.cons_append, scanNumber, digit?_char hc]
    rw [hscan]
    simp [hrest.1, scanAfterWhole_of_ends hrest]

/-! ## Strings -/

theorem hasCode_chars (a b c d : Char) (rest : Input) :
    hasCode (.char a :: .char b :: .char c :: .char d :: rest) = true := by
  have width_pos : ∀ c, 0 < (Piece.char c).width := fun c =>
    List.length_pos_iff.mpr String.utf8EncodeChar_ne_nil
  have ha := width_pos a
  have hb := width_pos b
  have hc := width_pos c
  have hd := width_pos d
  refine decide_eq_true ?_
  simp only [List.take_succ_cons, List.take_zero, List.foldl_cons, List.foldl_nil]
  omega

theorem hexValue?_digitChar : ∀ k < 16, hexValue? (.char (Nat.digitChar k)) = some k := by
  decide

theorem scanStringFrom_controlEscape {n : Nat} (h : n < 0x20) (taken : List Piece)
    (rest : Input) :
    scanStringFrom true .plain taken ((controlEscape n).map Piece.char ++ rest) =
      scanStringFrom true .plain (.char (Char.ofNat n) :: taken) rest := by
  have hzero : hexValue? (.char '0') = some 0 := rfl
  have hcode : 16 * (n / 16) + n % 16 = n := Nat.div_add_mod n 16
  have hlow : isLowSurrogate n = false := by simp [isLowSurrogate]; omega
  have hhigh : isHighSurrogate n = false := by simp [isHighSurrogate]; omega
  simp [controlEscape, scanStringFrom, stringStep, hasCode_chars, hzero,
    hexValue?_digitChar (n / 16) (by omega), hexValue?_digitChar (n % 16) (by omega), hcode,
    codeStep, hlow, hhigh, Except.map]

/-- The scanner undoes the escape of a character. -/
theorem scanStringFrom_escapedChar (c : Char) (taken : List Piece) (rest : Input) :
    scanStringFrom true .plain taken ((escapedChar c).map Piece.char ++ rest) =
      scanStringFrom true .plain (.char c :: taken) rest := by
  unfold escapedChar
  split
  · next h => simp [h, scanStringFrom, stringStep, simpleEscape?]
  · next hq =>
    split
    · next h => simp [h, scanStringFrom, stringStep, simpleEscape?]
    · next hb =>
      split
      · next hlt =>
        have hc : Char.ofNat c.toNat = c := Char.ofNat_toNat c
        generalize c.toNat = n at hc hlt
        subst hc
        split
        case h_6 => exact scanStringFrom_controlEscape hlt taken rest
        all_goals simp [scanStringFrom, stringStep, simpleEscape?]
      · next hlt => simp [scanStringFrom, stringStep, hq, hb, hlt]

theorem scanStringFrom_escaped (cs : List Char) (taken : List Piece) (rest : Input) :
    scanStringFrom true .plain taken ((cs.flatMap escapedChar).map Piece.char ++ rest) =
      scanStringFrom true .plain ((cs.map Piece.char).reverse ++ taken) rest := by
  induction cs generalizing taken with
  | nil => rfl
  | cons c cs ih =>
    rw [List.flatMap_cons, List.map_append, List.append_assoc, scanStringFrom_escapedChar, ih]
    simp

theorem chars?_map (cs : List Char) : Utf8.chars? (cs.map Piece.char) = some cs := by
  induction cs with
  | nil => rfl
  | cons c cs ih => simp [Utf8.chars?, ih]

theorem scanString_escaped (s : String) :
    Reads scanString (s.toList.flatMap escapedChar ++ ['"']) s := by
  intro rest _
  have hscan : scanStringFrom true .plain []
      ((s.toList.flatMap escapedChar ++ ['"']).map Piece.char ++ rest) =
        .ok ((s.toList.map Piece.char).reverse, rest) := by
    rw [List.map_append, List.append_assoc, scanStringFrom_escaped]
    simp [scanStringFrom, stringStep]
  unfold scanString
  rw [hscan]
  simp [chars?_map, bind, Except.bind]

end Json

end MockHttp
