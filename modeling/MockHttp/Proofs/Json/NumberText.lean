import MockHttp.Proofs.Json.RoundTrip
import MockHttp.Proofs.Numeric.Literal
import MockHttp.Proofs.Numeric.Places

/-! # Texts that are read as numbers

A number is written with a whole part, of which no zero stands in front of other digits, a fraction
and an exponent. The reader takes each such text, however many digits it has, as long as the power
of ten is far from the largest numbers. Which number it is read as is left open, since the
reader rounds more than once.
-/

namespace MockHttp

namespace Binary64

variable {x y : Binary64}

/-! ## Powers of ten -/

theorem magnitude_ofNat_le (n : Nat) : (ofNat n).magnitude ≤ 2 * (n * one) := by
  have hnearest := (isNearest_ofInt n).magnitude_mul_le
  rwa [Nat.mul_one, Int.natAbs_natCast] at hnearest

theorem one_le_magnitude_ofNat {n : Nat} (hn : 0 < n) : one ≤ (ofNat n).magnitude := by
  have hone : (ofNat 1).magnitude = one := by rw [magnitude_ofNat (by decide), Nat.one_mul]
  have hle : (ofNat 1).magnitude * 1 ≤ (n : Int).natAbs * one := by
    rw [hone, Nat.mul_one, Int.natAbs_natCast]
    exact Nat.le_mul_of_pos_left one hn
  exact hone ▸ (isNearest_ofInt n).le_magnitude Nat.one_pos hle

theorem one_le_powerOfTen (n : Nat) : one ≤ (powerOfTen n).magnitude :=
  one_le_magnitude_ofNat (Nat.pow_pos (by decide))

theorem exists_div_eq_finite (x : Binary64) (hy : one ≤ y.magnitude) :
    ∃ z, x.div y = .finite z ∧ z.negative = (x.negative != y.negative) ∧
      z.magnitude ≤ 2 * x.magnitude := by
  have hpos : 0 < y.magnitude := Nat.lt_of_lt_of_le one_pos hy
  have hbelow : BelowOverflow (x.magnitude * one) y.magnitude := by
    have hle := x.magnitude_le_largest false
    obtain ⟨step, hstep, hshift⟩ : ∃ step, 0 < step ∧ ∀ n : Nat, n <<< 2045 = n * step :=
      ⟨_, Nat.two_pow_pos 2045, fun n => Nat.shiftLeft_eq n 2045⟩
    have hlargest : (largest false).magnitude = 0x1FFFFFFFFFFFFF * step := hshift _
    rw [BelowOverflow, hshift]
    rw [hlargest] at hle
    have hmul : x.magnitude * one ≤ 0x1FFFFFFFFFFFFF * step * y.magnitude := Nat.mul_le_mul hle hy
    have hprod : 0 < y.magnitude * step := Nat.mul_pos hpos hstep
    have hcomm : 0x1FFFFFFFFFFFFF * step * y.magnitude =
      0x1FFFFFFFFFFFFF * (y.magnitude * step) := by ring
    omega
  obtain ⟨z, hz, hnearest⟩ := exists_isNearest (x.negative != y.negative) hpos hbelow
  refine ⟨z, by rw [div, if_neg hpos.ne', hz], hnearest.sign, ?_⟩
  have hle : z.magnitude * one ≤ 2 * (x.magnitude * one) :=
    Nat.le_trans (Nat.mul_le_mul_left _ hy) hnearest.magnitude_mul_le
  rw [← Nat.mul_assoc] at hle
  exact Nat.le_of_mul_le_mul_right hle one_pos

theorem exists_mul_powerOfTen_eq_finite {n k : Nat} (hn : n < 2 ^ 64) (hk : k ≤ 60) :
    ∃ z, (ofNat n).mul (powerOfTen k) = .finite z := by
  have hpow : Nat.pow 10 (min k 308) ≤ 10 ^ 60 :=
    Nat.pow_le_pow_right (by decide) (Nat.le_trans (Nat.min_le_left k 308) hk)
  have hbelow : BelowOverflow ((ofNat n).magnitude * (powerOfTen k).magnitude) one := by
    have hx := magnitude_ofNat_le n
    have hy := magnitude_ofNat_le (Nat.pow 10 (min k 308))
    have hprod := Nat.mul_le_mul (Nat.le_trans hx (Nat.mul_le_mul_left 2
      (Nat.mul_le_mul_right one hn.le))) (Nat.le_trans hy (Nat.mul_le_mul_left 2
      (Nat.mul_le_mul_right one hpow)))
    have hshift (j k : Nat) {n : Nat} (h : n = 2 ^ k) : n <<< (j + k) = 2 ^ j * (n * n) := by
      rw [Nat.shiftLeft_eq, Nat.pow_add, ← h]
      ring
    have hone : one <<< 2045 = 2 ^ 971 * (one * one) := hshift 971 1074 one_eq
    have hpos : 0 < one * one := Nat.mul_pos one_pos one_pos
    have hfactor : 2 * (2 * 2 ^ 64 * (2 * 10 ^ 60)) < (2 ^ 54 - 1) * 2 ^ 971 := by decide +kernel
    calc 2 * ((ofNat n).magnitude * (powerOfTen k).magnitude)
        ≤ 2 * (2 * (2 ^ 64 * one) * (2 * (10 ^ 60 * one))) := Nat.mul_le_mul_left 2 hprod
      _ = 2 * (2 * 2 ^ 64 * (2 * 10 ^ 60)) * (one * one) := by ring
      _ < (2 ^ 54 - 1) * 2 ^ 971 * (one * one) := Nat.mul_lt_mul_of_pos_right hfactor hpos
      _ = (2 ^ 54 - 1) * (one <<< 2045) := by rw [hone, Nat.mul_assoc]
  obtain ⟨z, hz, -⟩ := exists_isNearest
    ((ofNat n).negative != (powerOfTen k).negative) one_pos hbelow
  exact ⟨z, hz⟩

end Binary64

namespace Json

open Utf8 (Piece)
open Binary64 (IsSign IsFraction IsExponent)

theorem exists_scaleDown_eq_finite (x : Binary64) (power : Nat) :
    ∃ z, scaleDown x power = .finite z := by
  have hrepeat (n : Nat) : ∃ y, Nat.repeat (fun x : Binary64.Extended =>
      x.divBy (.powerOfTen 308)) n (.finite x) = .finite y := by
    induction n with
    | zero => exact ⟨x, rfl⟩
    | succ n ih =>
      obtain ⟨y, hy⟩ := ih
      obtain ⟨z, hz, -⟩ := Binary64.exists_div_eq_finite y (Binary64.one_le_powerOfTen 308)
      exact ⟨z, by rw [Nat.repeat, hy]; exact hz⟩
  obtain ⟨y, hy⟩ := hrepeat (min ((power - 1) / 308) 3)
  rw [scaleDown, hy]
  exact (Binary64.exists_div_eq_finite y (Binary64.one_le_powerOfTen _)).imp fun _ h => h.1

theorem exists_floatOf_eq_ok (negative : Bool) {significand : Nat} {exponent : Int}
    (hs : significand < 2 ^ 64) (he : exponent ≤ 60) :
    ∃ n, floatOf negative significand exponent = .ok n := by
  have hfinite : ∃ z, (if significand = 0 then Binary64.Extended.finite (.zero false)
      else if exponent < 0 then scaleDown (.ofNat significand) (-exponent).toNat
      else if exponent ≤ 308 then (Binary64.ofNat significand).mul (.powerOfTen exponent.toNat)
      else .infinite false) = .finite z := by
    split
    · exact ⟨_, rfl⟩
    · split
      · exact exists_scaleDown_eq_finite _ _
      · rw [if_pos (by omega)]
        exact Binary64.exists_mul_powerOfTen_eq_finite hs (by omega)
  obtain ⟨z, hz⟩ := hfinite
  exact ⟨.float { z with negative }, by rw [floatOf, hz]⟩

/-! ## Runs of digits -/

section Digits

variable {ds : List Char} {rest : Input}

theorem exists_scanSignificand (hds : ∀ d ∈ ds, d.isDigit = true) {n : Nat} (hn : n < 2 ^ 64)
    (count : Nat) : ∃ m k, m < 2 ^ 64 ∧ k ≤ ds.length ∧
      ∀ rest, startsWithDigit rest = false →
        scanSignificand n count (ds.map Piece.char ++ rest) =
          (m, count + k, (ds.drop k).map Piece.char ++ rest) := by
  induction ds generalizing n count with
  | nil =>
    refine ⟨n, 0, hn, Nat.le_refl _, fun rest hrest => ?_⟩
    cases rest with
    | nil => rfl
    | cons p rest =>
      have hp : digit? p = none := by simpa [startsWithDigit] using hrest
      simp [scanSignificand, hp]
  | cons d ds ih =>
    have hd := digit?_char (hds d List.mem_cons_self)
    by_cases hfit : 10 * n + (d.toNat - '0'.toNat) < 0x10000000000000000
    · obtain ⟨m, k, hm, hk, hscan⟩ :=
        ih (fun c hc => hds c (List.mem_cons_of_mem d hc)) hfit (count + 1)
      refine ⟨m, k + 1, hm, Nat.succ_le_succ hk, fun rest hrest => ?_⟩
      rw [List.map_cons, List.cons_append, scanSignificand, hd]
      dsimp only
      rw [if_pos hfit, hscan rest hrest, List.drop_succ_cons, Nat.add_assoc, Nat.add_comm 1 k]
    · refine ⟨n, 0, hn, Nat.zero_le _, fun rest _ => ?_⟩
      rw [List.map_cons, List.cons_append, scanSignificand, hd]
      dsimp only
      rw [if_neg hfit]
      rfl

theorem exists_digit_eq_succ {d : Char} (hd : d.isDigit = true) (hzero : d ≠ '0') :
    ∃ v, d.toNat - '0'.toNat = v + 1 ∧ v + 1 < 2 ^ 64 := by
  have hrange := Char.isDigit_iff_toNat.mp hd
  have hne : d.toNat ≠ 48 := fun h => hzero (Char.toNat_inj.mp h)
  have hfirst : '0'.toNat = 48 := rfl
  have hlast : '9'.toNat = 57 := rfl
  exact ⟨d.toNat - 49, by omega, by omega⟩

theorem takeWhile_digits (hds : ∀ d ∈ ds, d.isDigit = true) (hrest : startsWithDigit rest = false) :
    (ds.map Piece.char ++ rest).takeWhile (fun p => (digit? p).isSome) = ds.map Piece.char ∧
      (ds.map Piece.char ++ rest).dropWhile (fun p => (digit? p).isSome) = rest := by
  have hall : ∀ p ∈ ds.map Piece.char, (digit? p).isSome = true := by
    intro p hp
    obtain ⟨d, hd, rfl⟩ := List.mem_map.mp hp
    rw [digit?_char (hds d hd)]
    rfl
  have hstop : rest.takeWhile (fun p => (digit? p).isSome) = [] ∧
      rest.dropWhile (fun p => (digit? p).isSome) = rest := by
    cases rest with
    | nil => exact ⟨rfl, rfl⟩
    | cons p rest =>
      have hp : (digit? p).isSome = false := hrest
      simp [hp]
  rw [List.takeWhile_append_of_pos hall, List.dropWhile_append_of_pos hall, hstop.1, hstop.2,
    List.append_nil]
  exact ⟨rfl, rfl⟩

theorem skipDigits_append (hds : ∀ d ∈ ds, d.isDigit = true)
    (hrest : startsWithDigit rest = false) :
    skipDigits (ds.map Piece.char ++ rest) = (ds.length, rest) := by
  obtain ⟨htake, hdrop⟩ := takeWhile_digits hds hrest
  rw [skipDigits, htake, hdrop, List.length_map]

theorem startsWithDigit_digits (hds : ∀ d ∈ ds, d.isDigit = true) (hne : ds ≠ []) (rest : Input) :
    startsWithDigit (ds.map Piece.char ++ rest) = true := by
  obtain ⟨d, ds, rfl⟩ := List.exists_cons_of_ne_nil hne
  rw [List.map_cons, List.cons_append, startsWithDigit, digit?_char (hds d List.mem_cons_self)]
  rfl

theorem foldl_digits (hds : ∀ d ∈ ds, d.isDigit = true) (n : Nat) :
    (ds.map Piece.char).foldl (fun n p => 10 * n + (digit? p).getD 0) n =
      Nat.ofDigitChars 10 ds n := by
  induction ds generalizing n with
  | nil => rfl
  | cons d ds ih =>
    rw [List.map_cons, List.foldl_cons, digit?_char (hds d List.mem_cons_self), Option.getD_some,
      ih (fun c hc => hds c (List.mem_cons_of_mem d hc)), Nat.ofDigitChars_cons]

end Digits

/-! ## The parts of a number -/

inductive IsWhole : List Char → Prop where
  | zero : IsWhole ['0']
  | digits {d : Char} {ds : List Char} : d ≠ '0' → (∀ c ∈ d :: ds, c.isDigit = true) →
      IsWhole (d :: ds)

/-- A text for a number below that power of ten. A point is not the last character. -/
inductive IsNumberText : List Char → Int → Prop where
  | mk {whole point fraction rest : List Char} {e : Int} : IsWhole whole →
      IsFraction point fraction → (point ≠ [] → fraction ≠ []) → IsExponent rest e →
      IsNumberText (whole ++ (point ++ rest)) (whole.length + e)

theorem IsNumberText.pointed {whole fraction : List Char} (hwhole : IsWhole whole)
    (hfraction : ∀ d ∈ fraction, d.isDigit = true) (hne : fraction ≠ []) :
    IsNumberText (whole ++ '.' :: fraction) whole.length := by
  simpa using IsNumberText.mk hwhole (.point hfraction) (fun _ => hne) .none

section Parts

variable {significand : Nat}

theorem exists_scanExponent (negative : Bool) (exponent : Int) (hs : significand < 2 ^ 64)
    {sign ds : List Char} {down : Bool} {n : Nat} (hsign : IsSign sign down)
    (hds : Digits.number? ds = some n) (he : exponent + (if down then -(n : Int) else n) ≤ 60) :
    ∃ x, ∀ rest, startsWithDigit rest = false →
      scanExponent negative significand exponent ((sign ++ ds).map Piece.char ++ rest) =
        .ok (x, rest) := by
  obtain ⟨x, hx⟩ := exists_floatOf_eq_ok negative hs he
  refine ⟨x, fun rest hrest => ?_⟩
  obtain ⟨hne, hdigits, hvalue⟩ := Digits.number?_eq_some_iff.mp hds
  have hskip := skipDigits_append hdigits hrest
  obtain ⟨d, ds, rfl⟩ := List.exists_cons_of_ne_nil hne
  have hd := hdigits d List.mem_cons_self
  have htail : ∀ c ∈ ds, c.isDigit = true := fun c hc => hdigits c (List.mem_cons_of_mem d hc)
  have htake := (takeWhile_digits htail hrest).1
  have hpower : (ds.map Piece.char).foldl (fun n p => 10 * n + (digit? p).getD 0)
      (d.toNat - '0'.toNat) = n := by
    rw [foldl_digits htail, ← hvalue, Digits.valueOf, Nat.ofDigitChars_cons, Nat.mul_zero,
      Nat.zero_add]
  have hsome := digit?_char hd
  generalize d.toNat - '0'.toNat = first at hpower hsome
  have hminus := ne_of_isDigit hd '-' rfl
  have hplus := ne_of_isDigit hd '+' rfl
  simp only [List.map_cons, List.cons_append] at hskip
  cases hsign with
  | none =>
    rw [if_neg Bool.false_ne_true] at hx
    simp [scanExponent, hminus, hplus, hsome, htake, hpower, hskip, hx, Except.map]
  | plus =>
    rw [if_neg Bool.false_ne_true] at hx
    simp [scanExponent, hsome, htake, hpower, hskip, hx, Except.map]
  | minus =>
    rw [if_pos rfl] at hx
    simp [scanExponent, hsome, htake, hpower, hskip, hx, Except.map]

theorem startsWithDigit_exponent {text : List Char} {e : Int} (h : IsExponent text e)
    {rest : Input} (hrest : EndsNumber rest) :
    startsWithDigit (text.map Piece.char ++ rest) = false ∧
      (text.map Piece.char ++ rest).head? ≠ some (.char '.') := by
  cases h with
  | none => exact ⟨hrest.1, hrest.2.2⟩
  | letter hc => rcases hc with rfl | rfl <;> simp [startsWithDigit, digit?, Char.isDigit]

theorem exists_scanScale (negative : Bool) (exponent : Int) (hs : significand < 2 ^ 64)
    {text : List Char} {e : Int} (h : IsExponent text e) (he : exponent + e ≤ 60) :
    ∃ x, ∀ rest, EndsNumber rest →
      scanScale negative significand exponent (text.map Piece.char ++ rest) = .ok (x, rest) := by
  cases h with
  | none =>
    obtain ⟨x, hx⟩ := exists_floatOf_eq_ok negative hs he
    refine ⟨x, fun rest hrest => ?_⟩
    have hread : startsExponent rest = false := hrest.2.1
    rw [Int.add_zero] at hx
    simp [scanScale, hread, hx, Except.map]
  | @letter c sign ds down n hc hsign hds =>
    obtain ⟨x, hx⟩ := exists_scanExponent negative exponent hs hsign hds he
    refine ⟨x, fun rest hrest => ?_⟩
    have hstarts : startsExponent (.char c :: ((sign ++ ds).map Piece.char ++ rest)) = true := by
      rcases hc with rfl | rfl <;> rfl
    rw [List.map_cons, List.cons_append, scanScale, if_pos hstarts, List.tail_cons]
    exact hx rest hrest.1

theorem exists_scanFraction (negative : Bool) (exponent : Int) (hs : significand < 2 ^ 64)
    {fraction text : List Char} (hfraction : ∀ d ∈ fraction, d.isDigit = true)
    (hne : fraction ≠ []) {e : Int} (h : IsExponent text e) (he : exponent + e ≤ 60) :
    ∃ x, ∀ rest, EndsNumber rest → scanFraction negative significand exponent
      (fraction.map Piece.char ++ (text.map Piece.char ++ rest)) = .ok (x, rest) := by
  obtain ⟨m, k, hm, hk, hscan⟩ := exists_scanSignificand hfraction hs 0
  obtain ⟨x, hx⟩ := exists_scanScale negative (exponent - k) hm h (by omega)
  refine ⟨x, fun rest hrest => ?_⟩
  have hends := (startsWithDigit_exponent h hrest).1
  have hdropped : ∀ d ∈ fraction.drop k, d.isDigit = true :=
    fun d hd => hfraction d (List.mem_of_mem_drop hd)
  have hskip := skipDigits_append hdropped hends
  rw [scanFraction, hscan _ hends]
  dsimp only
  rw [Nat.zero_add]
  by_cases hall : fraction.drop k = []
  · have hcount : k ≠ 0 := by
      rintro rfl
      exact hne hall
    rw [hall, List.map_nil, List.nil_append, if_neg (ne_true_of_eq_false hends), if_neg hcount]
    exact hx rest hrest
  · rw [if_pos (startsWithDigit_digits hdropped hall _), hskip]
    exact hx rest hrest

end Parts

theorem exists_scanAfterWhole (negative : Bool) {significand : Nat} (hs : significand < 2 ^ 64)
    {point fraction text : List Char} (hpoint : IsFraction point fraction)
    (hne : point ≠ [] → fraction ≠ []) {e : Int} (h : IsExponent text e) (he : e ≤ 60) :
    ∃ x, ∀ rest, EndsNumber rest → scanAfterWhole negative significand
      (point.map Piece.char ++ (text.map Piece.char ++ rest)) = .ok (x, rest) := by
  cases hpoint with
  | point hfraction =>
    have hdigits := hne (List.cons_ne_nil _ _)
    obtain ⟨x, hx⟩ := exists_scanFraction negative 0 hs hfraction hdigits h (by omega)
    refine ⟨x, fun rest hrest => ?_⟩
    rw [List.map_cons, List.cons_append, scanAfterWhole, if_pos List.head?_cons, List.tail_cons]
    exact hx rest hrest
  | none =>
    cases h with
    | none => exact ⟨_, fun rest hrest => scanAfterWhole_of_ends hrest negative significand⟩
    | @letter c sign ds down n hc hsign hds =>
      obtain ⟨x, hx⟩ := exists_scanExponent negative 0 hs hsign hds (by omega)
      refine ⟨x, fun rest hrest => ?_⟩
      have hstarts : startsExponent (.char c :: ((sign ++ ds).map Piece.char ++ rest)) = true := by
        rcases hc with rfl | rfl <;> rfl
      have hhead : (Piece.char c :: ((sign ++ ds).map Piece.char ++ rest)).head? ≠
          some (.char '.') := by
        rcases hc with rfl | rfl <;> simp
      rw [List.map_nil, List.nil_append, List.map_cons, List.cons_append, scanAfterWhole,
        if_neg hhead, if_pos hstarts, List.tail_cons]
      exact hx rest hrest.1

theorem exists_scanDropped (negative : Bool) {significand dropped : Nat} (hs : significand < 2 ^ 64)
    {point fraction text : List Char} (hpoint : IsFraction point fraction)
    (hne : point ≠ [] → fraction ≠ []) {e : Int} (h : IsExponent text e) (he : dropped + e ≤ 60) :
    ∃ x, ∀ rest, EndsNumber rest →
      let s := point.map Piece.char ++ (text.map Piece.char ++ rest)
      (if s.head? = some (.char '.') then scanFraction negative significand dropped s.tail
        else scanScale negative significand dropped s) = .ok (x, rest) := by
  cases hpoint with
  | point hfraction =>
    have hdigits := hne (List.cons_ne_nil _ _)
    obtain ⟨x, hx⟩ := exists_scanFraction negative dropped hs hfraction hdigits h he
    refine ⟨x, fun rest hrest => ?_⟩
    dsimp only
    rw [List.map_cons, List.cons_append, if_pos List.head?_cons, List.tail_cons]
    exact hx rest hrest
  | none =>
    obtain ⟨x, hx⟩ := exists_scanScale negative dropped hs h he
    refine ⟨x, fun rest hrest => ?_⟩
    dsimp only
    rw [List.map_nil, List.nil_append, if_neg (startsWithDigit_exponent h hrest).2]
    exact hx rest hrest

theorem startsWithDigit_fraction {point fraction text : List Char} {e : Int}
    (hpoint : IsFraction point fraction) (h : IsExponent text e) {rest : Input}
    (hrest : EndsNumber rest) :
    startsWithDigit (point.map Piece.char ++ (text.map Piece.char ++ rest)) = false := by
  cases hpoint with
  | none => exact (startsWithDigit_exponent h hrest).1
  | point => rfl

/-- A number is read from each such text. -/
theorem exists_reads_scanNumber (negative : Bool) {text : List Char} {power : Int}
    (h : IsNumberText text power) (hpower : power ≤ 61) :
    ∃ x, Reads (scanNumber negative) text x := by
  cases h with
  | @mk whole point fraction text e hwhole hpoint hne h =>
  cases hwhole with
  | zero =>
    have he : e ≤ 60 := by
      rw [List.length_singleton] at hpower
      omega
    obtain ⟨x, hx⟩ := exists_scanAfterWhole negative (Nat.two_pow_pos 64) hpoint hne h he
    refine ⟨x, fun rest hrest => ?_⟩
    have hzero : digit? (.char '0') = some 0 := rfl
    have hends := startsWithDigit_fraction hpoint h hrest
    have hread := hx rest hrest
    simp only [List.map_append, List.map_cons, List.append_assoc, List.cons_append,
      List.nil_append, scanNumber, hzero, hends]
    exact hread
  | @digits d ds hzero hdigits =>
    have hd := hdigits d List.mem_cons_self
    have hds : ∀ c ∈ ds, c.isDigit = true := fun c hc => hdigits c (List.mem_cons_of_mem d hc)
    obtain ⟨v, hv, hfit⟩ := exists_digit_eq_succ hd hzero
    obtain ⟨m, k, hm, hk, hscan⟩ := exists_scanSignificand hds hfit 1
    by_cases hall : ds.drop k = []
    · have he : e ≤ 60 := by
        rw [List.length_cons] at hpower
        omega
      obtain ⟨x, hx⟩ := exists_scanAfterWhole negative hm hpoint hne h he
      refine ⟨x, fun rest hrest => ?_⟩
      have hends := startsWithDigit_fraction hpoint h hrest
      simp only [List.map_append, List.map_cons, List.append_assoc, List.cons_append, scanNumber,
        digit?_char hd, hv]
      rw [hscan _ hends, hall, List.map_nil, List.nil_append]
      dsimp only
      rw [if_neg (ne_true_of_eq_false hends)]
      exact hx rest hrest
    · have he : ((ds.drop k).length : Int) + e ≤ 60 := by
        rw [List.length_cons] at hpower
        rw [List.length_drop]
        omega
      obtain ⟨x, hx⟩ := exists_scanDropped negative hm hpoint hne h he
      refine ⟨x, fun rest hrest => ?_⟩
      have hends := startsWithDigit_fraction hpoint h hrest
      have hdropped : ∀ c ∈ ds.drop k, c.isDigit = true :=
        fun c hc => hds c (List.mem_of_mem_drop hc)
      simp only [List.map_append, List.map_cons, List.append_assoc, List.cons_append, scanNumber,
        digit?_char hd, hv]
      rw [hscan _ hends]
      dsimp only
      rw [if_pos (startsWithDigit_digits hdropped hall _), skipDigits_append hdropped hends]
      exact hx rest hrest

theorem IsNumberText.exists_digit {text : List Char} {power : Int} (h : IsNumberText text power) :
    ∃ c cs, text = c :: cs ∧ c.isDigit = true := by
  cases h with
  | mk hwhole =>
    cases hwhole with
    | zero => exact ⟨'0', _, rfl, rfl⟩
    | @digits d ds hzero hdigits => exact ⟨d, _, rfl, hdigits d List.mem_cons_self⟩

theorem exists_readValue_numberText {text : List Char} {power : Int} (h : IsNumberText text power)
    (hpower : power ≤ 61) (depth : Nat) : ∃ v, IsTextOf (readValue depth) text v := by
  obtain ⟨x, hx⟩ := exists_reads_scanNumber false h hpower
  obtain ⟨c, cs, rfl, hc⟩ := h.exists_digit
  exact ⟨.number x, readValue_digit hc hx depth⟩

theorem isNumberText_ofNat (n : Nat) :
    IsNumberText (Digits.ofNat n) (Digits.ofNat n).length := by
  have hwhole : IsWhole (Digits.ofNat n) := by
    rcases Nat.eq_zero_or_pos n with rfl | hpos
    · exact .zero
    · obtain ⟨d, ds, hds, -⟩ := Digits.exists_ofNat_eq_cons n
      have hhead := Digits.head?_ofNat hpos
      rw [hds] at hhead
      rw [hds]
      refine .digits (fun hzero => hhead (by rw [hzero]; rfl)) fun c hc => ?_
      exact Digits.isDigit_of_mem_ofNat (hds ▸ hc)
  have htext := IsNumberText.mk hwhole .none (fun hne => (hne rfl).elim) .none
  simpa using htext

end Json

end MockHttp
