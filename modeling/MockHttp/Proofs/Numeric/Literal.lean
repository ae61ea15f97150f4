import MockHttp.Proofs.Numeric.Decimal
import MockHttp.Text.Blank

/-! # The grammar of literals

A decimal literal is an optional sign, digits with an optional point among or beside them, and an
optional exponent. Exactly the decimal literals below the overflow are read as finite numbers, and
the number is the nearest one. In particular the decimal text of an integer is read as the number
nearest to the integer.
-/

namespace MockHttp

namespace Digits

variable {ds rest : List Char}

theorem leading_append (hds : ∀ c ∈ ds, c.isDigit = true) (hrest : leading rest = []) :
    leading (ds ++ rest) = ds := by
  unfold leading at hrest ⊢
  rw [List.takeWhile_append_of_pos hds, hrest, List.append_nil]

theorem afterLeading_append (hds : ∀ c ∈ ds, c.isDigit = true) (hrest : leading rest = []) :
    afterLeading (ds ++ rest) = rest := by
  have h := leading_append_afterLeading (ds ++ rest)
  rwa [leading_append hds hrest, List.append_cancel_left_eq] at h

theorem isDigit_of_mem_leading {cs : List Char} : ∀ c ∈ leading cs, c.isDigit = true :=
  List.all_eq_true.mp List.all_takeWhile

theorem leading_afterLeading (cs : List Char) : leading (afterLeading cs) = [] := by
  unfold leading afterLeading
  induction cs with
  | nil => rfl
  | cons c cs ih =>
    rw [List.dropWhile_cons]
    split
    · exact ih
    · next hc => exact List.takeWhile_cons_of_neg hc

end Digits

namespace Binary64

inductive IsSign : List Char → Bool → Prop where
  | none : IsSign [] false
  | plus : IsSign ['+'] false
  | minus : IsSign ['-'] true

inductive IsFraction : List Char → List Char → Prop where
  | none : IsFraction [] []
  | point {ds : List Char} : (∀ c ∈ ds, c.isDigit = true) → IsFraction ('.' :: ds) ds

inductive IsExponent : List Char → Int → Prop where
  | none : IsExponent [] 0
  | letter {c : Char} {sign ds : List Char} {negative : Bool} {n : Nat} : c = 'e' ∨ c = 'E' →
      IsSign sign negative → Digits.number? ds = some n →
      IsExponent (c :: (sign ++ ds)) (if negative then -(n : Int) else n)

/-- A literal without sign, for `digits * 10 ^ exponent`. -/
inductive IsUnsigned : List Char → Nat → Int → Prop where
  | mk {whole point fraction rest : List Char} {e : Int} : (∀ c ∈ whole, c.isDigit = true) →
      IsFraction point fraction → ¬ (whole = [] ∧ fraction = []) → IsExponent rest e →
      IsUnsigned (whole ++ (point ++ rest)) (Digits.valueOf (whole ++ fraction))
        (e - fraction.length)

inductive IsDecimal : List Char → Bool → Nat → Int → Prop where
  | mk {sign rest : List Char} {negative : Bool} {digits : Nat} {exponent : Int} :
      IsSign sign negative → IsUnsigned rest digits exponent →
      IsDecimal (sign ++ rest) negative digits exponent

variable {negative : Bool} {cs rest ds : List Char} {digits : Nat} {exponent : Int} {n : Nat}
  {y : Extended} {x : Binary64}

theorem number?_ne_cons_sign {c : Char} (hc : c.isDigit = false) :
    Digits.number? (c :: cs) ≠ some n := by
  intro h
  obtain ⟨-, hdigits, -⟩ := Digits.number?_eq_some_iff.mp h
  rw [hdigits c List.mem_cons_self] at hc
  cases hc

theorem exponentOf?_minus {c : Char} (hc : c = 'e' ∨ c = 'E') (ds : List Char) :
    exponentOf? (c :: '-' :: ds) = (Digits.number? ds).map fun n : Nat => -(n : Int) := by
  cases hn : Digits.number? ds <;> simp [exponentOf?, hc, hn]

theorem exponentOf?_letter {c : Char} {sign : List Char} (hc : c = 'e' ∨ c = 'E')
    (hsign : IsSign sign negative) (hn : Digits.number? ds = some n) :
    exponentOf? (c :: (sign ++ ds)) = some (if negative then -(n : Int) else n) := by
  cases hsign with
  | minus =>
    rw [List.cons_append, List.nil_append, exponentOf?_minus hc, hn]
    rfl
  | plus => simp [exponentOf?, hc, hn]
  | none =>
    rw [List.nil_append]
    unfold exponentOf?
    dsimp only
    rw [if_pos hc]
    split
    · exact (number?_ne_cons_sign rfl hn).elim
    · exact (number?_ne_cons_sign rfl hn).elim
    · rw [hn]
      rfl

theorem exponentOf?_eq_some_iff : exponentOf? cs = some exponent ↔ IsExponent cs exponent := by
  constructor
  · intro h
    unfold exponentOf? at h
    split at h
    · cases h
      exact .none
    · next c rest =>
      split at h
      · next hc =>
        split at h
        · next ds =>
          have hminus : exponentOf? (c :: '-' :: ds) = some exponent := (if_pos hc).trans h
          rw [exponentOf?_minus hc] at hminus
          obtain ⟨n, hn, rfl⟩ := Option.map_eq_some_iff.mp hminus
          exact .letter hc .minus hn
        · obtain ⟨n, hn, rfl⟩ := Option.map_eq_some_iff.mp h
          exact .letter hc .plus hn
        · obtain ⟨n, hn, rfl⟩ := Option.map_eq_some_iff.mp h
          exact .letter hc .none hn
      · cases h
  · rintro (_ | ⟨hc, hsign, hn⟩)
    · rfl
    · exact exponentOf?_letter hc hsign hn

theorem IsExponent.leading_eq_nil (h : IsExponent cs exponent) : Digits.leading cs = [] := by
  cases h with
  | none => rfl
  | letter hc _ _ => rcases hc with rfl | rfl <;> rfl

theorem IsExponent.ne_point (h : IsExponent cs exponent) (tail : List Char) : cs ≠ '.' :: tail := by
  rintro rfl
  cases h with
  | letter hc _ _ => rcases hc with hc | hc <;> cases hc

structure HasParts (cs whole point fraction rest : List Char) : Prop where
  eq : cs = whole ++ (point ++ rest)
  isDigit : ∀ c ∈ whole, c.isDigit = true
  isFraction : IsFraction point fraction
  leading_eq_nil : Digits.leading rest = []
  ne_point : point = [] → ∀ tail, rest ≠ '.' :: tail

theorem exists_hasParts (cs : List Char) :
    ∃ whole point fraction rest, HasParts cs whole point fraction rest := by
  have hcs := (Digits.leading_append_afterLeading cs).symm
  by_cases hpoint : ∃ tail, Digits.afterLeading cs = '.' :: tail
  · obtain ⟨tail, htail⟩ := hpoint
    refine ⟨Digits.leading cs, '.' :: Digits.leading tail, Digits.leading tail,
      Digits.afterLeading tail, ⟨?_, Digits.isDigit_of_mem_leading,
        .point Digits.isDigit_of_mem_leading, Digits.leading_afterLeading tail, nofun⟩⟩
    rw [List.cons_append, Digits.leading_append_afterLeading, ← htail]
    exact hcs
  · exact ⟨Digits.leading cs, [], [], Digits.afterLeading cs, ⟨hcs, Digits.isDigit_of_mem_leading,
      .none, Digits.leading_afterLeading cs, fun _ tail htail => hpoint ⟨tail, htail⟩⟩⟩

theorem HasParts.unsignedLiteral?_eq {whole point fraction : List Char}
    (h : HasParts cs whole point fraction rest) (negative : Bool) :
    unsignedLiteral? negative cs =
      if whole = [] ∧ fraction = [] then none
      else (exponentOf? rest).map fun e =>
        ofDecimal negative (Digits.valueOf (whole ++ fraction)) (e - fraction.length) := by
  obtain ⟨rfl, hwhole, hfraction, hrest, hpoint⟩ := h
  have hnil : Digits.leading (point ++ rest) = [] := by
    cases hfraction with
    | none => exact hrest
    | point _ => rfl
  unfold unsignedLiteral?
  dsimp only
  rw [Digits.leading_append hwhole hnil, Digits.afterLeading_append hwhole hnil]
  cases hfraction with
  | none =>
    rw [List.nil_append]
    split
    · next tail => exact (hpoint rfl tail rfl).elim
    · rfl
  | point hdigits =>
    simp only [List.cons_append, Digits.leading_append hdigits hrest,
      Digits.afterLeading_append hdigits hrest]

theorem unsignedLiteral?_eq_some_iff : unsignedLiteral? negative cs = some y ↔
    ∃ digits exponent, IsUnsigned cs digits exponent ∧ ofDecimal negative digits exponent = y := by
  constructor
  · intro h
    obtain ⟨whole, point, fraction, rest, hparts⟩ := exists_hasParts cs
    rw [hparts.unsignedLiteral?_eq] at h
    split at h
    · cases h
    · next hne =>
      obtain ⟨e, he, rfl⟩ := Option.map_eq_some_iff.mp h
      obtain ⟨rfl, hwhole, hfraction, -, -⟩ := hparts
      exact ⟨_, _, .mk hwhole hfraction hne (exponentOf?_eq_some_iff.mp he), rfl⟩
  · rintro ⟨_, _, ⟨hwhole, hfraction, hne, hexponent⟩, rfl⟩
    have hparts : HasParts _ _ _ _ _ :=
      ⟨rfl, hwhole, hfraction, hexponent.leading_eq_nil, fun _ => hexponent.ne_point⟩
    rw [hparts.unsignedLiteral?_eq, if_neg hne, exponentOf?_eq_some_iff.mpr hexponent]
    rfl

/-! ## Signs and words -/

theorem IsUnsigned.head (h : IsUnsigned cs digits exponent) :
    ∃ c rest, cs = c :: rest ∧ (c.isDigit = true ∨ c = '.') := by
  obtain ⟨hwhole, hfraction, hne, -⟩ := h
  next whole point fraction rest e =>
  cases whole with
  | cons c whole => exact ⟨c, _, rfl, .inl (hwhole c List.mem_cons_self)⟩
  | nil =>
    cases hfraction with
    | none => exact (hne ⟨rfl, rfl⟩).elim
    | point _ => exact ⟨'.', _, rfl, .inr rfl⟩

theorem IsUnsigned.head_toLower (h : IsUnsigned cs digits exponent) :
    ∀ c ∈ (cs.map Char.toLower).head?, c ≠ 'i' ∧ c ≠ 'n' := by
  obtain ⟨c, rest, rfl, hc⟩ := h.head
  rw [List.map_cons, List.head?_cons]
  rintro _ ⟨rfl⟩
  rcases hc with hc | rfl
  · have hsame : c.toLower = c := by
      apply dif_neg
      rintro ⟨hupper, -⟩
      have hle : 'A'.toNat ≤ c.toNat := UInt32.le_iff_toNat_le.mp hupper
      exact absurd ((Char.isDigit_iff_toNat.mp hc).2)
        (Nat.not_le.mpr (Nat.lt_of_lt_of_le (by decide) hle))
    rw [hsame]
    constructor <;> rintro rfl <;> cases hc
  · decide

theorem unless_word_iff (negative : Bool) (cs : List Char) :
    (if cs.map Char.toLower = ['i', 'n', 'f'] ∨
        cs.map Char.toLower = ['i', 'n', 'f', 'i', 'n', 'i', 't', 'y'] then
      some (.infinite negative)
    else if cs.map Char.toLower = ['n', 'a', 'n'] then some .notANumber
    else unsignedLiteral? negative cs) = some (.finite x) ↔
      unsignedLiteral? negative cs = some (.finite x) := by
  have hhead (h : unsignedLiteral? negative cs = some (.finite x)) :
      ∀ c ∈ (cs.map Char.toLower).head?, c ≠ 'i' ∧ c ≠ 'n' := by
    obtain ⟨_, _, hunsigned, -⟩ := unsignedLiteral?_eq_some_iff.mp h
    exact hunsigned.head_toLower
  generalize cs.map Char.toLower = word at *
  split
  · next hword =>
    refine ⟨nofun, fun h => ?_⟩
    rcases hword with rfl | rfl <;> exact ((hhead h 'i' rfl).1 rfl).elim
  split
  · next hword =>
    refine ⟨nofun, fun h => ?_⟩
    subst hword
    exact ((hhead h 'n' rfl).2 rfl).elim
  · rfl

/-- An unsigned literal does not begin with a sign, so there is one way to take a sign off. -/
theorem literal?_eq_some_finite_iff : literal? cs = some (.finite x) ↔
    ∃ negative digits exponent, IsDecimal cs negative digits exponent ∧
      ofDecimal negative digits exponent = .finite x := by
  constructor
  · intro h
    unfold literal? at h
    split at h
    next negative rest hsplit =>
    obtain ⟨digits, exponent, hunsigned, hx⟩ :=
      unsignedLiteral?_eq_some_iff.mp ((unless_word_iff negative rest).mp h)
    refine ⟨negative, digits, exponent, ?_, hx⟩
    split at hsplit <;> cases hsplit
    · exact .mk .minus hunsigned
    · exact .mk .plus hunsigned
    · exact .mk .none hunsigned
  · rintro ⟨negative, digits, exponent, ⟨hsign, hunsigned⟩, hx⟩
    have hread := unsignedLiteral?_eq_some_iff.mpr ⟨digits, exponent, hunsigned, hx⟩
    unfold literal?
    cases hsign with
    | minus => exact (unless_word_iff true _).mpr hread
    | plus => exact (unless_word_iff false _).mpr hread
    | none =>
      obtain ⟨c, rest, rfl, hc⟩ := hunsigned.head
      rw [List.nil_append]
      split
      next negative rest hsplit =>
      split at hsplit
      · next hminus => exact absurd hc (by rw [List.cons.inj hminus |>.1]; decide)
      · next hplus => exact absurd hc (by rw [List.cons.inj hplus |>.1]; decide)
      · cases hsplit
        exact (unless_word_iff false _).mpr hread

/-! ## Characters of literals -/

theorem not_isBlank_of_isDigit {c : Char} (h : c.isDigit = true) : Text.isBlank c = false := by
  have hbounds := Char.isDigit_iff_toNat.mp h
  have hzero : '0'.toNat = 48 := rfl
  have hnine : '9'.toNat = 57 := rfl
  simp only [Text.isBlank, Bool.or_eq_false_iff, Bool.and_eq_false_imp, decide_eq_true_eq,
    decide_eq_false_iff_not, beq_eq_false_iff_ne, ne_eq]
  omega

theorem IsSign.not_isBlank (h : IsSign cs negative) : ∀ c ∈ cs, Text.isBlank c = false := by
  cases h with
  | none => exact fun _ hc => (List.not_mem_nil hc).elim
  | plus | minus => exact List.forall_mem_singleton.mpr (by decide)

theorem IsExponent.not_isBlank (h : IsExponent cs exponent) :
    ∀ c ∈ cs, Text.isBlank c = false := by
  cases h with
  | none => exact fun _ hc => (List.not_mem_nil hc).elim
  | letter hc hsign hn =>
    obtain ⟨-, hdigits, -⟩ := Digits.number?_eq_some_iff.mp hn
    refine List.forall_mem_cons.mpr ⟨?_, List.forall_mem_append.mpr ⟨hsign.not_isBlank, ?_⟩⟩
    · rcases hc with rfl | rfl <;> decide
    · exact fun d hd => not_isBlank_of_isDigit (hdigits d hd)

theorem IsFraction.not_isBlank (h : IsFraction cs ds) : ∀ c ∈ cs, Text.isBlank c = false := by
  cases h with
  | none => exact fun _ hc => (List.not_mem_nil hc).elim
  | point hdigits =>
    exact List.forall_mem_cons.mpr ⟨by decide, fun d hd => not_isBlank_of_isDigit (hdigits d hd)⟩

theorem IsDecimal.not_isBlank (h : IsDecimal cs negative digits exponent) :
    ∀ c ∈ cs, Text.isBlank c = false := by
  obtain ⟨hsign, hwhole, hfraction, -, hexponent⟩ := h
  simp only [List.forall_mem_append]
  exact ⟨hsign.not_isBlank, fun d hd => not_isBlank_of_isDigit (hwhole d hd),
    hfraction.not_isBlank, hexponent.not_isBlank⟩

/-! ## Integers -/

theorem isUnsigned_ofNat (n : Nat) : IsUnsigned (Digits.ofNat n) n 0 := by
  have h : IsUnsigned (Digits.ofNat n ++ ([] ++ [])) (Digits.valueOf (Digits.ofNat n ++ []))
      (0 - ([] : List Char).length) :=
    .mk (fun _ => Digits.isDigit_of_mem_ofNat) .none
      (fun hnil => Digits.ofNat_ne_nil n hnil.1) .none
  simpa only [List.append_nil, Digits.valueOf_ofNat, List.length_nil, Int.natCast_zero,
    Int.sub_zero] using h

theorem isDecimal_ofInt (n : Int) : IsDecimal (Digits.ofInt n) (decide (n < 0)) n.natAbs 0 := by
  unfold Digits.ofInt
  split
  · next hn =>
    rw [decide_eq_true hn]
    exact .mk .minus (isUnsigned_ofNat n.natAbs)
  · next hn =>
    rw [decide_eq_false hn]
    exact .mk .none (isUnsigned_ofNat n.natAbs)

theorem ofDecimal_natAbs {n : Int} (h : n.natAbs.log2 < 1000) :
    ofDecimal (decide (n < 0)) n.natAbs 0 = .finite (ofInt n) := by
  obtain ⟨x, hx, -⟩ := ofRatio_one_eq_finite (decide (n < 0)) h
  have hunits : decimalUnits n.natAbs 0 = n.natAbs * one := by
    rw [decimalUnits, Int.toNat_zero, Nat.pow_zero, Nat.mul_one]
  have hround : ofDecimal (decide (n < 0)) n.natAbs 0 = ofRatio (decide (n < 0)) n.natAbs 1 := by
    rw [ofDecimal_eq_roundUnits, hunits]
    rfl
  rw [hround, ofInt, hx]
  rfl

end Binary64

end MockHttp
