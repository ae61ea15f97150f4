import MockHttp.Proofs.Execution.Strict
import MockHttp.Proofs.Numeric.Places

/-! # What generators produce

A generator declares which values it may bind: texts of a length, integers of a range or with so
many digits, numbers of an interval, or a digest. Whatever is drawn, a decoded generator binds its
target to a value that it declares, unless there is none or the sampler refuses the bounds. All
texts and integers that are declared can be drawn.
-/

namespace MockHttp

open Binary64

/-! ## Draws -/

namespace Draw

theorem mem_alphabet_iff {c : Char} : c ∈ alphabet ↔ c.isAlphanum = true := by
  constructor
  · intro h
    have hall : alphabet.all Char.isAlphanum = true := by decide +kernel
    exact List.all_eq_true.mp hall c h
  · intro h
    have hclasses : c.isAlphanum =
        ((decide (c.val ≥ 'A'.val ∧ c.val ≤ 'Z'.val) ||
          (decide (c.val ≥ 'a'.val) && decide (c.val ≤ 'z'.val))) ||
          (decide (c.val ≥ '0'.val) && decide (c.val ≤ '9'.val))) := rfl
    have hlt : c.toNat < 123 := by
      simp only [hclasses, Bool.or_eq_true, Bool.and_eq_true, decide_eq_true_eq] at h
      change ((65 ≤ c.toNat ∧ c.toNat ≤ 90) ∨ (97 ≤ c.toNat ∧ c.toNat ≤ 122)) ∨
        (48 ≤ c.toNat ∧ c.toNat ≤ 57) at h
      omega
    have hsmall : ∀ n < 123, (Char.ofNat n).isAlphanum = true → Char.ofNat n ∈ alphabet := by
      decide +kernel
    have hmem := hsmall c.toNat hlt
    rw [Char.ofNat_toNat] at hmem
    exact hmem h

theorem letter_mem (n : Nat) : letter n ∈ alphabet := by
  have hlt : n % alphabet.length < alphabet.length := Nat.mod_lt n (by decide +kernel)
  rw [letter, List.getD_eq_getElem?_getD, List.getElem?_eq_getElem hlt]
  exact List.getElem_mem hlt

theorem letter_idxOf {c : Char} (h : c ∈ alphabet) : letter (alphabet.idxOf c) = c := by
  have hlt := List.idxOf_lt_length_of_mem h
  rw [letter, Nat.mod_eq_of_lt hlt, List.getD_eq_getElem?_getD, List.getElem?_eq_getElem hlt]
  exact List.getElem_idxOf hlt

variable {d : Draw} {low high n : Int}

theorem toList_text (d : Draw) (length : Nat) :
    (d.text length).toList = (List.range length).map fun i => letter (d.letters i) :=
  String.toList_ofList

theorem between_eq_none_iff : d.between low high = none ↔ high < low := by
  unfold between
  split <;> simp [*]

theorem between_mem (h : d.between low high = some n) : low ≤ n ∧ n ≤ high := by
  unfold between at h
  split at h
  · cases h
  · next hle =>
    cases h
    have hmod := Nat.mod_lt d.offset (show 0 < (high - low + 1).toNat by omega)
    omega

theorem exists_between_eq (hlow : low ≤ n) (hhigh : n ≤ high) :
    ∃ d : Draw, d.between low high = some n := by
  have hlt : (n - low).toNat < (high - low + 1).toNat := by omega
  refine ⟨⟨id, (n - low).toNat, .zero false⟩, ?_⟩
  rw [between, if_neg (by omega), Nat.mod_eq_of_lt hlt]
  exact congrArg some (by omega)

theorem exists_text_eq {s : String} (h : ∀ c ∈ s.toList, c.isAlphanum = true) :
    ∃ d : Draw, d.text s.toList.length = s := by
  refine ⟨⟨fun i => alphabet.idxOf (s.toList.getD i 'A'), 0, .zero false⟩, ?_⟩
  rw [← String.toList_inj, toList_text]
  refine List.ext_getElem (by simp) fun i hi hs => ?_
  have hmem := mem_alphabet_iff.mpr (h _ (List.getElem_mem hs))
  rw [List.getElem_map, List.getElem_range]
  dsimp only
  rw [List.getD_eq_getElem?_getD, List.getElem?_eq_getElem hs]
  exact letter_idxOf hmem

variable {x y z : Binary64} {places : Nat}

theorem decimal_eq_none_iff (hspan : y.sub x = .finite z) :
    d.decimal x y places = none ↔ y < x := by
  have hfinite : (y.sub x).finite?.isNone = false := by
    rw [hspan]
    rfl
  unfold decimal
  simp only [hfinite, Bool.false_eq_true, or_false]
  split <;> simp [*]

theorem decimal_mem (hplaces : places ≤ 15) (h : d.decimal x y places = some z) :
    x ≤ z ∧ z ≤ y ∧ (z = x ∨ z = y ∨ z.HasPlaces places) := by
  unfold decimal at h
  split at h
  · cases h
  · next hguard =>
    have hle : x ≤ y := Int.not_lt.mp (not_or.mp hguard).1
    dsimp only at h
    generalize (if x.sameValue y = true then x else (Extended.finite d.sample).clamp x y) = raw at h
    cases h
    obtain ⟨hlow, hhigh⟩ :=
      Extended.clamp_mem hle ((raw.mul (powerOfTen places)).round.divBy (powerOfTen places))
    refine ⟨hlow, hhigh, ?_⟩
    rcases Extended.clamp_cases ((raw.mul (powerOfTen places)).round.divBy (powerOfTen places)) x y
      with hbound | hbound | hquotient
    · exact .inl hbound
    · exact .inr (.inl hbound)
    · cases hproduct : raw.mul (powerOfTen places) with
      | finite product =>
        rw [hproduct] at hquotient
        exact .inr (.inr (hasPlaces_of_div hplaces hquotient))
      | infinite _ | notANumber =>
        rw [hproduct] at hquotient
        cases hquotient

end Draw

/-! ## Digests -/

def lowerHexDigits : List Char := "0123456789abcdef".toList

theorem Digest.mem_lowerHexDigits {bytes : Bytes} {c : Char} (h : c ∈ Digest.hexText bytes) :
    c ∈ lowerHexDigits := by
  have hdigit : ∀ n < 16, Nat.digitChar n ∈ lowerHexDigits := by decide +kernel
  obtain ⟨b, -, hc⟩ := List.mem_flatMap.mp h
  have hb := b.toNat_lt
  simp only [Digest.hexByte, List.mem_cons, List.not_mem_nil, or_false] at hc
  rcases hc with rfl | rfl
  · exact hdigit _ (by omega)
  · exact hdigit _ (Nat.mod_lt _ (by decide))

namespace Generator

/-! ## Declared values -/

/-- The values that a generator may bind. -/
inductive Declares (vars : Variables) : Generator → Json → Prop where
  | text {length : Nat} {target s : String} : s.toList.length = length →
      (∀ c ∈ s.toList, c.isAlphanum = true) →
      Declares vars (.randomString length target) (.string s)
  | integer {min max n : Int} {target : String} : min ≤ n → n ≤ max →
      Declares vars (.randomInt min max target) (.int n)
  | digits {digits : Nat} {n : Int} {target : String} : 0 < n →
      (Digits.ofInt n).length = digits → Declares vars (.randomDigits digits target) (.int n)
  | decimal {low high x : Binary64} {places : Nat} {target : String} : low ≤ x → x ≤ high →
      (x = low ∨ x = high ∨ x.HasPlaces places) →
      Declares vars (.randomDecimal low high places target) (.float x)
  | digest {source target s : String} {algorithm : HashAlgorithm} {v : Json} :
      vars.get? source = some v → s = algorithm.hexDigest v.display →
      s.toList.length = algorithm.digits → (∀ c ∈ s.toList, c ∈ lowerHexDigits) →
      Declares vars (.hash source algorithm target) (.string s)

/-- There is no value: the bounds are in reverse order, or nothing is there to be hashed. -/
inductive Lacks (vars : Variables) : Generator → Prop where
  | integer {min max : Int} {target : String} : max < min → Lacks vars (.randomInt min max target)
  | decimal {low high : Binary64} {places : Nat} {target : String} : high < low →
      Lacks vars (.randomDecimal low high places target)
  | unbound {source target : String} {algorithm : HashAlgorithm} : vars.get? source = none →
      Lacks vars (.hash source algorithm target)

structure Drawable (g : Generator) : Prop where
  inRange : g.InRange
  span {low high : Binary64} {places : Nat} {target : String} :
    g = .randomDecimal low high places target → ∃ span, high.sub low = .finite span

variable {vars : Variables} {g : Generator} {v : Json}

theorem drawable_of_decode {entry : Entry} (h : Instruction.decode entry = .generate g) :
    g.Drawable where
  inRange := by
    have hrange := Instruction.inRange_decode entry
    rwa [h] at hrange
  span := by
    rintro low high places target rfl
    exact Instruction.span_of_decode h

theorem lacks_randomDecimal_iff {low high : Binary64} {places : Nat} {target : String} :
    (randomDecimal low high places target).Lacks vars ↔ high < low := by
  constructor
  · intro h
    cases h with
    | decimal h => exact h
  · exact .decimal

theorem value?_eq_none_iff (hg : g.Drawable) (d : Draw) :
    g.value? vars d = none ↔ g.Lacks vars := by
  cases g with
  | randomString length target =>
    constructor
    · intro h
      cases h
    · intro h
      cases h
  | randomInt min max target =>
    rw [value?, Option.map_eq_none_iff, Draw.between_eq_none_iff]
    constructor
    · exact .integer
    · intro h
      cases h with
      | integer h => exact h
  | randomDigits digits target =>
    have hpow : Nat.pow 10 (digits - 1) < Nat.pow 10 digits := Strict.pow_pred_lt hg.inRange.1
    rw [value?, Option.map_eq_none_iff, Draw.between_eq_none_iff]
    constructor
    · intro h
      omega
    · intro h
      cases h
  | randomDecimal low high places target =>
    obtain ⟨span, hspan⟩ := hg.span rfl
    rw [value?, Option.map_eq_none_iff, Draw.decimal_eq_none_iff hspan, lacks_randomDecimal_iff]
  | hash source algorithm target =>
    rw [value?, Option.map_eq_none_iff]
    constructor
    · exact .unbound
    · intro h
      cases h with
      | unbound h => exact h

theorem isRefused_of_lacks (h : g.Lacks vars) : g.isRefused = false := by
  cases h with
  | decimal h => exact decide_eq_false fun hrefuses => Int.lt_asymm h hrefuses.1
  | integer | unbound => rfl

theorem length_ofInt_iff {digits : Nat} {n : Int} (hdigits : 1 ≤ digits) :
    0 < n ∧ (Digits.ofInt n).length = digits ↔
      (Nat.pow 10 (digits - 1) : Nat) ≤ n ∧ n ≤ (Nat.pow 10 digits : Nat) - 1 := by
  obtain ⟨k, rfl⟩ := Nat.exists_eq_add_of_le' hdigits
  have hlow : Nat.pow 10 (k + 1 - 1) = 10 ^ k := Nat.pow_eq
  have hhigh : Nat.pow 10 (k + 1) = 10 ^ (k + 1) := Nat.pow_eq
  have hpos : 0 < 10 ^ k := Nat.pow_pos (by decide)
  rw [hlow, hhigh]
  rcases Int.lt_or_le 0 n with hn | hn
  · have hlength := @Digits.length_ofNat_iff n.natAbs k (by omega)
    rw [Digits.ofInt, if_neg hn.not_gt, hlength]
    omega
  · omega

theorem declares_of_value? (hg : g.Drawable) {d : Draw} (h : g.value? vars d = some v) :
    g.Declares vars v := by
  cases g with
  | randomString length target =>
    cases h
    have hmin : Nat.min length maxRandomLength = length := Nat.min_eq_left hg.inRange
    rw [hmin]
    refine .text ?_ fun c hc => ?_
    · rw [Draw.toList_text, List.length_map, List.length_range]
    · rw [Draw.toList_text] at hc
      obtain ⟨i, -, rfl⟩ := List.mem_map.mp hc
      exact Draw.mem_alphabet_iff.mp (Draw.letter_mem _)
  | randomInt min max target =>
    obtain ⟨n, hn, rfl⟩ := Option.map_eq_some_iff.mp h
    obtain ⟨hlow, hhigh⟩ := Draw.between_mem hn
    exact .integer hlow hhigh
  | randomDigits digits target =>
    obtain ⟨n, hn, rfl⟩ := Option.map_eq_some_iff.mp h
    obtain ⟨hpos, hlength⟩ := (length_ofInt_iff hg.inRange.1).mpr (Draw.between_mem hn)
    exact .digits hpos hlength
  | randomDecimal low high places target =>
    obtain ⟨x, hx, rfl⟩ := Option.map_eq_some_iff.mp h
    obtain ⟨hlow, hhigh, hplaces⟩ := Draw.decimal_mem hg.inRange hx
    exact .decimal hlow hhigh hplaces
  | hash source algorithm target =>
    obtain ⟨v, hv, rfl⟩ := Option.map_eq_some_iff.mp h
    refine .digest hv rfl (HashAlgorithm.length_hexDigest ..) fun c hc => ?_
    rw [HashAlgorithm.hexDigest, String.toList_ofList] at hc
    exact Digest.mem_lowerHexDigits hc

/-- Every text and every integer that is declared is drawn in some way. -/
theorem exists_draw (hg : g.Drawable) (h : g.Declares vars v)
    (hdecimal : ∀ low high places target, g ≠ .randomDecimal low high places target) :
    ∃ d, g.value? vars d = some v := by
  cases h with
  | @text length target s hlength hall =>
    obtain ⟨d, hd⟩ := Draw.exists_text_eq hall
    have hmin : Nat.min length maxRandomLength = length := Nat.min_eq_left hg.inRange
    rw [hlength] at hd
    exact ⟨d, by rw [value?, hmin, hd]⟩
  | integer hlow hhigh =>
    obtain ⟨d, hd⟩ := Draw.exists_between_eq hlow hhigh
    exact ⟨d, by rw [value?, hd]; rfl⟩
  | digits hpos hlength =>
    obtain ⟨hlow, hhigh⟩ := (length_ofInt_iff hg.inRange.1).mp ⟨hpos, hlength⟩
    obtain ⟨d, hd⟩ := Draw.exists_between_eq hlow hhigh
    exact ⟨d, by rw [value?, hd]; rfl⟩
  | decimal => exact (hdecimal _ _ _ _ rfl).elim
  | digest hv hs =>
    refine ⟨⟨id, 0, .zero false⟩, ?_⟩
    rw [value?, hv, hs]
    rfl

end Generator

namespace Execution

theorem strict_step_of_decode {entry : Entry} {g : Generator}
    (h : Instruction.decode entry = .generate g) (e : Execution) (d : Draw) :
    Strict.step d e (.generate g) =
      if g.isRefused then .error .rangeOverflow else .ok (e.generate d g) :=
  Strict.generate_of_inRange (Generator.drawable_of_decode h).inRange e d

/-- A decoded generator binds its target to a value that it declares, whatever is drawn, and changes
nothing else. It does nothing at all if there is no such value, and fails where the sampler refuses
its bounds. Of the declared texts, integers and digests none is left out. -/
theorem step_generate_declares {entry : Entry} {g : Generator}
    (h : Instruction.decode entry = .generate g) (e : Execution) :
    (∀ d, (g.Lacks e.vars → Strict.step d e (.generate g) = .ok e) ∧
      (g.isRefused = true → Strict.step d e (.generate g) = .error .rangeOverflow) ∧
      (¬ g.Lacks e.vars → g.isRefused = false → ∃ v, g.Declares e.vars v ∧
        Strict.step d e (.generate g) = .ok (e.bind g.target v) ∧
        ∀ name, name ≠ g.target → (e.bind g.target v).vars.get? name = e.vars.get? name)) ∧
    ((∀ low high places target, g ≠ .randomDecimal low high places target) →
      ∀ v, g.Declares e.vars v →
        ∃ d, Strict.step d e (.generate g) = .ok (e.bind g.target v)) := by
  have hg := Generator.drawable_of_decode h
  have hstrict := strict_step_of_decode h e
  have hbind {d : Draw} {v : Json} (hrefused : g.isRefused = false)
      (hv : g.value? e.vars d = some v) :
      Strict.step d e (.generate g) = .ok (e.bind g.target v) := by
    rw [hstrict, hrefused, generate, hv]
    rfl
  refine ⟨fun d => ⟨fun hlacks => ?_, fun hrefused => ?_, fun hlacks hrefused => ?_⟩,
    fun hdecimal v hv => ?_⟩
  · have hnone := (Generator.value?_eq_none_iff hg d).mpr hlacks
    rw [hstrict, generate, hnone, Generator.isRefused_of_lacks hlacks]
    rfl
  · rw [hstrict, hrefused]
    rfl
  · obtain ⟨v, hv⟩ := Option.ne_none_iff_exists'.mp
      (mt (Generator.value?_eq_none_iff hg d).mp hlacks)
    refine ⟨v, Generator.declares_of_value? hg hv, hbind hrefused hv, fun name hname => ?_⟩
    rw [bind, Dict.get?_insert, if_neg hname]
  · obtain ⟨d, hd⟩ := Generator.exists_draw hg hv hdecimal
    have hrefused : g.isRefused = false := by
      cases g with
      | randomDecimal => exact (hdecimal _ _ _ _ rfl).elim
      | randomString | randomInt | randomDigits | hash => rfl
    exact ⟨d, hbind hrefused hd⟩

/-- Scaled by `10 ^ 15` the sample is infinite, and so the upper bound is bound. -/
theorem step_generate_declares_beyond_largest :
    let high : Binary64 := ⟨false, 0x1FFFFFFFFFFFFD, 2045, by decide⟩
    let g := Generator.randomDecimal (.zero false) high 15 "V"
    let e := start ⟨"GET", "/", [], [], []⟩
    let d : Draw := ⟨id, 0, ⟨false, 0x10000000000000, 2045, by decide⟩⟩
    Instruction.decode ⟨"Generator", "GenerateRandomDecimal",
        [.int 0, .string "1.7976931348623153e308", .int 99, .string "V"]⟩ = .generate g ∧
      ¬ g.Lacks e.vars ∧ g.isRefused = false ∧ (d.sample.mul (powerOfTen 15)).finite? = none ∧
      g.value? e.vars d = some (.float high) ∧
      ∃ v, g.Declares e.vars v ∧ Strict.step d e (.generate g) = .ok (e.bind "V" v) := by
  intro high g e d
  have hdecode := @Instruction.decode_generatorEntry
    [.int 0, .string "1.7976931348623153e308", .int 99, .string "V"] .randomDecimal g
    (by decide +kernel)
  have hlacks : ¬ g.Lacks e.vars := Generator.lacks_randomDecimal_iff.not.mpr (by decide +kernel)
  have hrefused : g.isRefused = false := by decide +kernel
  have hvalue : g.value? e.vars d = some (.float high) := by
    have hdecimal : d.decimal (.zero false) high 15 = some high := by decide +kernel
    have hmap : g.value? e.vars d = (d.decimal (.zero false) high 15).map Json.float := rfl
    rw [hmap, hdecimal, Option.map_some]
  obtain ⟨v, hv, hstep, -⟩ := ((step_generate_declares hdecode e).1 d).2.2 hlacks hrefused
  exact ⟨hdecode, hlacks, hrefused, by decide +kernel, hvalue, v, hv, hstep⟩

/-- The bounds are in order, and whatever is drawn, no number between them is bound. -/
theorem not_generates_between_largest :
    let g := Generator.randomDecimal (.zero false) (largest false) 2 "V"
    Instruction.decode ⟨"Generator", "GenerateRandomDecimal",
        [.int 0, .string "1.7976931348623157e308", .int 2, .string "V"]⟩ = .generate g ∧
      ∀ e d, ¬ g.Lacks e.vars ∧ Strict.step d e (.generate g) = .error .rangeOverflow ∧
        ¬ ∃ v, g.Declares e.vars v ∧ Strict.step d e (.generate g) = .ok (e.bind "V" v) := by
  intro g
  have hdecode := @Instruction.decode_generatorEntry
    [.int 0, .string "1.7976931348623157e308", .int 2, .string "V"] .randomDecimal g
    (by decide +kernel)
  refine ⟨hdecode, fun e d => ?_⟩
  have hlacks : ¬ g.Lacks e.vars := Generator.lacks_randomDecimal_iff.not.mpr (by decide +kernel)
  have hrefused : g.isRefused = true := by decide +kernel
  have hstep : Strict.step d e (.generate g) = .error .rangeOverflow := by
    have hstrict := strict_step_of_decode hdecode e d
    rw [hrefused] at hstrict
    exact hstrict
  refine ⟨hlacks, hstep, ?_⟩
  rintro ⟨v, -, hv⟩
  rw [hstep] at hv
  cases hv

end Execution

end MockHttp
