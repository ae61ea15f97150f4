import MockHttp.Dict
import MockHttp.Text.Utf8

/-! # Header names and values

A name is a token in lower case. A value is a list of bytes; the legal ones hold no control
characters apart from the tab.
-/

namespace MockHttp

def isTokenChar (c : Char) : Bool :=
  c.isAlphanum || "!#$%&'*+-.^_`|~".toList.contains c

def maxNameLength : Nat := 65535

structure HeaderName where
  chars : List Char
  legal : chars ≠ [] ∧ chars.length ≤ maxNameLength ∧
    chars.all (fun c => isTokenChar c && !c.isUpper) = true
deriving DecidableEq

namespace HeaderName

def text (h : HeaderName) : String := String.ofList h.chars

instance : Ord HeaderName := ⟨fun a b => compare a.text b.text⟩

theorem text_inj {a b : HeaderName} (h : a.text = b.text) : a = b := by
  have := String.ofList_injective h
  cases a; cases b; simp_all

instance : Std.TransOrd HeaderName :=
  inferInstanceAs (Std.TransCmp (compareOn HeaderName.text))

instance : Std.LawfulEqOrd HeaderName where
  compare_self {a} := by
    change compare a.text a.text = .eq
    exact Std.compare_self
  eq_of_compare {a b} h := by
    change compare a.text b.text = .eq at h
    exact text_inj (Std.compare_eq_iff_eq.mp h)

/-- The name with its letters in lower case, if it is a token of a legal length. -/
def ofChars? (cs : List Char) : Option HeaderName :=
  let lower := cs.map Char.toLower
  if h : lower ≠ [] ∧ lower.length ≤ maxNameLength ∧
      lower.all (fun c => isTokenChar c && !c.isUpper) = true then
    some ⟨lower, h⟩
  else none

def ofText? (s : String) : Option HeaderName := ofChars? s.toList

theorem ofText?_eq_some_iff {s : String} {h : HeaderName} :
    ofText? s = some h ↔ h.chars = s.toList.map Char.toLower := by
  unfold ofText? ofChars?
  constructor
  · intro hs
    dsimp only at hs
    split at hs
    · cases hs
      rfl
    · cases hs
  · intro hs
    have hlegal := h.legal
    rw [hs] at hlegal
    rw [dif_pos hlegal]
    cases h
    simp_all

def IsLegalText (s : String) : Prop :=
  s.toList ≠ [] ∧ s.toList.length ≤ maxNameLength ∧ ∀ c ∈ s.toList, isTokenChar c = true

theorem isLegalText (h : HeaderName) : IsLegalText h.text := by
  obtain ⟨hne, hlen, hall⟩ := h.legal
  have hchars : h.text.toList = h.chars := String.toList_ofList
  rw [IsLegalText, hchars]
  refine ⟨hne, hlen, fun c hc => ?_⟩
  exact (Bool.and_eq_true_iff.mp (List.all_eq_true.mp hall c hc)).1

theorem isUpper_eq_false (h : HeaderName) {c : Char} (hc : c ∈ h.chars) : c.isUpper = false := by
  have hlower := (Bool.and_eq_true_iff.mp (List.all_eq_true.mp h.legal.2.2 c hc)).2
  simpa using hlower

theorem isTokenChar_of_lower {c : Char} (hlow : 97 ≤ c.val.toNat) (hhigh : c.val.toNat ≤ 122) :
    (isTokenChar c && !c.isUpper) = true := by
  have hlower : c.isLower = true := by
    refine Bool.and_eq_true_iff.mpr ⟨decide_eq_true ?_, decide_eq_true ?_⟩
    · exact UInt32.le_iff_toNat_le.mpr hlow
    · exact UInt32.le_iff_toNat_le.mpr hhigh
  have hupper : c.isUpper = false := by
    refine decide_eq_false fun h => ?_
    have hz : c.val.toNat ≤ 90 := UInt32.le_iff_toNat_le.mp h.2
    omega
  have halpha : c.isAlpha = true := by
    change (c.isUpper || c.isLower) = true
    rw [hlower, Bool.or_true]
  have halphanum : c.isAlphanum = true := by
    change (c.isAlpha || c.isDigit) = true
    rw [halpha, Bool.true_or]
  rw [isTokenChar, halphanum, hupper]
  rfl

theorem isTokenChar_toLower {c : Char} (h : isTokenChar c = true) :
    (isTokenChar c.toLower && !c.toLower.isUpper) = true := by
  unfold Char.toLower
  split
  · next hc =>
    have hlow : 65 ≤ c.val.toNat := UInt32.le_iff_toNat_le.mp hc.1
    have hhigh : c.val.toNat ≤ 90 := UInt32.le_iff_toNat_le.mp hc.2
    have hval : (c.val + ('a'.val - 'A'.val)).toNat = c.val.toNat + 32 := by
      have hshift : ('a'.val - 'A'.val).toNat = 32 := by decide
      rw [UInt32.toNat_add, hshift]
      omega
    have h97 : 97 ≤ (c.val + ('a'.val - 'A'.val)).toNat := by omega
    have h122 : (c.val + ('a'.val - 'A'.val)).toNat ≤ 122 := by omega
    exact isTokenChar_of_lower h97 h122
  · next hc =>
    have hu : c.isUpper = false := decide_eq_false hc
    rw [h, hu]
    rfl

theorem exists_ofText? {s : String} (h : IsLegalText s) : ∃ name, ofText? s = some name := by
  obtain ⟨hne, hlen, htoken⟩ := h
  have hlower : s.toList.map Char.toLower ≠ [] ∧
      (s.toList.map Char.toLower).length ≤ maxNameLength ∧
      (s.toList.map Char.toLower).all (fun c => isTokenChar c && !c.isUpper) = true := by
    refine ⟨by simpa using hne, by simpa using hlen, ?_⟩
    simp only [List.all_map, List.all_eq_true, Function.comp_apply]
    exact fun c hc => isTokenChar_toLower (htoken c hc)
  exact ⟨⟨_, hlower⟩, ofText?_eq_some_iff.mpr rfl⟩

/-- Letters in upper case make no difference to what is legal. -/
theorem isLegalText_of_ofText? {s : String} {name : HeaderName} (h : ofText? s = some name) :
    IsLegalText s := by
  obtain ⟨hne, hlen, hall⟩ := name.legal
  rw [ofText?_eq_some_iff.mp h] at hne hlen hall
  refine ⟨by simpa using hne, by simpa using hlen, fun c hc => ?_⟩
  have hlower := List.all_eq_true.mp hall c.toLower (List.mem_map_of_mem hc)
  unfold Char.toLower at hlower
  split at hlower
  · next hupper =>
    have halpha : c.isAlpha = true := Bool.or_eq_true_iff.mpr (.inl (decide_eq_true hupper))
    have halphanum : c.isAlphanum = true := Bool.or_eq_true_iff.mpr (.inl halpha)
    rw [isTokenChar, halphanum, Bool.true_or]
  · exact (Bool.and_eq_true_iff.mp hlower).1

def host : HeaderName := ⟨"host".toList, by decide⟩

def contentType : HeaderName := ⟨"content-type".toList, by decide⟩

def contentLength : HeaderName := ⟨"content-length".toList, by decide⟩

end HeaderName

def isHeaderByte (b : UInt8) : Bool := b == 9 || (0x20 ≤ b && b != 0x7F)

/-- No line break, NUL or other control character, so a value cannot end its header line. -/
def IsHeaderValue (bytes : Bytes) : Prop := bytes.all isHeaderByte = true

instance (bytes : Bytes) : Decidable (IsHeaderValue bytes) :=
  inferInstanceAs (Decidable (_ = true))

abbrev Headers := Dict HeaderName Bytes

end MockHttp
