import MockHttp.Template

/-! # References to variables

A name that is not empty and has only word characters can be referred to: the template that does
is parsed as the reference and nothing else, and shows the value of the variable.
-/

namespace MockHttp

namespace Text

theorem isWordChar_closingBrace : isWordChar '\x7d' = false := by decide +kernel

def blankPoints : List Nat :=
  [9, 10, 11, 12, 13, 0x20, 0x85, 0xA0, 0x1680, 0x2000, 0x2001, 0x2002, 0x2003, 0x2004, 0x2005,
    0x2006, 0x2007, 0x2008, 0x2009, 0x200A, 0x2028, 0x2029, 0x202F, 0x205F, 0x3000]

theorem toNat_mem_blankPoints {c : Char} (h : isBlank c = true) : c.toNat ∈ blankPoints := by
  simp only [isBlank, Bool.or_eq_true, Bool.and_eq_true, decide_eq_true_eq, beq_iff_eq] at h
  simp only [blankPoints, List.mem_cons, List.not_mem_nil, or_false]
  omega

theorem isWordChar_of_mem_blankPoints :
    ∀ n ∈ blankPoints, isWordChar (Char.ofNat n) = false := by decide +kernel

theorem isBlank_of_isWordChar {c : Char} (h : isWordChar c = true) : isBlank c = false := by
  cases hblank : isBlank c with
  | false => rfl
  | true =>
    have hword := isWordChar_of_mem_blankPoints c.toNat (toNat_mem_blankPoints hblank)
    rw [Char.ofNat_toNat, h] at hword
    cases hword

end Text

namespace Template

structure IsName (name : String) : Prop where
  ne_nil : name.toList ≠ []
  isWordChar : ∀ c ∈ name.toList, Text.isWordChar c = true

variable {name : String} {vars : Variables}

theorem parse?_nil : parse? [] = some [.literal []] := by
  rw [parse?]
  rfl

theorem render_empty (vars : Variables) : render "" vars = "" := by
  simp [render, renderChars, parse?_nil, Piece.render]

theorem parse?_of_cuts {cs before inside inner after : List Char}
    (h : Text.cutAtPair '\x7b' '\x7b' cs = some (before, inside))
    (h' : Text.cutAtPair '\x7d' '\x7d' inside = some (inner, after)) :
    parse? cs = (name? inner).bind fun name =>
      (parse? after).map fun pieces => .literal before :: .reference name :: pieces := by
  rw [parse?]
  split
  · next hnone =>
    rw [h] at hnone
    cases hnone
  · next hsome =>
    rw [h] at hsome
    cases hsome
    split
    · next hnone =>
      rw [h'] at hnone
      cases hnone
    · next hsome =>
      rw [h'] at hsome
      cases hsome
      rfl

theorem name?_of_isName (h : IsName name) : name? ('.' :: name.toList) = some name.toList := by
  have hblank : ∀ c ∈ '.' :: name.toList, Text.isBlank c = false := by
    intro c hc
    rcases List.mem_cons.mp hc with rfl | hc
    · decide
    · exact Text.isBlank_of_isWordChar (h.isWordChar c hc)
  have hword : name.toList.all Text.isWordChar = true := List.all_eq_true.mpr h.isWordChar
  rw [name?, Text.trimmed_eq_self hblank]
  exact if_pos ⟨h.ne_nil, hword⟩

theorem parse?_referenceTo (h : IsName name) :
    parse? (referenceTo name).toList =
      some [.literal [], .reference name.toList, .literal []] := by
  have hclosed : '\x7d' ∉ '.' :: name.toList := by
    intro hm
    rcases List.mem_cons.mp hm with hm | hm
    · exact absurd hm (by decide)
    · exact absurd (h.isWordChar _ hm) (by rw [Text.isWordChar_closingBrace]; decide)
  have hchars : (referenceTo name).toList =
      [] ++ '\x7b' :: '\x7b' :: (('.' :: name.toList) ++ ['\x7d', '\x7d']) := by
    simp [referenceTo, String.toList_append]
  rw [hchars, parse?_of_cuts (Text.cutAtPair_append List.not_mem_nil _)
    (Text.cutAtPair_append hclosed []), name?_of_isName h, parse?_nil]
  rfl

theorem render_referenceTo {v : Json} (h : IsName name) (hv : vars.get? name = some v) :
    render (referenceTo name) vars = v.display := by
  rw [render, renderChars, parse?_referenceTo h]
  simp [Piece.render, String.ofList_toList, hv, Json.display]

end Template

end MockHttp
