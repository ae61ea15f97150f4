import MockHttp.Proofs.Numeric.WholeText
import MockHttp.Json.Printer

/-! # Characters of printed values

A printed value holds no control characters: those of its strings and keys are escaped, and
numbers, words and brackets have none. So no text in a value can end the line it is written on.
-/

namespace MockHttp

namespace Text

variable {cs cs' : List Char} {c : Char}

/-- There is no control character below U+0020, and so no line break. -/
def IsOneLine (cs : List Char) : Prop := ∀ c ∈ cs, 0x20 ≤ c.toNat

instance (cs : List Char) : Decidable (IsOneLine cs) := List.decidableBAll _ cs

@[simp] theorem isOneLine_nil : IsOneLine [] := fun _ hc => (List.not_mem_nil hc).elim

@[simp] theorem isOneLine_cons : IsOneLine (c :: cs) ↔ 0x20 ≤ c.toNat ∧ IsOneLine cs :=
  List.forall_mem_cons

@[simp] theorem isOneLine_append : IsOneLine (cs ++ cs') ↔ IsOneLine cs ∧ IsOneLine cs' :=
  List.forall_mem_append

theorem IsOneLine.head (h : IsOneLine (c :: cs)) : 0x20 ≤ c.toNat := (isOneLine_cons.mp h).1

theorem IsOneLine.tail (h : IsOneLine (c :: cs)) : IsOneLine cs := (isOneLine_cons.mp h).2

theorem IsOneLine.of_subset (h : IsOneLine cs) (hsub : cs' ⊆ cs) : IsOneLine cs' :=
  fun c hc => h c (hsub hc)

theorem IsOneLine.newline_not_mem (h : IsOneLine cs) : '\n' ∉ cs :=
  fun hmem => absurd (h '\n' hmem) (by decide)

end Text

open Text (IsOneLine)

/-! ## Numbers -/

theorem Digits.isOneLine_of_isDigit {cs : List Char} (h : ∀ c ∈ cs, c.isDigit = true) :
    IsOneLine cs := by
  intro c hc
  have hrange := Char.isDigit_iff_toNat.mp (h c hc)
  have hzero : '0'.toNat = 48 := rfl
  omega

theorem Digits.isOneLine_ofNat (n : Nat) : IsOneLine (ofNat n) :=
  isOneLine_of_isDigit fun _ => isDigit_of_mem_ofNat

theorem Digits.isOneLine_ofInt (n : Int) : IsOneLine (ofInt n) := by
  have hnat := isOneLine_ofNat n.natAbs
  unfold ofInt
  split
  · exact Text.isOneLine_cons.mpr ⟨by decide, hnat⟩
  · exact hnat

namespace Binary64

theorem isOneLine_zeros (n : Nat) : IsOneLine (List.replicate n '0') := by
  intro c hc
  rw [List.eq_of_mem_replicate hc]
  decide

theorem isOneLine_layout {ds : List Char} (h : IsOneLine ds) (exponent : Int) :
    IsOneLine (layout ds exponent) := by
  have htake (n : Nat) : IsOneLine (ds.take n) := h.of_subset (List.take_subset n ds)
  have hdrop (n : Nat) : IsOneLine (ds.drop n) := h.of_subset (List.drop_subset n ds)
  have hexponent := Digits.isOneLine_ofNat exponent.natAbs
  unfold layout
  dsimp only
  split
  · simp [h, isOneLine_zeros]
  · split
    · split
      · simp [h, isOneLine_zeros]
      · simp [htake, hdrop]
    · have hsign : 0x20 ≤ (if exponent < 0 then '-' else '+').toNat := by
        split <;> decide
      rcases ds with _ | ⟨d, _ | ⟨next, rest⟩⟩
      · simp [hsign, hexponent]
      · simp [h.head, hsign, hexponent]
      · have hnext := h.tail
        simp [h.head, hnext.head, hnext.tail, hsign, hexponent]

theorem isOneLine_text (x : Binary64) : IsOneLine x.text := by
  have hmagnitude : IsOneLine x.magnitudeText := by
    unfold magnitudeText
    split
    · decide
    · obtain ⟨zeros, hzeros⟩ := withoutTrailingZeros_append (Digits.ofNat x.shortest.digits)
      have hdigits := Digits.isOneLine_ofNat x.shortest.digits
      rw [← hzeros, Text.isOneLine_append] at hdigits
      exact isOneLine_layout hdigits.1 _
  unfold text
  split
  · exact Text.isOneLine_cons.mpr ⟨by decide, hmagnitude⟩
  · exact hmagnitude

end Binary64

namespace Json

/-! ## Strings -/

theorem isOneLine_controlEscape {n : Nat} (h : n < 0x20) : IsOneLine (controlEscape n) := by
  have hdigit : ∀ m < 16, 0x20 ≤ (Nat.digitChar m).toNat := by decide
  have hhigh := hdigit (n / 16) (by omega)
  have hlow := hdigit (n % 16) (Nat.mod_lt n (by decide))
  simp [controlEscape, hhigh, hlow]

theorem isOneLine_escapedChar (c : Char) : IsOneLine (escapedChar c) := by
  unfold escapedChar
  split
  · decide
  · split
    · decide
    · split
      · next hcontrol =>
        split
        · decide
        · decide
        · decide
        · decide
        · decide
        · exact isOneLine_controlEscape hcontrol
      · next hcontrol => simpa using hcontrol

theorem isOneLine_printString (s : String) : IsOneLine (printString s) := by
  have hescaped : IsOneLine (s.toList.flatMap escapedChar) := by
    intro c hc
    obtain ⟨d, -, hd⟩ := List.mem_flatMap.mp hc
    exact isOneLine_escapedChar d c hd
  simp [printString, hescaped]

/-! ## Values -/

theorem isOneLine_commaSeparated {parts : List (List Char)} (h : ∀ part ∈ parts, IsOneLine part) :
    IsOneLine (commaSeparated parts) := by
  induction parts with
  | nil => exact Text.isOneLine_nil
  | cons part parts ih =>
    have hpart := h part List.mem_cons_self
    cases parts with
    | nil => exact hpart
    | cons next parts =>
      have hrest := ih fun part hmem => h part (List.mem_cons_of_mem _ hmem)
      exact Text.isOneLine_append.mpr ⟨hpart, Text.isOneLine_cons.mpr ⟨by decide, hrest⟩⟩

theorem isOneLine_printObject {members : List (String × List Char)}
    (h : ∀ m ∈ members, IsOneLine m.2) : IsOneLine (printObject members) := by
  have hmembers : IsOneLine (commaSeparated (members.map fun m => printMember m.1 m.2)) := by
    apply isOneLine_commaSeparated
    intro part hpart
    obtain ⟨m, hm, rfl⟩ := List.mem_map.mp hpart
    simp [printMember, isOneLine_printString, h m hm]
  simp [printObject, hmembers]

mutual

/-- A printed value holds no control characters, whatever its strings hold. -/
theorem isOneLine_print : ∀ v : Json, IsOneLine v.print
  | null | bool true | bool false => by decide
  | number (.int n) => Digits.isOneLine_ofInt n
  | number (.float x) => x.isOneLine_text
  | string s => isOneLine_printString s
  | array items => by
    have hitems := isOneLine_commaSeparated (isOneLine_printItems items)
    simp [print, printList, hitems]
  | object members => isOneLine_printObject (isOneLine_printMembers members)

theorem isOneLine_printItems : ∀ items : List Json, ∀ part ∈ printItems items, IsOneLine part
  | [] => fun _ hpart => (List.not_mem_nil hpart).elim
  | v :: vs => List.forall_mem_cons.mpr ⟨isOneLine_print v, isOneLine_printItems vs⟩

theorem isOneLine_printMembers : ∀ members : List (String × Json),
    ∀ m ∈ printMembers members, IsOneLine m.2
  | [] => fun _ hm => (List.not_mem_nil hm).elim
  | (_, v) :: vs => List.forall_mem_cons.mpr ⟨isOneLine_print v, isOneLine_printMembers vs⟩

end

end Json

end MockHttp
