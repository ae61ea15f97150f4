/-! # UTF-8

Bytes are read as a sequence of pieces: characters, and maximal ill-formed runs between them. A
run ends where no character could start with its bytes followed by the next one. Reading what
`encode` writes gives the characters back (`scan_encode`).
-/

namespace MockHttp

abbrev Bytes := List UInt8

namespace Utf8

inductive Piece where
  | char (c : Char)
  | illFormed (bytes : Bytes)
deriving DecidableEq, Repr

def encode (cs : List Char) : Bytes := cs.flatMap String.utf8EncodeChar

/-- A character of which some bytes are read: the next byte lies between `low` and `high`. -/
structure Partial where
  code : Nat
  missing : Nat
  low : Nat := 0x80
  high : Nat := 0xBF
  taken : Bytes

def Partial.opening (b : UInt8) (missing base low high : Nat) : Partial :=
  { code := b.toNat - base, missing, low, high, taken := [b] }

def start (b : UInt8) : List Piece × Option Partial :=
  let n := b.toNat
  if n < 0x80 then ([.char (Char.ofNat n)], none)
  else if n < 0xC2 then ([.illFormed [b]], none)
  else if n < 0xE0 then ([], some (.opening b 1 0xC0 0x80 0xBF))
  else if n = 0xE0 then ([], some (.opening b 2 0xE0 0xA0 0xBF))
  else if n = 0xED then ([], some (.opening b 2 0xE0 0x80 0x9F))
  else if n < 0xF0 then ([], some (.opening b 2 0xE0 0x80 0xBF))
  else if n = 0xF0 then ([], some (.opening b 3 0xF0 0x90 0xBF))
  else if n < 0xF4 then ([], some (.opening b 3 0xF0 0x80 0xBF))
  else if n = 0xF4 then ([], some (.opening b 3 0xF0 0x80 0x8F))
  else ([.illFormed [b]], none)

def advance (p : Partial) (b : UInt8) : List Piece × Option Partial :=
  let n := b.toNat
  if p.low ≤ n ∧ n ≤ p.high then
    let code := p.code * 64 + (n - 0x80)
    if p.missing = 1 then ([.char (Char.ofNat code)], none)
    else ([], some { code, missing := p.missing - 1, taken := p.taken ++ [b] })
  else (.illFormed p.taken :: (start b).1, (start b).2)

def scanFrom : Option Partial → Bytes → List Piece
  | none, [] => []
  | some p, [] => [.illFormed p.taken]
  | none, b :: rest => (start b).1 ++ scanFrom (start b).2 rest
  | some p, b :: rest => (advance p b).1 ++ scanFrom (advance p b).2 rest

def scan (bytes : Bytes) : List Piece := scanFrom none bytes

/-- Stands for one ill-formed run. -/
def replacement : Char := '\uFFFD'

def Piece.toChar : Piece → Char
  | char c => c
  | illFormed _ => replacement

def decodeLossy (bytes : Bytes) : List Char := (scan bytes).map Piece.toChar

def Piece.width : Piece → Nat
  | char c => (String.utf8EncodeChar c).length
  | illFormed bytes => bytes.length

def chars? : List Piece → Option (List Char)
  | [] => some []
  | .char c :: rest => (chars? rest).map (c :: ·)
  | .illFormed _ :: _ => none

/-! ## Reading what is written -/

theorem start_ascii {b : UInt8} (h : b.toNat < 0x80) :
    start b = ([.char (Char.ofNat b.toNat)], none) := by
  simp [start, h]

theorem start_two {b : UInt8} (hl : 0xC2 ≤ b.toNat) (hh : b.toNat < 0xE0) :
    start b = ([], some (.opening b 1 0xC0 0x80 0xBF)) := by
  grind [start]

theorem start_three {b : UInt8} (hl : 0xE0 ≤ b.toNat) (hh : b.toNat < 0xF0) :
    start b = ([], some (.opening b 2 0xE0 (if b.toNat = 0xE0 then 0xA0 else 0x80)
      (if b.toNat = 0xED then 0x9F else 0xBF))) := by
  grind [start]

theorem start_four {b : UInt8} (hl : 0xF0 ≤ b.toNat) (hh : b.toNat < 0xF5) :
    start b = ([], some (.opening b 3 0xF0 (if b.toNat = 0xF0 then 0x90 else 0x80)
      (if b.toNat = 0xF4 then 0x8F else 0xBF))) := by
  grind [start]

theorem scanFrom_last {p : Partial} {b : UInt8} {n : Nat} (rest : Bytes) (hm : p.missing = 1)
    (hl : p.low ≤ b.toNat) (hh : b.toNat ≤ p.high) (hn : p.code * 64 + (b.toNat - 0x80) = n) :
    scanFrom (some p) (b :: rest) = .char (Char.ofNat n) :: scanFrom none rest := by
  simp [scanFrom, advance, hl, hh, hm, hn]

theorem scanFrom_next {p : Partial} {b : UInt8} (rest : Bytes) (hm : p.missing ≠ 1)
    (hl : p.low ≤ b.toNat) (hh : b.toNat ≤ p.high) :
    scanFrom (some p) (b :: rest) = scanFrom (some {
      code := p.code * 64 + (b.toNat - 0x80), missing := p.missing - 1,
      taken := p.taken ++ [b] }) rest := by
  simp [scanFrom, advance, hl, hh, hm]

/-- A character that is written is read as that character. -/
theorem scanFrom_utf8EncodeChar (c : Char) (rest : Bytes) :
    scanFrom none (String.utf8EncodeChar c ++ rest) = .char c :: scanFrom none rest := by
  have hc : Char.ofNat c.toNat = c := Char.ofNat_toNat c
  have hv : c.toNat < 0xD800 ∨ 0xDFFF < c.toNat ∧ c.toNat < 0x110000 := c.valid
  have byte : ∀ n, n < 256 → ∃ b : UInt8, UInt8.ofNat n = b ∧ b.toNat = n :=
    fun n h => ⟨_, rfl, by simp; omega⟩
  unfold String.utf8EncodeChar
  simp only [show c.val.toNat = c.toNat from rfl]
  generalize c.toNat = n at hc hv
  rw [← hc]
  split
  · obtain ⟨b, e, h⟩ := byte n (by omega)
    simp only [e, List.cons_append, List.nil_append, scanFrom]
    rw [start_ascii (by omega), h]
    rfl
  split
  · obtain ⟨b, e, h⟩ := byte (n / 64 % 32 + 192) (by omega)
    obtain ⟨b', e', h'⟩ := byte (n % 64 + 128) (by omega)
    simp only [e, e', List.cons_append, List.nil_append, scanFrom]
    rw [start_two (by omega) (by omega)]
    exact scanFrom_last rest rfl (by simp only [Partial.opening]; omega)
      (by simp only [Partial.opening]; omega) (by simp only [Partial.opening]; omega)
  split
  · obtain ⟨b, e, h⟩ := byte (n / 4096 % 16 + 224) (by omega)
    obtain ⟨b', e', h'⟩ := byte (n / 64 % 64 + 128) (by omega)
    obtain ⟨b'', e'', h''⟩ := byte (n % 64 + 128) (by omega)
    simp only [e, e', e'', List.cons_append, List.nil_append, scanFrom]
    rw [start_three (by omega) (by omega), List.nil_append,
      scanFrom_next _ (by simp [Partial.opening]) (by simp only [Partial.opening]; split <;> omega)
        (by simp only [Partial.opening]; split <;> omega)]
    exact scanFrom_last rest rfl (by simp only; omega) (by simp only; omega)
      (by simp only [Partial.opening]; omega)
  · obtain ⟨b, e, h⟩ := byte (n / 262144 % 8 + 240) (by omega)
    obtain ⟨b', e', h'⟩ := byte (n / 4096 % 64 + 128) (by omega)
    obtain ⟨b'', e'', h''⟩ := byte (n / 64 % 64 + 128) (by omega)
    obtain ⟨b₃, e₃, h₃⟩ := byte (n % 64 + 128) (by omega)
    simp only [e, e', e'', e₃, List.cons_append, List.nil_append, scanFrom]
    rw [start_four (by omega) (by omega), List.nil_append,
      scanFrom_next _ (by simp [Partial.opening]) (by simp only [Partial.opening]; split <;> omega)
        (by simp only [Partial.opening]; split <;> omega),
      scanFrom_next _ (by simp [Partial.opening]) (by simp only; omega) (by simp only; omega)]
    exact scanFrom_last rest rfl (by simp only; omega) (by simp only; omega)
      (by simp only [Partial.opening]; omega)

theorem scan_encode (cs : List Char) : scan (encode cs) = cs.map .char := by
  induction cs with
  | nil => rfl
  | cons c cs ih =>
    rw [scan, encode, List.flatMap_cons, scanFrom_utf8EncodeChar]
    exact congrArg _ ih

end Utf8

namespace Text

def bytes (s : String) : Bytes := Utf8.encode s.toList

def ofBytesLossy (bytes : Bytes) : String := String.ofList (Utf8.decodeLossy bytes)

theorem ofBytesLossy_bytes (s : String) : ofBytesLossy (bytes s) = s := by
  have hchars (cs : List Char) : (cs.map Utf8.Piece.char).map Utf8.Piece.toChar = cs := by
    rw [List.map_map]
    exact List.map_id cs
  rw [ofBytesLossy, bytes, Utf8.decodeLossy, Utf8.scan_encode, hchars, String.ofList_toList]

def pieces (s : String) : List Utf8.Piece := s.toList.map .char

end Text

end MockHttp
