import MockHttp.Json.Display
import MockHttp.Text.Blank
import MockHttp.Text.Letters
import MockHttp.Text.Search

/-! # Templates

A template is literal text with references to variables, such as a name between double braces
with a dot in front. It is parsed once and without regard to the variables, so values that look
like references are never looked into. A template with a malformed reference is plain text.
-/

namespace MockHttp

abbrev Variables := Dict String Json

namespace Template

inductive Piece where
  | literal (cs : List Char)
  | reference (name : List Char)
deriving DecidableEq, Repr

/-- The name in a reference, of which the braces are removed. -/
def name? (inner : List Char) : Option (List Char) :=
  match Text.trimmed inner with
  | '.' :: name => if name ≠ [] ∧ name.all Text.isWordChar then some name else none
  | _ => none

theorem length_after_cutAtPair {a b : Char} {cs before after : List Char}
    (h : Text.cutAtPair a b cs = some (before, after)) : after.length < cs.length := by
  fun_induction Text.cutAtPair a b cs generalizing before with
  | case1 => simp at h
  | case2 => simp at h
  | case3 =>
    simp only [Option.some.injEq, Prod.mk.injEq] at h
    obtain ⟨-, rfl⟩ := h
    simp only [List.length_cons]
    omega
  | case4 c d rest _ ih =>
    simp only [Option.map_eq_some_iff, Prod.exists, Prod.mk.injEq] at h
    obtain ⟨p, q, hpq, -, rfl⟩ := h
    have := ih hpq
    simp only [List.length_cons] at this ⊢
    omega

/-- Repeatedly the text up to the next opening braces and the reference up to the next closing
ones; `none` if a reference is malformed. -/
def parse? (cs : List Char) : Option (List Piece) :=
  match h : Text.cutAtPair '\x7b' '\x7b' cs with
  | none => some [.literal cs]
  | some (before, inside) =>
    match h' : Text.cutAtPair '\x7d' '\x7d' inside with
    | none => none
    | some (inner, after) =>
      have : after.length < cs.length :=
        Nat.lt_trans (length_after_cutAtPair h') (length_after_cutAtPair h)
      (name? inner).bind fun name =>
        (parse? after).map fun pieces => .literal before :: .reference name :: pieces
termination_by cs.length

/-- Unbound variables have no text. -/
def Piece.render (vars : Variables) : Piece → List Char
  | literal cs => cs
  | reference name =>
    match vars.get? (String.ofList name) with
    | some v => v.displayChars
    | none => []

def renderChars (template : List Char) (vars : Variables) : List Char :=
  match parse? template with
  | none => template
  | some pieces => pieces.flatMap (·.render vars)

def render (template : String) (vars : Variables) : String :=
  String.ofList (renderChars template.toList vars)

def referenceTo (name : String) : String := "\x7b\x7b." ++ name ++ "\x7d\x7d"

end Template

end MockHttp
