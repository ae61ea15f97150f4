import MockHttp.Json.Basic
import MockHttp.Text.Digits
import MockHttp.Text.Search

/-! # Paths into JSON values

A path is a list of segments with dots between them. A segment is a key, an index in brackets, or
a key with an index behind it. Segments are taken from left to right, and the first one that is
malformed or does not apply is named.
-/

namespace MockHttp.Json

structure Segment where
  key : List Char
  index : Option Nat
deriving DecidableEq, Repr

namespace Segment

def indexBound : Nat := 0x10000000000000000

def ofText? (cs : List Char) : Option Segment :=
  match Text.cutAt '[' cs with
  | none => if ']' ∈ cs then none else some ⟨cs, none⟩
  | some (key, rest) =>
    if rest.getLast? = some ']' then
      (Digits.unsigned? indexBound rest.dropLast).map fun i => ⟨key, some i⟩
    else none

/-- An empty key in front of an index does not count. -/
def member? (s : Segment) (v : Json) : Option Json :=
  if s.key ≠ [] ∨ s.index = none then v.member? (String.ofList s.key) else some v

def follow? (s : Segment) (v : Json) : Option Json :=
  (s.member? v).bind fun w =>
    match s.index with
    | none => some w
    | some i => w.item? i

end Segment

inductive PathError where
  | notFound (path segment : String)
  | malformed (path segment : String)
deriving DecidableEq, Repr

def PathError.message : PathError → String
  | notFound path segment => "No value at `" ++ path ++ "` (segment `" ++ segment ++ "`)"
  | malformed path segment => "Malformed path segment `" ++ segment ++ "` in `" ++ path ++ "`"

def walk (path : String) : List (List Char) → Json → Except PathError Json
  | [], v => .ok v
  | cs :: rest, v =>
    match Segment.ofText? cs with
    | none => .error (.malformed path (String.ofList cs))
    | some segment =>
      match segment.follow? v with
      | none => .error (.notFound path (String.ofList cs))
      | some w => walk path rest w

def resolve (v : Json) (path : String) : Except PathError Json :=
  walk path (Text.splitAt '.' path.toList) v

/-! ## Writing paths -/

inductive Step where
  | key (k : List Char)
  | index (i : Nat)
deriving DecidableEq, Repr

namespace Step

def text : Step → List Char
  | key k => k
  | index i => '[' :: (Digits.ofNat i ++ [']'])

def follow? : Step → Json → Option Json
  | key k, v => v.member? (String.ofList k)
  | index i, v => v.item? i

end Step

def joinSegments : List (List Char) → List Char
  | [] => []
  | [cs] => cs
  | cs :: rest => cs ++ '.' :: joinSegments rest

def pathText (steps : List Step) : String := String.ofList (joinSegments (steps.map Step.text))

end MockHttp.Json
