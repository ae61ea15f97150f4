import MockHttp.Text.Digits
import MockHttp.Text.Search
import MockHttp.Text.Utf8

/-! # Request targets and URLs

A URI is a path with an optional query, a bare authority, or a scheme and an authority with a
path behind them. Fragments are dropped. The authority keeps its user information and port as
they are written.
-/

namespace MockHttp

structure Uri where
  scheme : Option (List Char)
  authority : Option (List Char)
  path : List Char
  query : Option (List Char)
deriving DecidableEq, Repr

namespace Uri

def maxLength : Nat := 65534

def maxSchemeLength : Nat := 64

/-! ## Path and query -/

def isPathChar (c : Char) : Bool :=
  let n := c.toNat
  n == 0x21 || (0x24 ≤ n && n ≤ 0x3B) || n == 0x3D || (0x40 ≤ n && n ≤ 0x5F) ||
    (0x61 ≤ n && n ≤ 0x7A) || n == 0x7C || n == 0x7E || 0x80 ≤ n || c == '"' || c == '\x7b' ||
    c == '\x7d'

def isQueryChar (c : Char) : Bool :=
  let n := c.toNat
  n == 0x21 || (0x24 ≤ n && n ≤ 0x3B) || n == 0x3D || (0x3F ≤ n && n ≤ 0x7E) || 0x80 ≤ n

def withoutFragment (cs : List Char) : List Char := cs.takeWhile (· ≠ '#')

/-- The path and the query of what follows the authority. -/
def pathAndQuery? (cs : List Char) : Option (List Char × Option (List Char)) :=
  let cs := withoutFragment cs
  let path := cs.takeWhile (· ≠ '?')
  let query := (cs.dropWhile (· ≠ '?')).tail?
  if path.all isPathChar ∧ (query.getD []).all isQueryChar then
    some (if path = [] then ['/'] else path, query)
  else none

/-! ## Scheme -/

def isSchemeChar (c : Char) : Bool := c.isAlphanum || c == '+' || c == '-' || c == '.' || c == '~'

inductive Scheme where
  | absent
  | present (scheme rest : List Char)
  | tooLong
deriving DecidableEq, Repr

/-- A scheme is read if two slashes follow its colon. -/
def Scheme.read (cs : List Char) : Scheme :=
  let name := cs.takeWhile isSchemeChar
  match cs.dropWhile isSchemeChar with
  | ':' :: '/' :: '/' :: rest =>
    let lower := name.map Char.toLower
    if lower = "http".toList ∨ lower = "https".toList then .present lower rest
    else if maxSchemeLength < name.length then .tooLong
    else .present name rest
  | _ => .absent

/-! ## Authority -/

def isAuthorityChar (c : Char) : Bool :=
  c.isAlphanum || "!$&'()*+,-.;=_~".toList.contains c

structure AuthorityScan where
  colons : Nat := 0
  opened : Bool := false
  closed : Bool := false
  percent : Bool := false
  afterAt : Bool := false

/-- At most so many colons in a row of parts. -/
def maxColons : Nat := 8

/-- Colons and percent signs count anew behind the user information and behind an address in
brackets. -/
def AuthorityScan.step (s : AuthorityScan) (c : Char) : Option AuthorityScan :=
  if c = ':' then
    if s.colons < maxColons then some { s with colons := s.colons + 1, afterAt := false } else none
  else if c = '[' then
    if s.percent || s.opened then none else some { s with opened := true, afterAt := false }
  else if c = ']' then
    if !s.opened || s.closed then none
    else some { s with closed := true, colons := 0, percent := false, afterAt := false }
  else if c = '@' then some { s with colons := 0, percent := false, afterAt := true }
  else if c = '%' then some { s with percent := true, afterAt := false }
  else if isAuthorityChar c then some { s with afterAt := false }
  else none

/-- At most one colon is left for the port, and nothing stands open. -/
def AuthorityScan.accepts (s : AuthorityScan) : Bool :=
  s.opened == s.closed && s.colons ≤ 1 && !s.afterAt && !s.percent

def endsAuthority (c : Char) : Bool := c == '/' || c == '?' || c == '#'

def isAuthority (cs : List Char) : Bool :=
  match cs.foldlM AuthorityScan.step {} with
  | some s => s.accepts
  | none => false

/-! ## Whole URIs -/

def ofChars? (cs : List Char) : Option Uri :=
  if cs = [] ∨ maxLength < (Utf8.encode cs).length then none
  else if cs = ['*'] then some ⟨none, none, cs, none⟩
  else if cs.head? = some '/' then
    (pathAndQuery? cs).map fun (path, query) => ⟨none, none, path, query⟩
  else
    match Scheme.read cs with
    | .tooLong => none
    | .absent => if isAuthority cs then some ⟨none, some cs, [], none⟩ else none
    | .present scheme rest =>
      let authority := rest.takeWhile fun c => !endsAuthority c
      if authority ≠ [] ∧ isAuthority authority then
        (pathAndQuery? (rest.dropWhile fun c => !endsAuthority c)).map fun (path, query) =>
          ⟨some scheme, some authority, path, query⟩
      else none

def ofText? (s : String) : Option Uri := ofChars? s.toList

def hostAndPort (authority : List Char) : List Char :=
  (authority.reverse.takeWhile (· ≠ '@')).reverse

/-- An address in brackets keeps them; other hosts end at the first colon. -/
def hostOf (authority : List Char) : List Char :=
  let cs := hostAndPort authority
  if cs.head? = some '[' then cs.takeWhile (· ≠ ']') ++ [']'] else cs.takeWhile (· ≠ ':')

/-- The number behind the last colon, if one stands there and fits 16 bits. -/
def portOf? (authority : List Char) : Option Nat :=
  if ':' ∈ authority then
    Digits.unsigned? 65536 (authority.reverse.takeWhile (· ≠ ':')).reverse
  else none

def defaultPort : Nat := 80

def dialled? (url : String) : Option (String × String) := do
  let uri ← ofText? url
  let authority ← uri.authority
  let port := (portOf? authority).getD defaultPort
  return (String.ofList (hostOf authority ++ ':' :: Digits.ofNat port), String.ofList authority)

def chars (u : Uri) : List Char :=
  (match u.scheme with
    | some s => s ++ "://".toList
    | none => []) ++
  u.authority.getD [] ++ u.path ++
  match u.query with
    | some q => '?' :: q
    | none => []

def text (u : Uri) : String := String.ofList u.chars

end Uri

end MockHttp
