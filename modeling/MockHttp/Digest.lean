import MockHttp.Digest.Md5
import MockHttp.Digest.Sha256

/-! # Digests by name -/

namespace MockHttp

inductive HashAlgorithm where
  | md5
  | sha256
deriving DecidableEq, Repr

namespace HashAlgorithm

def name : HashAlgorithm → String
  | md5 => "MD5"
  | sha256 => "SHA256"

def all : List HashAlgorithm := [md5, sha256]

/-- Names are compared without regard to case, and SHA-256 may be written with its hyphen. -/
def ofName? (s : String) : Option HashAlgorithm :=
  let upper := s.toList.map Char.toUpper
  if upper = "MD5".toList then some md5
  else if upper = "SHA256".toList ∨ upper = "SHA-256".toList then some sha256
  else none

theorem ofName?_name (a : HashAlgorithm) : ofName? a.name = some a := by cases a <;> decide

def digest : HashAlgorithm → Bytes → Bytes
  | md5 => Digest.md5
  | sha256 => Digest.sha256

def hexDigest (a : HashAlgorithm) (s : String) : String :=
  String.ofList (Digest.hexText (a.digest (Text.bytes s)))

def digits : HashAlgorithm → Nat
  | md5 => 32
  | sha256 => 64

theorem length_hexDigest (a : HashAlgorithm) (s : String) :
    (a.hexDigest s).toList.length = a.digits := by
  cases a <;>
    simp [hexDigest, digest, digits, Digest.length_hexText, Digest.length_md5,
      Digest.length_sha256]

end HashAlgorithm

end MockHttp
