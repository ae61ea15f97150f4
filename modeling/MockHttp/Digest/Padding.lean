import MockHttp.Text.Utf8

/-! # Messages in blocks

Both digests read a message in blocks of 64 bytes. The message is followed by a one bit, by zeros,
and by its length in bits as eight bytes.
-/

namespace MockHttp.Digest

def littleEndian (width n : Nat) : Bytes :=
  (List.range width).map fun i => UInt8.ofNat (n >>> (8 * i))

def bigEndian (width n : Nat) : Bytes := (littleEndian width n).reverse

def filling (length : Nat) : Nat := (119 - length % 64) % 64

def pad (lengthBytes : Nat → Bytes) (message : Bytes) : Bytes :=
  message ++ 0x80 :: (List.replicate (filling message.length) 0 ++
    lengthBytes (8 * message.length % 0x10000000000000000))

def blocksFrom : Nat → Bytes → List Bytes
  | 0, _ => []
  | count + 1, bytes => bytes.take 64 :: blocksFrom count (bytes.drop 64)

def blocks (bytes : Bytes) : List Bytes := blocksFrom (bytes.length / 64) bytes

def rotateLeft (x : UInt32) (n : UInt32) : UInt32 := x <<< n ||| x >>> (32 - n)

def rotateRight (x : UInt32) (n : UInt32) : UInt32 := x >>> n ||| x <<< (32 - n)

def hexByte (b : UInt8) : List Char := [Nat.digitChar (b.toNat / 16), Nat.digitChar (b.toNat % 16)]

def hexText (bytes : Bytes) : List Char := bytes.flatMap hexByte

theorem length_hexText (bytes : Bytes) : (hexText bytes).length = 2 * bytes.length := by
  induction bytes with
  | nil => rfl
  | cons b rest ih =>
    simp only [hexText, List.flatMap_cons, List.length_append] at ih ⊢
    simp [ih, hexByte]
    omega

end MockHttp.Digest
