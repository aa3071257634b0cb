/-!
# SHA-256 digests

The hash function of FIPS 180-4 over byte sequences, and the two forms in which digests of texts
are shown: in full, as sixty-four hexadecimal digits, and abbreviated to the first twelve.
-/
namespace Hardening.Digest

def rotateRight (x : UInt32) (n : UInt32) : UInt32 :=
  (x >>> n) ||| (x <<< (32 - n))

/-- The eight words that a block is mixed into. -/
structure Words where
  a : UInt32
  b : UInt32
  c : UInt32
  d : UInt32
  e : UInt32
  f : UInt32
  g : UInt32
  h : UInt32
  deriving DecidableEq, Repr

/-- Fractional parts of the square roots of the first eight primes. -/
def initial : Words where
  a := 0x6a09e667
  b := 0xbb67ae85
  c := 0x3c6ef372
  d := 0xa54ff53a
  e := 0x510e527f
  f := 0x9b05688c
  g := 0x1f83d9ab
  h := 0x5be0cd19

/-- Fractional parts of the cube roots of the first sixty-four primes. -/
def roundConstants : List UInt32 := [
  0x428a2f98, 0x71374491, 0xb5c0fbcf, 0xe9b5dba5, 0x3956c25b, 0x59f111f1, 0x923f82a4, 0xab1c5ed5,
  0xd807aa98, 0x12835b01, 0x243185be, 0x550c7dc3, 0x72be5d74, 0x80deb1fe, 0x9bdc06a7, 0xc19bf174,
  0xe49b69c1, 0xefbe4786, 0x0fc19dc6, 0x240ca1cc, 0x2de92c6f, 0x4a7484aa, 0x5cb0a9dc, 0x76f988da,
  0x983e5152, 0xa831c66d, 0xb00327c8, 0xbf597fc7, 0xc6e00bf3, 0xd5a79147, 0x06ca6351, 0x14292967,
  0x27b70a85, 0x2e1b2138, 0x4d2c6dfc, 0x53380d13, 0x650a7354, 0x766a0abb, 0x81c2c92e, 0x92722c85,
  0xa2bfe8a1, 0xa81a664b, 0xc24b8b70, 0xc76c51a3, 0xd192e819, 0xd6990624, 0xf40e3585, 0x106aa070,
  0x19a4c116, 0x1e376c08, 0x2748774c, 0x34b0bcb5, 0x391c0cb3, 0x4ed8aa4a, 0x5b9cca4f, 0x682e6ff3,
  0x748f82ee, 0x78a5636f, 0x84c87814, 0x8cc70208, 0x90befffa, 0xa4506ceb, 0xbef9a3f7, 0xc67178f2]

def byteAt (bytes : ByteArray) (i : Nat) : UInt8 :=
  if h : i < bytes.size then bytes[i] else 0

/-- Four bytes as a word, the first byte the most significant. -/
def wordAt (bytes : ByteArray) (i : Nat) : UInt32 :=
  ((byteAt bytes i).toUInt32 <<< 24) ||| ((byteAt bytes (i + 1)).toUInt32 <<< 16) |||
  ((byteAt bytes (i + 2)).toUInt32 <<< 8) ||| (byteAt bytes (i + 3)).toUInt32

/-- The next word of the schedule, from the words sixteen, fifteen, seven and two places before. -/
def nextWord (schedule : Array UInt32) : UInt32 :=
  let earlier (back : Nat) : UInt32 := schedule.getD (schedule.size - back) 0
  let s0 := rotateRight (earlier 15) 7 ^^^ rotateRight (earlier 15) 18 ^^^ (earlier 15 >>> 3)
  let s1 := rotateRight (earlier 2) 17 ^^^ rotateRight (earlier 2) 19 ^^^ (earlier 2 >>> 10)
  earlier 16 + s0 + earlier 7 + s1

/-- The sixty-four words that a block of sixty-four bytes is spread to. -/
def schedule (bytes : ByteArray) (start : Nat) : Array UInt32 :=
  let words := (List.range 16).foldl (fun words i => words.push (wordAt bytes (start + 4 * i)))
    (Array.mkEmpty 64)
  (List.range 48).foldl (fun words _ => words.push (nextWord words)) words

/-- One of the sixty-four rounds. -/
def round (w : Words) (constant word : UInt32) : Words :=
  let s1 := rotateRight w.e 6 ^^^ rotateRight w.e 11 ^^^ rotateRight w.e 25
  let choice := (w.e &&& w.f) ^^^ (~~~ w.e &&& w.g)
  let t1 := w.h + s1 + choice + constant + word
  let s0 := rotateRight w.a 2 ^^^ rotateRight w.a 13 ^^^ rotateRight w.a 22
  let majority := (w.a &&& w.b) ^^^ (w.a &&& w.c) ^^^ (w.b &&& w.c)
  { a := t1 + (s0 + majority), b := w.a, c := w.b, d := w.c
    e := w.d + t1, f := w.e, g := w.f, h := w.g }

def Words.add (v w : Words) : Words where
  a := v.a + w.a
  b := v.b + w.b
  c := v.c + w.c
  d := v.d + w.d
  e := v.e + w.e
  f := v.f + w.f
  g := v.g + w.g
  h := v.h + w.h

/-- Mixes the block at a position into the words. -/
def compress (bytes : ByteArray) (w : Words) (start : Nat) : Words :=
  let words := schedule bytes start
  w.add <| (roundConstants.foldl (fun (w, i) constant =>
    (round w constant (words.getD i 0), i + 1)) (w, 0)).1

/-- The message with a one bit, zeros and its length in bits, up to a whole number of blocks. -/
def padded (message : ByteArray) : ByteArray :=
  -- With the one bit's byte and the eight of the length, this fills the last block.
  let zeros := (119 - message.size % 64) % 64
  let withZeros := (List.replicate zeros (0 : UInt8)).foldl ByteArray.push (message.push 0x80)
  (List.range 8).foldl
    (fun bytes i => bytes.push (UInt8.ofNat ((8 * message.size) >>> (8 * (7 - i))))) withZeros

def hash (message : ByteArray) : Words :=
  let bytes := padded message
  (List.range (bytes.size / 64)).foldl (fun w i => compress bytes w (64 * i)) initial

/-- Eight lower-case hexadecimal digits. -/
def wordDigits (word : UInt32) : List Char :=
  (List.range 8).map fun i => Nat.digitChar ((word.toNat >>> (4 * (7 - i))) % 16)

def Words.digits (w : Words) : List Char :=
  [w.a, w.b, w.c, w.d, w.e, w.f, w.g, w.h].flatMap wordDigits

/-- The digest of a byte sequence. -/
def ofBytes (message : ByteArray) : String :=
  String.ofList (hash message).digits

/-- The digest of a text in UTF-8. -/
def ofText (text : String) : String :=
  ofBytes text.toUTF8

/-- The abbreviated digest shown next to a document. -/
def short (text : String) : String :=
  String.ofList ((hash text.toUTF8).digits.take 12)

end Hardening.Digest
