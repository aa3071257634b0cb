import Hardening.Text.Digits
import Hardening.Time.Instant

/-!
# Stamps

A report file is told from others by an identifier made of random bytes and by the time of its
making. Identifiers are written in groups of hexadecimal digits; two of their digits say that they
are random.
-/
namespace Hardening

/-- The identifier and the time that a new report file gets. -/
structure Stamp where
  id : String
  time : Time.Instant
  deriving Repr, DecidableEq

namespace Stamp

/-- Puts the mark of random identifiers into the bytes at index six and eight. -/
def markRandom (bytes : List UInt8) : List UInt8 :=
  (bytes.modify 6 fun byte => 0x40 ||| (byte &&& 0x0F)).modify 8 fun byte => 0x80 ||| (byte &&& 0x3F)

def byteDigits (byte : UInt8) : List Char :=
  [Text.hexDigit (byte.toNat / 16), Text.hexDigit (byte.toNat % 16)]

/-- The digits of bytes in groups of the given numbers of bytes. -/
def groups : List Nat → List UInt8 → List (List Char)
  | [], _ => []
  | size :: sizes, bytes => (bytes.take size).flatMap byteDigits :: groups sizes (bytes.drop size)

/-- The identifier made of sixteen random bytes. -/
def idOfBytes (bytes : List UInt8) : String :=
  "-".intercalate ((groups [4, 2, 2, 2, 6] (markRandom bytes)).map String.ofList)

end Stamp
end Hardening
