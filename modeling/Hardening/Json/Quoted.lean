import Hardening.Text.Digits

/-!
# Quoted strings

Inside quotes a backslash begins an escape and control characters may not stand. An escape can name
half of a surrogate pair; the halves are put together after the whole string has been read, and a
half without its partner leaves a string that denotes no text.
-/
namespace Hardening.Json.Quoted

/-- How a character is written inside quotes: only the quote, the backslash and the characters
below U+0020 are escaped. -/
def escape (c : Char) : List Char :=
  match c with
  | '"' => ['\\', '"']
  | '\\' => ['\\', '\\']
  | '\x08' => ['\\', 'b']
  | '\x0c' => ['\\', 'f']
  | '\n' => ['\\', 'n']
  | '\r' => ['\\', 'r']
  | '\t' => ['\\', 't']
  | c =>
    if c.toNat < 0x20 then
      ['\\', 'u', '0', '0', Text.hexDigit (c.toNat / 16), Text.hexDigit (c.toNat % 16)]
    else
      [c]

/-- A text between quotes. -/
def write (text : List Char) : List Char :=
  '"' :: text.flatMap escape ++ ['"']

/-- The character that a one-letter escape stands for. -/
def shortEscape? : Char → Option Char
  | '"' => some '"'
  | '\\' => some '\\'
  | '/' => some '/'
  | 'b' => some '\x08'
  | 'f' => some '\x0c'
  | 'n' => some '\n'
  | 'r' => some '\r'
  | 't' => some '\t'
  | _ => none

/-- Reads up to the closing quote. The result holds code points and, where escapes name them,
surrogates. -/
def readUnits : List Char → Option (List Nat × List Char)
  | [] => none
  | '"' :: rest => some ([], rest)
  | '\\' :: 'u' :: a :: b :: c :: d :: rest => do
    let unit ← Text.ofHex? [a, b, c, d]
    let (units, rest) ← readUnits rest
    return (unit :: units, rest)
  | '\\' :: c :: rest => do
    let char ← shortEscape? c
    let (units, rest) ← readUnits rest
    return (char.toNat :: units, rest)
  | c :: rest =>
    if c.toNat < 0x20 then
      none
    else do
      let (units, rest) ← readUnits rest
      return (c.toNat :: units, rest)

def isHighHalf (unit : Nat) : Bool :=
  0xD800 ≤ unit && unit < 0xDC00

def isLowHalf (unit : Nat) : Bool :=
  0xDC00 ≤ unit && unit < 0xE000

/-- The code point of a surrogate pair. -/
def pairPoint (high low : Nat) : Nat :=
  0x10000 + (high - 0xD800) * 0x400 + (low - 0xDC00)

/-- Puts surrogate pairs together, if every half has its partner. -/
def ofUnits? : List Nat → Option (List Char)
  | [] => some []
  | [unit] => if isHighHalf unit || isLowHalf unit then none else some [Char.ofNat unit]
  | unit :: next :: units =>
    if isLowHalf unit then
      none
    else if isHighHalf unit then
      if isLowHalf next then
        (ofUnits? units).map (Char.ofNat (pairPoint unit next) :: ·)
      else
        none
    else
      (ofUnits? (next :: units)).map (Char.ofNat unit :: ·)

end Hardening.Json.Quoted
