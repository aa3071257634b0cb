import Hardening.Json.Reader
import Hardening.Json.Printer
import Hardening.Proofs.DecimalDigits

/-!
# Written strings and numbers of JSON

What stands between quotes is read back as the text it was written from, whatever its characters, and
a natural number of 64 bits is read back from its digits.
-/
namespace Hardening.Json

namespace Quoted

private theorem ofHex?_control : ∀ n < 0x20,
    Text.ofHex? ['0', '0', Text.hexDigit (n / 16), Text.hexDigit (n % 16)] = some n := by
  decide

private theorem readUnits_short {letter c : Char} (rest : List Char)
    (short : shortEscape? letter = some c) :
    readUnits ('\\' :: letter :: rest) =
      (readUnits rest).map fun (units, rest) => (c.toNat :: units, rest) := by
  have other : letter ≠ 'u' := by
    rintro rfl
    cases short
  rw [readUnits, short]
  · cases readUnits rest <;> rfl
  · exact fun _ _ _ _ _ same _ => other same

private theorem readUnits_plain {c : Char} (rest : List Char) (quote : c ≠ '"') (slash : c ≠ '\\')
    (visible : ¬ c.toNat < 0x20) :
    readUnits (c :: rest) =
      (readUnits rest).map fun (units, rest) => (c.toNat :: units, rest) := by
  rw [readUnits, if_neg visible]
  · cases readUnits rest <;> rfl
  · exact quote
  · exact fun _ _ _ _ _ same _ => slash same
  · exact fun _ _ same _ => slash same

/-- A written character is read back as its code point. -/
theorem readUnits_escape (c : Char) (rest : List Char) :
    readUnits (escape c ++ rest) =
      (readUnits rest).map fun (units, rest) => (c.toNat :: units, rest) := by
  unfold escape
  split
  -- The last case has no short form: the character is written by its number or as it is.
  case h_8 quote slash back feed line return_ tab =>
    split
    next control =>
      simp only [List.cons_append, List.nil_append, readUnits, ofHex?_control c.toNat control]
      cases readUnits rest <;> rfl
    next visible => exact readUnits_plain rest quote slash visible
  all_goals exact readUnits_short rest rfl

theorem readUnits_write (text rest : List Char) :
    readUnits (text.flatMap escape ++ '"' :: rest) = some (text.map Char.toNat, rest) := by
  induction text with
  | nil => rfl
  | cons c text ih =>
    rw [List.flatMap_cons, List.append_assoc, readUnits_escape, ih]
    rfl

/-- Code points of characters are no halves of surrogate pairs. -/
theorem not_half (c : Char) : isHighHalf c.toNat = false ∧ isLowHalf c.toNat = false := by
  have valid : c.toNat < 0xD800 ∨ 0xDFFF < c.toNat ∧ c.toNat < 0x110000 := c.valid
  simp only [isHighHalf, isLowHalf, Bool.and_eq_false_iff, decide_eq_false_iff_not]
  omega

theorem ofUnits?_toNat (text : List Char) : ofUnits? (text.map Char.toNat) = some text := by
  induction text with
  | nil => rfl
  | cons c text ih =>
    obtain ⟨high, low⟩ := not_half c
    cases text with
    | nil => simp [ofUnits?, high, low]
    | cons next text =>
      rw [List.map_cons] at ih
      simp [ofUnits?, high, low, ih]

end Quoted

namespace Number

/-- Nothing comes next that would go on with a whole number. -/
def Ends (rest : List Char) : Prop :=
  ∀ c ∈ rest.head?, c.isDigit = false ∧ c ≠ '.' ∧ c ≠ 'e' ∧ c ≠ 'E'

theorem isWhole_digits (n : Nat) : isWhole (Text.digits n) = true := by
  by_cases zero : n = 0
  · subst zero
    decide
  · have lead := Text.head?_digits_ne zero
    have filled := Text.digits_ne_nil n
    unfold isWhole
    split
    next => rfl
    next starts => simp [starts] at lead
    next => simpa using filled

theorem write_natural (n : Nat) : write { whole := n } = Text.digits n := by
  simp [write]

theorem read_digits (n : Nat) {rest : List Char} (ends : Ends rest) :
    read (Text.digits n ++ rest) = some ({ whole := n }, rest) := by
  have sign : readSign (Text.digits n ++ rest) = (false, Text.digits n ++ rest) := by
    unfold readSign
    split
    next same => exact absurd (Text.isDigit_of_digits_append same) (by decide)
    next => rfl
  have span : Text.spanDigits (Text.digits n ++ rest) = (Text.digits n, rest) :=
    Text.spanDigits_of_all (fun _ => Text.isDigit_digits) fun c starts => (ends c starts).1
  -- What follows begins with no character that a number may go on with.
  have fraction : readFraction rest = some ([], rest) := by
    unfold readFraction
    split
    next => exact absurd rfl (ends '.' rfl).2.1
    next => rfl
  have exponent : readExponent rest = some (none, rest) := by
    unfold readExponent
    split
    next => exact absurd rfl (ends 'e' rfl).2.2.1
    next => exact absurd rfl (ends 'E' rfl).2.2.2
    next => rfl
  have whole : (guard (isWhole (Text.digits n) = true) : Option Unit) = some () := by
    rw [isWhole_digits]
    rfl
  rw [read, sign]
  dsimp only
  rw [span]
  dsimp only
  rw [whole, fraction]
  simp [exponent, Text.ofDigits_digits]

/-- Numbers of 64 bits have twenty digits at most. -/
theorem inRange_natural {n : Nat} (fits : n < UInt64.size) : inRange { whole := n } = true := by
  have short : (Text.digits n).length ≤ 20 :=
    Text.length_digits_le (by decide) (Nat.lt_trans fits (by decide))
  have fewer : (significant { whole := n }).length ≤ 20 := by
    refine Nat.le_trans ?_ short
    simpa [significant] using (List.dropWhile_sublist (· = '0') (l := Text.digits n)).length_le
  have small : (significant { whole := n }).length + (Option.getD none 0 - 0 : Int) < 309 := by
    simp only [Option.getD_none]
    omega
  simp only [inRange]
  rw [if_pos (by simpa using Or.inr small)]

end Number

end Hardening.Json
