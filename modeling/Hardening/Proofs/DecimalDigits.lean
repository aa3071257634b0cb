import Hardening.Text.Digits

/-!
# Decimal digits there and back

A number is read back from its digits, also when zeros stand in front of them, and a run of digits is
read up to where it ends.
-/
namespace Hardening.Text

theorem ofDigits_digits (n : Nat) : ofDigits (digits n) = n :=
  Nat.ofDigitChars_ten_toDigits

theorem toString_eq (n : Nat) : toString n = String.ofList (digits n) := rfl

theorem toString_inj {m n : Nat} (same : toString m = toString n) : m = n := by
  rw [toString_eq, toString_eq] at same
  rw [← ofDigits_digits m, ← ofDigits_digits n, String.ofList_injective same]

theorem digits_ne_nil (n : Nat) : digits n ≠ [] :=
  Nat.toDigits_ne_nil

theorem isDigit_digits {n : Nat} {c : Char} (member : c ∈ digits n) : c.isDigit = true :=
  Nat.isDigit_of_mem_toDigits (by decide) (by decide) member

theorem isDigit_of_append {run rest tail : List Char} {c : Char} (filled : run ≠ [])
    (all : ∀ c ∈ run, c.isDigit = true) (same : run ++ rest = c :: tail) : c.isDigit = true := by
  cases run with
  | nil => exact absurd rfl filled
  | cons first others =>
    cases same
    exact all _ List.mem_cons_self

theorem isDigit_of_digits_append {n : Nat} {rest tail : List Char} {c : Char}
    (same : digits n ++ rest = c :: tail) : c.isDigit = true :=
  isDigit_of_append (digits_ne_nil n) (fun _ => isDigit_digits) same

theorem length_digits_le {n width : Nat} (some : 0 < width) (fits : n < Nat.pow 10 width) :
    (digits n).length ≤ width :=
  (Nat.length_toDigits_le_iff (by decide) some).mpr fits

/-- Only zero is written with a zero in front. -/
theorem head?_digits_ne {n : Nat} (some : n ≠ 0) : (digits n).head? ≠ Option.some '0' := by
  induction n using Nat.strongRecOn with
  | ind n ih =>
    unfold digits
    by_cases small : n < 10
    · have ones : ∀ k < 10, k ≠ 0 → Nat.digitChar k ≠ '0' := by decide
      rw [Nat.toDigits_of_lt_base small]
      simpa using ones n small some
    · have front := ih (n / 10) (by omega) (by omega)
      have filled := List.head?_eq_some_head (digits_ne_nil (n / 10))
      rw [Nat.toDigits_of_base_le (by decide) (by omega)]
      change (digits (n / 10) ++ _).head? ≠ _
      rwa [List.head?_append, filled, Option.some_or, ← filled]

theorem ofDigits_paddedDigits (width n : Nat) : ofDigits (paddedDigits width n) = n := by
  change Nat.ofDigitChars 10 (List.replicate _ '0' ++ Nat.toDigits 10 n) 0 = n
  rw [Nat.ofDigitChars_append, Nat.ofDigitChars_replicate_zero, Nat.mul_zero,
    Nat.ofDigitChars_ten_toDigits]

theorem isDigit_paddedDigits {width n : Nat} {c : Char} (member : c ∈ paddedDigits width n) :
    c.isDigit = true := by
  rcases List.mem_append.mp member with zero | digit
  · rw [List.eq_of_mem_replicate zero]
    rfl
  · exact isDigit_digits digit

theorem length_paddedDigits {width n : Nat} (some : 0 < width) (fits : n < Nat.pow 10 width) :
    (paddedDigits width n).length = width := by
  have short := length_digits_le some fits
  simp only [paddedDigits, List.length_append, List.length_replicate]
  omega

theorem paddedDigits_ne_nil (width n : Nat) : paddedDigits width n ≠ [] :=
  List.append_ne_nil_of_right_ne_nil _ (digits_ne_nil n)

/-- Zeros behind the digits multiply by powers of ten. -/
theorem ofDigits_append_zeros (run : List Char) (count : Nat) :
    ofDigits (run ++ List.replicate count '0') = Nat.pow 10 count * ofDigits run := by
  change Nat.ofDigitChars 10 _ 0 = Nat.pow 10 count * Nat.ofDigitChars 10 run 0
  rw [Nat.ofDigitChars_append, Nat.ofDigitChars_replicate_zero]
  rfl

theorem ofDigits_append (front back : List Char) :
    ofDigits (front ++ back) = Nat.pow 10 back.length * ofDigits front + ofDigits back := by
  change Nat.ofDigitChars 10 (front ++ back) 0 = _ + Nat.ofDigitChars 10 back 0
  rw [Nat.ofDigitChars_append, Nat.ofDigitChars_eq_ofDigitChars_zero]
  rfl

theorem ofDigits_cons (c : Char) (run : List Char) :
    ofDigits (c :: run) = Nat.pow 10 run.length * (c.toNat - '0'.toNat) + ofDigits run := by
  have value : ofDigits [c] = c.toNat - '0'.toNat := Nat.zero_add _
  rw [← value, ← ofDigits_append]
  rfl

theorem value_of_isDigit {c : Char} (digit : c.isDigit = true) :
    c.toNat = '0'.toNat + (c.toNat - '0'.toNat) ∧ c.toNat - '0'.toNat < 10 := by
  obtain ⟨low, high⟩ := Char.isDigit_iff_toNat.mp digit
  have zero : '0'.toNat = 48 := rfl
  have nine : '9'.toNat = 57 := rfl
  omega

theorem ofDigits_lt {run : List Char} (all : ∀ c ∈ run, c.isDigit = true) :
    ofDigits run < Nat.pow 10 run.length := by
  induction run with
  | nil => decide
  | cons c run ih =>
    obtain ⟨digit, others⟩ := List.forall_mem_cons.mp all
    have rest := ih others
    have value := (value_of_isDigit digit).2
    rw [ofDigits_cons, List.length_cons]
    calc Nat.pow 10 run.length * (c.toNat - '0'.toNat) + ofDigits run
        < Nat.pow 10 run.length * (c.toNat - '0'.toNat) + Nat.pow 10 run.length := by omega
      _ = Nat.pow 10 run.length * (c.toNat - '0'.toNat + 1) := rfl
      _ ≤ Nat.pow 10 run.length * 10 := Nat.mul_le_mul_left _ value

/-- No digit comes next. -/
def NoDigit (rest : List Char) : Prop :=
  ∀ c ∈ rest.head?, c.isDigit = false

theorem spanDigits_of_all {run rest : List Char} (all : ∀ c ∈ run, c.isDigit = true)
    (ends : NoDigit rest) : spanDigits (run ++ rest) = (run, rest) := by
  have none : rest.takeWhile Char.isDigit = [] ∧ rest.dropWhile Char.isDigit = rest := by
    cases rest with
    | nil => exact ⟨rfl, rfl⟩
    | cons c rest =>
      have other : c.isDigit = false := ends c rfl
      simp [other]
  rw [spanDigits, List.takeWhile_append_of_pos all, List.dropWhile_append_of_pos all, none.1,
    none.2, List.append_nil]

end Hardening.Text
