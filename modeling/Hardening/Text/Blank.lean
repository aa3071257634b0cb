/-!
# Blank characters

A character is blank when it has the Unicode property `White_Space`. Words, blank documents and
the gap after an instruction keyword are all measured by this one class; zero-width characters and
the information separators U+001C to U+001F are outside it.
-/
namespace Hardening.Text

/-- The characters with the property `White_Space`, as closed ranges of code points. -/
def blankRanges : List (Nat × Nat) :=
  [(0x09, 0x0D), (0x20, 0x20), (0x85, 0x85), (0xA0, 0xA0), (0x1680, 0x1680), (0x2000, 0x200A),
   (0x2028, 0x2029), (0x202F, 0x202F), (0x205F, 0x205F), (0x3000, 0x3000)]

def isBlank (c : Char) : Bool :=
  blankRanges.any fun range => range.1 ≤ c.toNat && c.toNat ≤ range.2

/-- The blank class contains every ASCII whitespace character. -/
theorem isBlank_of_isWhitespace (c : Char) (h : c.isWhitespace = true) : isBlank c = true := by
  simp only [Char.isWhitespace, Bool.or_eq_true, decide_eq_true_eq] at h
  rcases h with ((rfl | rfl) | rfl) | rfl <;> decide

/-- A text without any visible character; the empty text is one. -/
def isBlankText (s : String) : Bool :=
  s.toList.all isBlank

theorem isBlankText_iff (s : String) : isBlankText s = true ↔ ∀ c ∈ s.toList, isBlank c = true := by
  simp [isBlankText]

/-- A word has at least one character and no blank one. -/
def isWord (s : String) : Bool :=
  !s.toList.isEmpty && s.toList.all (!isBlank ·)

theorem isWord_iff (s : String) :
    isWord s = true ↔ s.toList ≠ [] ∧ ∀ c ∈ s.toList, isBlank c = false := by
  simp [isWord]

/-- The characters up to the first blank one, after leading blanks are dropped. -/
def firstWord? (s : String) : Option String :=
  match (s.toList.dropWhile isBlank).takeWhile (!isBlank ·) with
  | [] => none
  | word => some (String.ofList word)

end Hardening.Text
