import Hardening.Text.Blank

/-!
# Lines with a floating base image

A base image floats when a line reads `FROM`, a gap of blank characters, an image reference, the
tag `:latest`, and then ends or goes on after a blank character. The reference has no blank
character in it, so it is the first word after the keyword without its last seven characters: the
parts of such a line are determined by the line.
-/
namespace Hardening.BaseImage

def fromKeyword : String := "FROM"

/-- The tag that names no fixed version. -/
def latestTag : String := ":latest"

/-- The parts of a line with a floating base image. -/
structure Floating where
  /-- The blank characters after the keyword. -/
  gap : String
  /-- The image reference without its tag. -/
  image : String
  /-- What follows the tag. -/
  rest : String
  deriving Repr, DecidableEq

namespace Floating

/-- The line that the parts were read from. -/
def line (parts : Floating) : String :=
  fromKeyword ++ parts.gap ++ parts.image ++ latestTag ++ parts.rest

/-- The same line with another tag in place of the floating one. -/
def pinned (parts : Floating) (tag : String) : String :=
  fromKeyword ++ parts.gap ++ parts.image ++ ":" ++ tag ++ parts.rest

/-- The rule that the parts of a line obey. -/
structure WellFormed (parts : Floating) : Prop where
  gap_ne : parts.gap.toList ≠ []
  gap_blank : ∀ c ∈ parts.gap.toList, Text.isBlank c = true
  image_ne : parts.image.toList ≠ []
  image_solid : ∀ c ∈ parts.image.toList, Text.isBlank c = false
  rest_separate : ∀ c ∈ parts.rest.toList.head?, Text.isBlank c = true

/-- Takes a line apart, if its base image floats. -/
def find? (line : String) : Option Floating :=
  if fromKeyword.toList.isPrefixOf line.toList then
    let afterKeyword := line.toList.drop fromKeyword.length
    let gap := afterKeyword.takeWhile Text.isBlank
    let afterGap := afterKeyword.dropWhile Text.isBlank
    let word := afterGap.takeWhile (!Text.isBlank ·)
    -- Cutting at the end takes the last of several tags.
    let image := word.take (word.length - latestTag.length)
    if gap ≠ [] ∧ image ≠ [] ∧ latestTag.toList.isSuffixOf word then
      some {
        gap := String.ofList gap
        image := String.ofList image
        rest := String.ofList (afterGap.dropWhile (!Text.isBlank ·)) }
    else
      none
  else
    none

/-- Byte offset of the image reference in the line. -/
def imageStart (parts : Floating) : Nat :=
  (fromKeyword ++ parts.gap).utf8ByteSize

/-- Byte offset of the end of the image reference, where the tag begins. -/
def imageEnd (parts : Floating) : Nat :=
  (fromKeyword ++ parts.gap ++ parts.image).utf8ByteSize

/-- The line up to the tag's end, with the one blank character that separates the rest. -/
def matched (parts : Floating) : String :=
  fromKeyword ++ parts.gap ++ parts.image ++ latestTag ++
    String.ofList (parts.rest.toList.take 1)

end Floating
end Hardening.BaseImage
