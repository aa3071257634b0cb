import Hardening.BaseImage.Floating

/-!
# The grammar of lines with a floating base image

`find?` reads a line by spans of blank and solid characters. It succeeds exactly on the lines that
well-formed parts write, and it returns these parts: no line has two readings.
-/
namespace Hardening.Text

/-- A span ends where the first character outside the class stands. -/
theorem span_append {p : Char → Bool} {front back : List Char}
    (inside : ∀ c ∈ front, p c = true) (outside : ∀ c ∈ back.head?, p c = false) :
    (front ++ back).takeWhile p = front ∧ (front ++ back).dropWhile p = back := by
  rw [List.takeWhile_append_of_pos inside, List.dropWhile_append_of_pos inside]
  cases back with
  | nil => simp
  | cons c back =>
    have stop : p c = false := outside c rfl
    simp [stop]

theorem inside_takeWhile (p : Char → Bool) (text : List Char) :
    ∀ c ∈ text.takeWhile p, p c = true :=
  List.all_eq_true.mp List.all_takeWhile

theorem outside_dropWhile (p : Char → Bool) (text : List Char) :
    ∀ c ∈ (text.dropWhile p).head?, p c = false := by
  intro c head
  have stop := List.head?_dropWhile_not p text
  rw [head] at stop
  exact stop

end Hardening.Text

namespace Hardening.BaseImage.Floating

theorem toList_line (parts : Floating) :
    parts.line.toList = fromKeyword.toList ++
      (parts.gap.toList ++ ((parts.image.toList ++ latestTag.toList) ++ parts.rest.toList)) := by
  simp [line]

theorem toList_pinned (parts : Floating) (tag : String) :
    (parts.pinned tag).toList = fromKeyword.toList ++
      (parts.gap.toList ++ ((parts.image.toList ++ ':' :: tag.toList) ++ parts.rest.toList)) := by
  simp [pinned]

/-- Cutting at the end leaves the image, whatever tags it holds itself. -/
private theorem take_word (image : List Char) :
    (image ++ latestTag.toList).take ((image ++ latestTag.toList).length - latestTag.length) =
      image := by
  rw [List.length_append, String.length, Nat.add_sub_cancel, List.take_left]

/-- Whether the base image of a line floats is decided by the first word after the keyword. -/
theorem find?_of_word {line : String} {gap word rest : List Char}
    (written : line.toList = fromKeyword.toList ++ (gap ++ (word ++ rest)))
    (blank : ∀ c ∈ gap, Text.isBlank c = true)
    (word_ne : word ≠ []) (solid : ∀ c ∈ word, Text.isBlank c = false)
    (separate : ∀ c ∈ rest.head?, Text.isBlank c = true) :
    find? line =
      if gap ≠ [] ∧ word.take (word.length - latestTag.length) ≠ [] ∧
          latestTag.toList.isSuffixOf word then
        some {
          gap := String.ofList gap
          image := String.ofList (word.take (word.length - latestTag.length))
          rest := String.ofList rest }
      else none := by
  -- A run ends where the next one begins, at a solid character and then at a blank.
  have gapSpan : (gap ++ (word ++ rest)).takeWhile Text.isBlank = gap ∧
      (gap ++ (word ++ rest)).dropWhile Text.isBlank = word ++ rest := by
    apply Text.span_append blank
    intro c head
    cases word with
    | nil => exact absurd rfl word_ne
    | cons first others =>
      cases head
      exact solid _ List.mem_cons_self
  have wordSpan : (word ++ rest).takeWhile (!Text.isBlank ·) = word ∧
      (word ++ rest).dropWhile (!Text.isBlank ·) = rest := by
    apply Text.span_append
    · intro c member
      simp [solid c member]
    · intro c head
      simp [separate c head]
  have keyword : fromKeyword.toList.isPrefixOf line.toList = true := by
    rw [List.isPrefixOf_iff_prefix, written]
    exact List.prefix_append _ _
  have after : line.toList.drop fromKeyword.length = gap ++ (word ++ rest) := by
    rw [written, String.length]
    exact List.drop_left
  simp only [find?, keyword, if_true, after, gapSpan, wordSpan]

/-- Well-formed parts are read back from the line they write. -/
theorem find?_line {parts : Floating} (formed : parts.WellFormed) :
    find? parts.line = some parts := by
  have latest_solid : latestTag.toList.all (!Text.isBlank ·) = true := by decide
  have latest : latestTag.toList.isSuffixOf (parts.image.toList ++ latestTag.toList) = true := by
    rw [List.isSuffixOf_iff_suffix]
    exact List.suffix_append _ _
  rw [find?_of_word (toList_line parts) formed.gap_blank _ _ formed.rest_separate, take_word,
    if_pos ⟨formed.gap_ne, formed.image_ne, latest⟩]
  · simp only [String.ofList_toList]
  · simp [formed.image_ne]
  · intro c member
    rcases List.mem_append.mp member with image | tag
    · exact formed.image_solid c image
    · simpa using List.all_eq_true.mp latest_solid c tag

/-- A line that is read was written by the parts it is read as, and these are well-formed. -/
theorem find?_sound {line : String} {parts : Floating} (found : find? line = some parts) :
    parts.WellFormed ∧ parts.line = line := by
  unfold find? at found
  split at found
  next keyword =>
    obtain ⟨after, written⟩ := List.isPrefixOf_iff_prefix.mp keyword
    have dropped : line.toList.drop fromKeyword.length = after := by
      rw [← written, String.length]
      exact List.drop_left
    simp only [dropped] at found
    split at found
    next readable =>
      cases found
      obtain ⟨gap_ne, image_ne, latest⟩ := readable
      -- The word ends in the tag, so the cut leaves what stands in front of the last tag.
      obtain ⟨image, ends⟩ := List.isSuffixOf_iff_suffix.mp latest
      have cut := take_word image
      rw [ends] at cut
      rw [cut] at image_ne
      have solid (c : Char) (member : c ∈ image) : Text.isBlank c = false := by
        have within := List.mem_append_left latestTag.toList member
        rw [ends] at within
        simpa using Text.inside_takeWhile _ _ c within
      constructor
      · constructor
        · simpa using gap_ne
        · simpa using Text.inside_takeWhile Text.isBlank after
        · simpa [cut] using image_ne
        · simpa [cut] using solid
        · simpa using Text.outside_dropWhile (!Text.isBlank ·) (after.dropWhile Text.isBlank)
      · apply String.toList_inj.mp
        rw [toList_line, ← written]
        simp only [String.toList_ofList, cut, ends, List.takeWhile_append_dropWhile]
    · cases found
  · cases found

/-- A line is read as the well-formed parts that write it, and as nothing else. -/
theorem find?_eq_some_iff (line : String) (parts : Floating) :
    find? line = some parts ↔ parts.WellFormed ∧ parts.line = line := by
  constructor
  · exact find?_sound
  · rintro ⟨formed, rfl⟩
    exact find?_line formed

theorem find?_eq_none_iff (line : String) :
    find? line = none ↔ ∀ parts : Floating, parts.WellFormed → parts.line ≠ line := by
  simp only [Option.eq_none_iff_forall_ne_some, ne_eq, find?_eq_some_iff, not_and]

/-- Two suffixes that both begin with a colon, and hold no other, are the same. -/
private theorem not_latest_suffix {image tag : List Char} (bare : ':' ∉ tag)
    (pinned : ':' :: tag ≠ latestTag.toList) : ¬ latestTag.toList <:+ image ++ ':' :: tag := by
  intro latest
  -- Both are suffixes of one list, so one is a suffix of the other, and of its tail if they differ.
  have own : ':' :: tag <:+ image ++ ':' :: tag := List.suffix_append _ _
  rcases List.suffix_or_suffix_of_suffix own latest with shorter | longer
  · rcases List.suffix_cons_iff.mp (show ':' :: tag <:+ ':' :: "latest".toList from shorter) with
      equal | inner
    · exact pinned equal
    · exact absurd (inner.subset List.mem_cons_self) (by decide)
  · rcases List.suffix_cons_iff.mp longer with equal | inner
    · exact pinned equal.symm
    · exact bare (inner.subset (show ':' ∈ latestTag.toList by decide))

/-- A tag without blanks and colons that is not `latest` ends the floating for good. -/
theorem find?_pinned {parts : Floating} (formed : parts.WellFormed) {tag : String}
    (solid : ∀ c ∈ tag.toList, Text.isBlank c = false) (bare : ':' ∉ tag.toList)
    (pinned : tag ≠ "latest") : find? (parts.pinned tag) = none := by
  have tag_ne : ':' :: tag.toList ≠ latestTag.toList := by
    intro equal
    exact pinned (String.toList_inj.mp (List.cons.inj equal).2)
  rw [find?_of_word (toList_pinned parts tag) formed.gap_blank _ _ formed.rest_separate, if_neg]
  · rintro ⟨-, -, latest⟩
    exact not_latest_suffix bare tag_ne (List.isSuffixOf_iff_suffix.mp latest)
  · simp
  · intro c member
    rcases List.mem_append.mp member with image | rest
    · exact formed.image_solid c image
    · rcases List.mem_cons.mp rest with rfl | inner
      · decide
      · exact solid c inner

end Hardening.BaseImage.Floating
