import Hardening.Proofs.FloatingGrammar
import Hardening.Scan
import Hardening.Text.Pattern

/-!
# The pattern of lines with a floating base image

The pattern for floating base images can be read in one way at most, so neither greed nor the order
of alternatives decides anything: what it finds is what the grammar says. The tag stands right
behind the image, between two boundaries of characters, and another tag can be put in its place byte
for byte.
-/
namespace Hardening

namespace Text

/-- Puts a text in the place of the bytes between two offsets. There is no result if an offset
stands inside a character or beyond the end, or if the offsets are in the wrong order. -/
def replaceRange? (s : String) (start stop : Nat) (new : String) : Option String :=
  if start ≤ stop ∧ (⟨start⟩ : String.Pos.Raw).IsValid s ∧ (⟨stop⟩ : String.Pos.Raw).IsValid s then
    String.fromUTF8? (s.toUTF8.extract 0 start ++ new.toUTF8 ++
      s.toUTF8.extract stop s.toUTF8.size)
  else none

theorem toUTF8_append (front back : String) :
    (front ++ back).toUTF8 = front.toUTF8 ++ back.toUTF8 :=
  String.toByteArray_append

theorem fromUTF8?_toUTF8 (s : String) : String.fromUTF8? s.toUTF8 = some s :=
  dif_pos s.isValidUTF8

theorem isValid_size (front back : String) :
    (⟨front.utf8ByteSize⟩ : String.Pos.Raw).IsValid (front ++ back) :=
  String.Pos.Raw.isValid_iff_exists_append.mpr ⟨front, back, rfl, rfl⟩

theorem extract_toUTF8_append (front middle back : String) :
    (front ++ middle ++ back).toUTF8.extract front.utf8ByteSize (front ++ middle).utf8ByteSize =
      middle.toUTF8 := by
  have within : (front ++ middle).toUTF8.extract front.utf8ByteSize
      (front ++ middle).utf8ByteSize = middle.toUTF8 := by
    rw [toUTF8_append, String.utf8ByteSize_append]
    exact ByteArray.extract_append_eq_right rfl rfl
  rw [toUTF8_append (front ++ middle), ← within]
  exact ByteArray.extract_append_size_left

/-- Everything in front of the range and behind it stays as it is. -/
theorem replaceRange?_append (front middle back new : String) :
    replaceRange? (front ++ middle ++ back) front.utf8ByteSize (front ++ middle).utf8ByteSize new =
      some (front ++ new ++ back) := by
  have ordered : front.utf8ByteSize ≤ (front ++ middle).utf8ByteSize := by
    rw [String.utf8ByteSize_append]
    exact Nat.le_add_right _ _
  have first : (⟨front.utf8ByteSize⟩ : String.Pos.Raw).IsValid (front ++ middle ++ back) := by
    rw [String.append_assoc]
    exact isValid_size front (middle ++ back)
  have last := isValid_size (front ++ middle) back
  -- The bytes are cut where the parts were put together.
  have kept : (front ++ middle ++ back).toUTF8.extract 0 front.utf8ByteSize = front.toUTF8 := by
    rw [String.append_assoc]
    exact toUTF8_append front _ ▸ ByteArray.extract_append_eq_left rfl
  have keptToo : (front ++ middle ++ back).toUTF8.extract (front ++ middle).utf8ByteSize
      (front ++ middle ++ back).toUTF8.size = back.toUTF8 := by
    rw [toUTF8_append, ByteArray.size_append]
    exact ByteArray.extract_append_eq_right rfl rfl
  rw [replaceRange?, if_pos ⟨ordered, first, last⟩, kept, keptToo, ← toUTF8_append,
    ← toUTF8_append, fromUTF8?_toUTF8]

end Text

namespace BaseImage

/-- The keyword, a gap, an image in one word with the floating tag, and then a blank or nothing. -/
def floatingPattern : Text.Pattern :=
  .both .start <| .both (.word fromKeyword) <| .both (.run Text.isBlank) <|
    .both (.group (.run (!Text.isBlank ·))) <| .both (.word latestTag) <|
      .either (.one Text.isBlank) .finish

namespace Floating

/-- The place behind what the pattern reads. -/
def cursor (parts : Floating) : Text.Pattern.Cursor where
  before := parts.matched.toList
  after := parts.rest.toList.drop 1
  group := some (parts.imageStart, parts.imageEnd)

/-- What the pattern finds in a line. -/
def found (parts : Floating) : Text.Pattern.Found where
  start := 0
  stop := parts.matched.utf8ByteSize
  group := some (parts.imageStart, parts.imageEnd)

end Floating

open Text.Pattern

/-- The separator takes one blank, or nothing at the end of the text. -/
theorem mem_ways_separator {within : Char → Bool} {cursor next : Cursor} :
    next ∈ (either (one within) finish).ways cursor ↔
      (∀ c ∈ cursor.after.head?, within c = true) ∧
        next = cursor.advance (cursor.after.take 1) (cursor.after.drop 1) := by
  obtain ⟨before, after, group⟩ := cursor
  rw [mem_ways_either, mem_ways_one, mem_ways_finish]
  cases after with
  | nil => simp [Cursor.advance]
  | cons c rest =>
    constructor
    · rintro (⟨d, more, inside, cut, rfl⟩ | ⟨ended, -⟩)
      · obtain ⟨rfl, rfl⟩ := List.cons.inj cut
        exact ⟨by simpa using inside, rfl⟩
      · cases ended
    · rintro ⟨separate, rfl⟩
      exact Or.inl ⟨c, rest, separate c rfl, rfl, rfl⟩

/-- The pattern can be read just as the text can be written by well-formed parts. -/
theorem mem_ways_floatingPattern (text : List Char) (last : Cursor) :
    last ∈ floatingPattern.ways { before := [], after := text } ↔
      ∃ parts : Floating, parts.WellFormed ∧ parts.line.toList = text ∧ last = parts.cursor := by
  simp only [floatingPattern, mem_ways_both, mem_ways_start, mem_ways_word, mem_ways_run,
    mem_ways_group, mem_ways_separator, Cursor.advance]
  constructor
  · -- Each piece of the pattern takes its part from the front of what is left.
    rintro ⟨_, ⟨-, rfl⟩, _, ⟨_, rfl, rfl⟩, _, ⟨gap, _, gap_ne, blank, rfl, rfl⟩, _,
      ⟨_, ⟨image, _, image_ne, solid, rfl, rfl⟩, rfl⟩, _, ⟨rest, rfl, rfl⟩, separate, rfl⟩
    refine ⟨⟨String.ofList gap, String.ofList image, String.ofList rest⟩, ?_, ?_, ?_⟩
    · constructor <;> simp_all
    · simp [Floating.line]
    · simp [Floating.cursor, Floating.matched, Floating.imageStart, Floating.imageEnd,
        Cursor.offset, Nat.add_assoc]
  · -- The parts are what the pieces take, and fix each place on the way.
    rintro ⟨parts, formed, rfl, rfl⟩
    refine ⟨_, ⟨trivial, rfl⟩, _, ⟨_, parts.toList_line, rfl⟩,
      _, ⟨parts.gap.toList, _, formed.gap_ne, formed.gap_blank, rfl, rfl⟩,
      _, ⟨_, ⟨parts.image.toList, _, formed.image_ne, ?_, List.append_assoc _ _ _, rfl⟩, rfl⟩,
      _, ⟨parts.rest.toList, rfl, rfl⟩, formed.rest_separate, ?_⟩
    · simpa using formed.image_solid
    · simp [Floating.cursor, Floating.matched, Floating.imageStart, Floating.imageEnd,
        Cursor.offset, Nat.add_assoc]

/-- A line is written by one well-formed choice of parts at most. -/
theorem Floating.line_inj {parts other : Floating} (formed : parts.WellFormed)
    (formedToo : other.WellFormed) (same : parts.line = other.line) : parts = other := by
  have read := find?_line formed
  rw [same, find?_line formedToo] at read
  exact (Option.some.inj read).symm

/-- The pattern finds what the grammar reads. -/
theorem search?_floatingPattern (line : String) :
    floatingPattern.search? line = (Floating.find? line).map Floating.found := by
  have start : floatingPattern.search? line =
      floatingPattern.foundAt? { before := [], after := line.toList } := search?_start _ line
  rw [start, foundAt?]
  cases read : Floating.find? line with
  | none =>
    have stuck : floatingPattern.ways { before := [], after := line.toList } = [] := by
      rw [List.eq_nil_iff_forall_not_mem]
      intro last member
      obtain ⟨parts, formed, written, -⟩ := (mem_ways_floatingPattern _ _).mp member
      exact (Floating.find?_eq_none_iff line).mp read parts formed (String.toList_inj.mp written)
    rw [stuck]
    rfl
  | some parts =>
    obtain ⟨formed, rfl⟩ := Floating.find?_sound read
    have member := (mem_ways_floatingPattern _ _).mpr ⟨parts, formed, rfl, rfl⟩
    -- All ways lead to the same place, so the first one does.
    have only : ∀ last ∈ floatingPattern.ways { before := [], after := parts.line.toList },
        last = parts.cursor := by
      intro last another
      obtain ⟨other, formedToo, written, rfl⟩ := (mem_ways_floatingPattern _ _).mp another
      rw [Floating.line_inj formedToo formed (String.toList_inj.mp written)]
    cases ways : floatingPattern.ways { before := [], after := parts.line.toList } with
    | nil =>
      rw [ways] at member
      cases member
    | cons first others =>
      rw [ways] at only
      rw [List.head?_cons, only first List.mem_cons_self]
      simp [Floating.cursor, Floating.found, Cursor.offset]

example : floatingPattern.search? "FROM node:latest-slim:latest" = some ⟨0, 28, some (5, 21)⟩ := by
  decide +kernel

namespace Floating

variable (parts : Floating)

theorem extract_image :
    parts.line.toUTF8.extract parts.imageStart parts.imageEnd = parts.image.toUTF8 := by
  have written : parts.line =
      fromKeyword ++ parts.gap ++ parts.image ++ (latestTag ++ parts.rest) := by
    rw [line, String.append_assoc]
  rw [written]
  exact Text.extract_toUTF8_append (fromKeyword ++ parts.gap) parts.image _

/-- The tag has seven bytes. -/
theorem imageEnd_add_seven : parts.imageEnd + 7 =
    (fromKeyword ++ parts.gap ++ parts.image ++ latestTag).utf8ByteSize := by
  have seven : latestTag.utf8ByteSize = 7 := by decide
  rw [String.utf8ByteSize_append, seven, imageEnd]

theorem extract_tag : parts.line.toUTF8.extract parts.imageEnd (parts.imageEnd + 7) =
    latestTag.toUTF8 := by
  rw [imageEnd_add_seven]
  exact Text.extract_toUTF8_append _ latestTag parts.rest

theorem isValid_imageEnd : (⟨parts.imageEnd⟩ : String.Pos.Raw).IsValid parts.line := by
  rw [line, String.append_assoc]
  exact Text.isValid_size _ (latestTag ++ parts.rest)

theorem isValid_imageEnd_add_seven :
    (⟨parts.imageEnd + 7⟩ : String.Pos.Raw).IsValid parts.line := by
  rw [imageEnd_add_seven]
  exact Text.isValid_size _ parts.rest

theorem replaceRange?_tag (new : String) :
    Text.replaceRange? parts.line parts.imageEnd (parts.imageEnd + 7) new =
      some (fromKeyword ++ parts.gap ++ parts.image ++ new ++ parts.rest) := by
  rw [imageEnd_add_seven]
  exact Text.replaceRange?_append _ latestTag parts.rest new

end Floating

/-- The pattern finds exactly the lines of the grammar, and of each line the one image that it has.
The tag is the seven bytes behind the image; they begin and end between characters, so a text can
always be put in their place, and no other byte changes. This is how a line is pinned. -/
theorem floatingPattern_language (line : String) :
    floatingPattern.search? line = (Floating.find? line).map Floating.found ∧
    ((floatingPattern.search? line).isSome = true ↔ ∃ parts : Floating, parts.WellFormed ∧
      line = "FROM" ++ parts.gap ++ parts.image ++ ":latest" ++ parts.rest) ∧
    (∀ parts other : Floating, parts.WellFormed → other.WellFormed →
      line = "FROM" ++ parts.gap ++ parts.image ++ ":latest" ++ parts.rest →
      line = "FROM" ++ other.gap ++ other.image ++ ":latest" ++ other.rest → parts = other) ∧
    ∀ parts : Floating, parts.WellFormed →
      line = "FROM" ++ parts.gap ++ parts.image ++ ":latest" ++ parts.rest →
      (∃ stop, floatingPattern.search? line =
        some ⟨0, stop, some (parts.imageStart, parts.imageEnd)⟩) ∧
      line.toUTF8.extract parts.imageStart parts.imageEnd = parts.image.toUTF8 ∧
      line.toUTF8.extract parts.imageEnd (parts.imageEnd + 7) = ":latest".toUTF8 ∧
      (⟨parts.imageEnd⟩ : String.Pos.Raw).IsValid line ∧
      (⟨parts.imageEnd + 7⟩ : String.Pos.Raw).IsValid line ∧
      (∀ new, Text.replaceRange? line parts.imageEnd (parts.imageEnd + 7) new =
        some ("FROM" ++ parts.gap ++ parts.image ++ new ++ parts.rest)) ∧
      ∀ (config : Config) (state : ScanState),
        Text.replaceRange? line parts.imageEnd (parts.imageEnd + 7)
          (":" ++ config.tagFor parts.image) =
            some (LineRule.pinBase.apply config line state).text := by
  refine ⟨search?_floatingPattern line, ?_, ?_, ?_⟩
  · rw [search?_floatingPattern, Option.isSome_map, Option.isSome_iff_exists]
    constructor
    · rintro ⟨parts, read⟩
      obtain ⟨formed, written⟩ := Floating.find?_sound read
      exact ⟨parts, formed, written.symm⟩
    · rintro ⟨parts, formed, rfl⟩
      exact ⟨parts, Floating.find?_line formed⟩
  -- The parts are determined by where the blanks and the last tag of the first word are.
  · intro parts other formed formedToo written writtenToo
    exact Floating.line_inj formed formedToo (written.symm.trans writtenToo)
  · intro parts formed written
    obtain rfl : line = parts.line := written
    have read : Floating.find? parts.line = some parts := Floating.find?_line formed
    have search : floatingPattern.search? parts.line = some parts.found := by
      rw [search?_floatingPattern, read, Option.map_some]
    refine ⟨⟨_, search⟩, parts.extract_image, parts.extract_tag, parts.isValid_imageEnd,
      parts.isValid_imageEnd_add_seven, parts.replaceRange?_tag, ?_⟩
    intro config state
    have pins : (LineRule.pinBase.apply config parts.line state).text =
        fromKeyword ++ parts.gap ++ parts.image ++ (":" ++ config.tagFor parts.image) ++
          parts.rest := by
      simp only [LineRule.apply, read, Floating.pinned, String.append_assoc]
    exact (parts.replaceRange?_tag _).trans (congrArg some pins.symm)

/-- Behind a wide blank and an accent, the bytes of the last tag go, and the line feed stays. -/
theorem floatingPattern_language_wide :
    let parts : Floating := ⟨"\u3000", "é/a:latest", "\nb"⟩
    let line := "FROM\u3000é/a:latest:latest\nb"
    parts.WellFormed ∧ floatingPattern.search? line = some ⟨0, 26, some (7, 18)⟩ ∧
      Text.replaceRange? line 18 25 ":18-slim" = some "FROM\u3000é/a:latest:18-slim\nb" := by
  have read : Floating.find? "FROM\u3000é/a:latest:latest\nb" =
      some ⟨"\u3000", "é/a:latest", "\nb"⟩ := by decide +kernel
  obtain ⟨formed, written⟩ := Floating.find?_sound read
  obtain ⟨search, -, -, tag⟩ := floatingPattern_language "FROM\u3000é/a:latest:latest\nb"
  obtain ⟨-, -, -, -, -, replaced, -⟩ := tag _ formed written.symm
  rw [read] at search
  have found : (⟨"\u3000", "é/a:latest", "\nb"⟩ : Floating).found = ⟨0, 26, some (7, 18)⟩ := by
    decide +kernel
  have imageEnd : (⟨"\u3000", "é/a:latest", "\nb"⟩ : Floating).imageEnd = 18 := by
    decide +kernel
  rw [Option.map_some, found] at search
  rw [imageEnd] at replaced
  exact ⟨formed, search, replaced ":18-slim"⟩

end BaseImage

end Hardening
