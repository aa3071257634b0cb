import Hardening.Document

/-!
# Physical lines of joined entries

An entry of an output may be a text of several lines. Joined with others it contributes the lines
that it has on its own, so the physical lines of an output are found entry by entry, and their number
by counting line feeds.
-/
namespace Hardening

/-- Number of line feeds. -/
def Text.lineFeeds (s : String) : Nat :=
  s.toList.count '\n'

theorem Text.lineFeeds_append (s t : String) :
    lineFeeds (s ++ t) = lineFeeds s + lineFeeds t := by
  simp [lineFeeds]

theorem Text.lineFeeds_eq_zero_iff (s : String) : lineFeeds s = 0 ↔ '\n' ∉ s.toList :=
  List.count_eq_zero

theorem Text.single_append {s t : String} (first : '\n' ∉ s.toList) (second : '\n' ∉ t.toList) :
    '\n' ∉ (s ++ t).toList := by
  simp [first, second]

namespace Document

theorem joinLines_singleton (line : String) : joinLines [line] = line := by
  simp [joinLines]

theorem joinLines_append {front back : List String} (first : front ≠ []) (more : back ≠ []) :
    joinLines (front ++ back) = joinLines front ++ "\n" ++ joinLines back :=
  String.intercalate_append_of_ne_nil first more

theorem joinLines_cons (line : String) {lines : List String} (more : lines ≠ []) :
    joinLines (line :: lines) = line ++ "\n" ++ joinLines lines :=
  String.intercalate_cons_of_ne_nil more

theorem lines_ofText_append (front back : String) :
    (ofText (front ++ "\n" ++ back)).lines = (ofText front).lines ++ (ofText back).lines := by
  simp [ofText, List.splitOn_append_cons_self]

theorem lines_ofText_of_single {line : String} (single : '\n' ∉ line.toList) :
    (ofText line).lines = [line] := by
  simp [ofText, List.splitOn_eq_singleton single]

theorem lines_ofText_joinLines {entries : List String} (filled : entries ≠ []) :
    (ofText (joinLines entries)).lines = entries.flatMap fun entry => (ofText entry).lines := by
  induction entries with
  | nil => exact absurd rfl filled
  | cons entry entries ih =>
    cases entries with
    | nil => simp [joinLines_singleton]
    | cons next entries =>
      have more : next :: entries ≠ [] := List.cons_ne_nil _ _
      rw [joinLines_cons entry more, lines_ofText_append, ih more]
      rfl

theorem flatMap_lines_of_single {entries : List String}
    (single : ∀ entry ∈ entries, '\n' ∉ entry.toList) :
    (entries.flatMap fun entry => (ofText entry).lines) = entries := by
  induction entries with
  | nil => rfl
  | cons entry entries ih =>
    rw [List.flatMap_cons, lines_ofText_of_single (single entry List.mem_cons_self),
      ih fun other member => single other (List.mem_cons_of_mem _ member)]
    rfl

theorem lines_ofText_joinLines_of_single {lines : List String} (filled : lines ≠ [])
    (single : ∀ line ∈ lines, '\n' ∉ line.toList) : (ofText (joinLines lines)).lines = lines := by
  rw [lines_ofText_joinLines filled, flatMap_lines_of_single single]

private theorem of_mem_splitOn {separator : Char} {text piece : List Char}
    (member : piece ∈ text.splitOn separator) : ∀ c ∈ piece, c ∈ text ∧ c ≠ separator := by
  induction text generalizing piece with
  | nil =>
    rw [List.splitOn_nil, List.mem_singleton] at member
    simp [member]
  | cons first text ih =>
    have later {piece : List Char} (within : piece ∈ text.splitOn separator) :
        ∀ c ∈ piece, c ∈ first :: text ∧ c ≠ separator := fun c inside =>
      ⟨List.mem_cons_of_mem _ (ih within c inside).1, (ih within c inside).2⟩
    -- The first character ends an empty piece, or it goes in front of the first piece of the rest.
    rw [List.splitOn_cons_eq_if_modifyHead] at member
    split at member
    next cut =>
      rcases List.mem_cons.mp member with rfl | within
      · nofun
      · exact later within
    next kept =>
      cases pieces : text.splitOn separator with
      | nil => exact absurd pieces (List.splitOn_ne_nil _ _)
      | cons head others =>
        rw [pieces] at member later
        rcases List.mem_cons.mp member with rfl | within
        · intro c inside
          rcases List.mem_cons.mp inside with rfl | rest
          · exact ⟨List.mem_cons_self, by simpa using kept⟩
          · exact later List.mem_cons_self c rest
        · exact later (List.mem_cons_of_mem _ within)

theorem of_mem_line {text line : String} (member : line ∈ (ofText text).lines) :
    ∀ c ∈ line.toList, c ∈ text.toList ∧ c ≠ '\n' := by
  obtain ⟨piece, within, rfl⟩ := List.mem_map.mp member
  simpa using of_mem_splitOn within

theorem lineFeed_not_mem {text line : String} (member : line ∈ (ofText text).lines) :
    '\n' ∉ line.toList :=
  fun feed => (of_mem_line member _ feed).2 rfl

/-- What is put behind a text and holds no line feed goes on the last line. -/
theorem lines_ofText_append_single (text : String) {more : String} (single : '\n' ∉ more.toList) :
    ∃ front last, (ofText text).lines = front ++ [last] ∧
      (ofText (text ++ more)).lines = front ++ [last ++ more] := by
  obtain ⟨front, last, lines⟩ : ∃ front last, (ofText text).lines = front ++ [last] :=
    ⟨_, _, (List.dropLast_concat_getLast (lines_ofText_ne_nil text)).symm⟩
  have written := text_ofText text
  have singles : ∀ line ∈ (ofText text).lines, '\n' ∉ line.toList := fun _ => lineFeed_not_mem
  rw [lines, List.forall_mem_append, List.forall_mem_singleton] at singles
  have rest := lines_ofText_of_single (Text.single_append singles.2 single)
  rw [Document.text, lines] at written
  refine ⟨front, last, lines, ?_⟩
  -- A text of one line has no line feed in front of the last line to cut it at.
  by_cases one : front = []
  · rw [one, List.nil_append, joinLines_singleton] at written
    rw [one, ← written, rest, List.nil_append]
  · have kept := lines_ofText_joinLines_of_single one singles.1
    rw [← written, joinLines_append one (List.cons_ne_nil _ _), joinLines_singleton,
      String.append_assoc, lines_ofText_append, kept, rest]

/-- What is put in front of a text and holds no line feed goes on the first line. -/
theorem lines_ofText_prepend_single (text : String) {more : String}
    (single : '\n' ∉ more.toList) :
    ∃ first back, (ofText text).lines = first :: back ∧
      (ofText (more ++ text)).lines = (more ++ first) :: back := by
  obtain ⟨first, back, lines⟩ := List.exists_cons_of_ne_nil (lines_ofText_ne_nil text)
  have written := text_ofText text
  have singles : ∀ line ∈ (ofText text).lines, '\n' ∉ line.toList := fun _ => lineFeed_not_mem
  rw [lines, List.forall_mem_cons] at singles
  have start := lines_ofText_of_single (Text.single_append single singles.1)
  rw [Document.text, lines] at written
  refine ⟨first, back, lines, ?_⟩
  by_cases one : back = []
  · rw [one, joinLines_singleton] at written
    rw [one, ← written, start]
  · have kept := lines_ofText_joinLines_of_single one singles.2
    rw [← written, joinLines_cons first one, ← String.append_assoc, ← String.append_assoc,
      lines_ofText_append, kept, start]
    rfl

/-- A text has one line more than it has line feeds. -/
theorem length_lines_ofText (text : String) :
    (ofText text).lines.length = Text.lineFeeds text + 1 := by
  simp only [ofText, Text.lineFeeds, List.length_map]
  induction text.toList with
  | nil => simp
  | cons c text ih =>
    rw [List.splitOn_cons_eq_if_modifyHead]
    split
    next cut => simp_all
    next kept => simp_all

/-- Cutting and joining undo each other: on every text, and on exactly those lists of lines that have
an entry and no line feed inside one. -/
theorem joinLines_inverse :
    (∀ text : String, joinLines (ofText text).lines = text ∧ (ofText text).lines ≠ [] ∧
      ∀ line ∈ (ofText text).lines, '\n' ∉ line.toList) ∧
    ∀ lines : List String, (ofText (joinLines lines)).lines = lines ↔
      lines ≠ [] ∧ ∀ line ∈ lines, '\n' ∉ line.toList := by
  constructor
  · intro text
    exact ⟨text_ofText text, lines_ofText_ne_nil text, fun _ => lineFeed_not_mem⟩
  · intro lines
    constructor
    · intro same
      -- The lines of any text are of this kind, and here they are the given ones.
      have filled := lines_ofText_ne_nil (joinLines lines)
      have single : ∀ line ∈ (ofText (joinLines lines)).lines, '\n' ∉ line.toList :=
        fun _ => lineFeed_not_mem
      rw [same] at filled single
      exact ⟨filled, single⟩
    · rintro ⟨filled, single⟩
      exact lines_ofText_joinLines_of_single filled single

/-- A carriage return stays on its line and a final line feed leaves an empty one; an entry of two
lines comes back as two. -/
theorem joinLines_inverse_carriageReturn :
    (ofText (joinLines ["FROM node\r", "", ""])).lines = ["FROM node\r", "", ""] ∧
    (ofText (joinLines ["USER a", "RUN b \\\n    && c"])).lines ≠
      ["USER a", "RUN b \\\n    && c"] := by
  constructor
  · exact (joinLines_inverse.2 _).mpr ⟨by decide, by decide⟩
  · intro same
    obtain ⟨-, single⟩ := (joinLines_inverse.2 _).mp same
    exact absurd single (by decide)

end Document
end Hardening
