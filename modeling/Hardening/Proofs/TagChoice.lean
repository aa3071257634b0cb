import Hardening.Proofs.Pinning

/-!
# Which tag an image gets

The name of an image is what follows the last slash of its reference, so every path leads to the same
entry of the tag table: the first one with that name. The check lets no name with a slash, a colon or
a blank into the table, so each name that it lets through can be referred to.
-/
namespace Hardening

open BaseImage (Floating TagRule)

namespace BaseImage

/-- What may stand in front of an image name: nothing, or components that a slash ends each. -/
structure IsPath (path : String) : Prop where
  solid : ∀ c ∈ path.toList, Text.isBlank c = false
  ends : path = "" ∨ Text.trails "/" path = true

/-- The name of an image does not depend on the path in front of it. -/
theorem imageName_append {path name : String} (isPath : IsPath path) (bare : '/' ∉ name.toList) :
    imageName (path ++ name) = name := by
  have one : name.toList.splitOn '/' = [name.toList] := List.splitOn_eq_singleton bare
  rcases isPath.ends with rfl | ends
  · simp [imageName, one]
  · obtain ⟨front, rfl⟩ := (Text.trails_iff "/" path).mp ends
    have cut : (front ++ "/" ++ name).toList.splitOn '/' =
        front.toList.splitOn '/' ++ [name.toList] := by
      simp [List.splitOn_append_cons_self, one]
    rw [imageName, cut, List.getLast?_concat, Option.getD_some, String.ofList_toList]

/-- The first entry of a table with a name that some entry has. -/
theorem exists_first {rules : List TagRule} {name : String}
    (listed : ∃ rule ∈ rules, rule.image = name) :
    ∃ front first back, rules = front ++ first :: back ∧ first.image = name ∧
      ∀ other ∈ front, other.image ≠ name := by
  have found : (rules.find? (·.image = name)).isSome = true := by simpa using listed
  obtain ⟨first, decides⟩ := Option.isSome_iff_exists.mp found
  obtain ⟨named, front, back, split, others⟩ := List.find?_eq_some_iff_append.mp decides
  exact ⟨front, first, back, split, by simpa using named, by simpa using others⟩

theorem tagFor_of_first {front back : List TagRule} {first : TagRule} {reference name : String}
    (read : imageName reference = name) (named : first.image = name)
    (others : ∀ other ∈ front, other.image ≠ name) (default : String) :
    tagFor (front ++ first :: back) default reference = first.tag := by
  have passed : front.find? (·.image = name) = none := by simpa using others
  simp [tagFor, read, List.find?_append, passed, named]

theorem tagFor_of_unlisted {rules : List TagRule} {reference name : String}
    (read : imageName reference = name) (unlisted : ∀ rule ∈ rules, rule.image ≠ name)
    (default : String) : tagFor rules default reference = default := by
  have none : rules.find? (·.image = name) = none := by simpa using unlisted
  simp [tagFor, read, none]

theorem Floating.wellFormed_path {gap path name rest : String} (gap_ne : gap ≠ "")
    (gap_blank : ∀ c ∈ gap.toList, Text.isBlank c = true)
    (separate : ∀ c ∈ rest.toList.head?, Text.isBlank c = true) (isPath : IsPath path)
    (solid : ∀ c ∈ name.toList, Text.isBlank c = false) (filled : path ++ name ≠ "") :
    (⟨gap, path ++ name, rest⟩ : Floating).WellFormed := by
  refine ⟨by simpa using gap_ne, gap_blank, by simpa using filled, ?_, separate⟩
  intro c member
  rw [String.toList_append, List.mem_append] at member
  exact member.elim (isPath.solid c) (solid c)

end BaseImage

open BaseImage (IsPath imageName_append)

/-- What the check lets into the table as a name can be the last component of a reference. -/
theorem Config.Accepted.image_of_mem {config : Config} (accepted : config.Accepted) {rule : TagRule}
    (listed : rule ∈ config.baseImageTags) :
    rule.image ≠ "" ∧ (∀ c ∈ rule.image.toList, Text.isBlank c = false) ∧
      '/' ∉ rule.image.toList := by
  obtain ⟨word, bare, -⟩ := accepted.rules rule listed
  obtain ⟨filled, solid⟩ := (Text.isWord_iff rule.image).mp word
  simp only [isBareImage, Bool.and_eq_true] at bare
  exact ⟨by simpa using filled, solid, by simpa using bare.1⟩

/-- A line that floats is pinned to what the table says about its image. -/
theorem classify_line {parts : Floating} (formed : parts.WellFormed) (config : Config)
    (state : ScanState) :
    (classify config parts.line state).1 =
      ⟨parts.pinned (config.tagFor parts.image), [.pinBaseImage]⟩ := by
  have found := Floating.find?_line formed
  rw [classify_eq, emitted_of_pinBaseImage found]
  simp [ruleFor, found]

/-- An entry's name can be referred to behind every path, and then the first entry with that name
gives the tag. An image with a name that is not in the table gets the default tag, again behind every
path. -/
theorem classify_firstRule (config : Config) (valid : config.check = .ok ()) (gap rest : String)
    (gap_ne : gap ≠ "") (gap_blank : ∀ c ∈ gap.toList, Text.isBlank c = true)
    (separate : ∀ c ∈ rest.toList.head?, Text.isBlank c = true) (state : ScanState) :
    (∀ rule ∈ config.baseImageTags, ∃ front first back,
      config.baseImageTags = front ++ first :: back ∧ first.image = rule.image ∧
      (∀ other ∈ front, other.image ≠ rule.image) ∧
      ∀ path, IsPath path →
        (classify config ("FROM" ++ gap ++ (path ++ rule.image) ++ ":latest" ++ rest) state).1 =
          { text := "FROM" ++ gap ++ (path ++ rule.image) ++ ":" ++ first.tag ++ rest
            changedBy := [.pinBaseImage] }) ∧
    ∀ name : String, '/' ∉ name.toList → (∀ c ∈ name.toList, Text.isBlank c = false) →
      (∀ rule ∈ config.baseImageTags, rule.image ≠ name) →
      ∀ path, IsPath path → path ++ name ≠ "" →
        (classify config ("FROM" ++ gap ++ (path ++ name) ++ ":latest" ++ rest) state).1 =
          { text := "FROM" ++ gap ++ (path ++ name) ++ ":" ++ config.defaultTag ++ rest
            changedBy := [.pinBaseImage] } := by
  have accepted := (Config.check_eq_ok_iff config).mp valid
  -- Both parts are about a line that floats, so only the tag is left to be found.
  have pins (path name : String) (isPath : IsPath path) (filled : path ++ name ≠ "")
      (solid : ∀ c ∈ name.toList, Text.isBlank c = false) :
      (classify config ("FROM" ++ gap ++ (path ++ name) ++ ":latest" ++ rest) state).1 =
        { text := "FROM" ++ gap ++ (path ++ name) ++ ":" ++ config.tagFor (path ++ name) ++ rest
          changedBy := [.pinBaseImage] } :=
    classify_line (Floating.wellFormed_path gap_ne gap_blank separate isPath solid filled) _ state
  constructor
  · intro rule listed
    obtain ⟨image_ne, solid, bare⟩ := accepted.image_of_mem listed
    obtain ⟨front, first, back, split, named, others⟩ :=
      BaseImage.exists_first ⟨rule, listed, rfl⟩
    refine ⟨front, first, back, split, named, others, ?_⟩
    intro path isPath
    have filled : path ++ rule.image ≠ "" := by simp [image_ne]
    have tag : config.tagFor (path ++ rule.image) = first.tag := by
      rw [Config.tagFor, split]
      exact BaseImage.tagFor_of_first (imageName_append isPath bare) named others _
    rw [pins path rule.image isPath filled solid, tag]
  · intro name bare solid unlisted path isPath filled
    have tag : config.tagFor (path ++ name) = config.defaultTag :=
      BaseImage.tagFor_of_unlisted (imageName_append isPath bare) unlisted _
    rw [pins path name isPath filled solid, tag]

/-- A table with two entries for one name. -/
def twiceNode : Config := { baseImageTags := [⟨"node", "20-slim"⟩, ⟨"node", "16"⟩] }

/-- Of two entries for a name the first one counts, behind a registry with a port as well, and a name
that only begins like theirs is another one. -/
theorem classify_firstRule_registry :
    twiceNode.check = .ok () ∧ IsPath "localhost:5000/a:latest/" ∧
    (classify twiceNode "FROM\u3000localhost:5000/a:latest/node:latest AS base" .initial).1 =
      ⟨"FROM\u3000localhost:5000/a:latest/node:20-slim AS base", [.pinBaseImage]⟩ ∧
    (classify twiceNode "FROM\u3000localhost:5000/a:latest/nodes:latest AS base" .initial).1 =
      ⟨"FROM\u3000localhost:5000/a:latest/nodes:18-slim AS base", [.pinBaseImage]⟩ := by
  have valid : twiceNode.check = .ok () := rfl
  have isPath : IsPath "localhost:5000/a:latest/" :=
    ⟨((Text.isWord_iff _).mp rfl).2, Or.inr rfl⟩
  have gap_blank := (Text.isBlankText_iff "\u3000").mp rfl
  have separate : ∀ c ∈ " AS base".toList.head?, Text.isBlank c = true := by
    rintro c ⟨⟩
    rfl
  obtain ⟨known, unknown⟩ := classify_firstRule twiceNode valid "\u3000" " AS base" (by decide)
    gap_blank separate .initial
  refine ⟨valid, isPath, ?_, ?_⟩
  · obtain ⟨front, first, back, split, -, others, pinned⟩ :=
      known ⟨"node", "16"⟩ (List.mem_cons_of_mem _ List.mem_cons_self)
    cases front with
    | nil =>
      cases split
      simpa using pinned _ isPath
    | cons other front =>
      have same : "node" = other.image := congrArg TagRule.image (List.cons.inj split).1
      exact absurd same.symm (others other List.mem_cons_self)
  · have solid := ((Text.isWord_iff "nodes").mp rfl).2
    have default : twiceNode.defaultTag = "18-slim" := rfl
    simpa [default] using unknown "nodes" (by decide) solid (by decide) _ isPath (by decide)

end Hardening
