/-!
# Documents as physical lines

A build file is an ordered list of lines separated by line feeds. A final line feed leaves an empty
last line, and carriage returns belong to the line they end. Splitting and joining are inverse on
texts always, and on lists of lines when these are non-empty and free of line feeds.
-/
namespace Hardening

/-- The physical lines of a build file. -/
structure Document where
  lines : List String
  deriving Repr, DecidableEq

namespace Document

/-- Cuts a text at every line feed. -/
def ofText (text : String) : Document :=
  ⟨(text.toList.splitOn '\n').map String.ofList⟩

/-- Writes one line feed between neighbouring lines and nothing after the last one. -/
def joinLines (lines : List String) : String :=
  "\n".intercalate lines

def text (document : Document) : String :=
  joinLines document.lines

/-- Number of lines. -/
def size (document : Document) : Nat :=
  document.lines.length

theorem toList_joinLines (lines : List String) :
    (joinLines lines).toList = ['\n'].intercalate (lines.map String.toList) := by
  simp [joinLines, String.toList_intercalate]

theorem toLists_ofText (t : String) :
    (ofText t).lines.map String.toList = t.toList.splitOn '\n' := by
  simp [ofText, Function.comp_def]

theorem text_ofText (t : String) : (ofText t).text = t := by
  apply String.toList_inj.mp
  rw [text, toList_joinLines, toLists_ofText, List.intercalate_splitOn]

theorem lines_ofText_ne_nil (t : String) : (ofText t).lines ≠ [] := by
  simp [ofText]

end Document
end Hardening
