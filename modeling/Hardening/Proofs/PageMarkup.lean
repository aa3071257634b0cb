import Hardening.Comparison
import Hardening.Proofs.Escaping

/-!
# The markup of a page

What is written for a value has none of the characters that make up tags and attributes. So these
come from the page alone, in an order that only the number of changes decides.
-/
namespace Hardening

namespace Text

/-- The character delimits a tag or the value of an attribute. -/
def isMark (c : Char) : Bool :=
  c = '<' || c = '>' || c = '"'

def marks (s : String) : List Char :=
  s.toList.filter isMark

theorem marks_append (s t : String) : marks (s ++ t) = marks s ++ marks t := by
  simp [marks]

theorem mem_entityChars_of_isMark {c : Char} (mark : isMark c = true) : c ∈ entityChars := by
  simp only [isMark, Bool.or_eq_true, decide_eq_true_eq] at mark
  rcases mark with (rfl | rfl) | rfl <;> decide

private theorem isMark_entities {c d : Char} (entity : c ∈ entityChars)
    (within : d ∈ escapeChar c) : isMark d = false := by
  have all : entityChars.all (fun c => (escapeChar c).all (!isMark ·)) = true := by decide
  have checked := List.all_eq_true.mp (List.all_eq_true.mp all c entity) d within
  exact (Bool.not_eq_true' _).mp checked

theorem isMark_escape {value : String} {c : Char} (member : c ∈ (escape value).toList) :
    isMark c = false := by
  rw [escape, String.toList_ofList, List.mem_flatMap] at member
  obtain ⟨written, -, within⟩ := member
  -- The character is of an entity, or it stands for itself and has none.
  by_cases entity : written ∈ entityChars
  · exact isMark_entities entity within
  · rw [escapeChar_of_not_mem entity, List.mem_singleton] at within
    rw [within, Bool.eq_false_iff]
    exact fun mark => entity (mem_entityChars_of_isMark mark)

theorem marks_escape (value : String) : marks (escape value) = [] := by
  rw [marks, List.filter_eq_nil_iff]
  intro c member
  rw [isMark_escape member]
  exact Bool.false_ne_true

namespace Piece

/-- The text of a piece that is put into the page as it is. -/
def raw? : Piece → Option String
  | fixed text => some text
  | escaped _ => none
  | verbatim value => some value

theorem render_cons (piece : Piece) (pieces : List Piece) :
    render (piece :: pieces) = piece.text ++ render pieces := by
  simp [render]

theorem marks_render (pieces : List Piece) :
    marks (render pieces) = marks (String.join (pieces.filterMap raw?)) := by
  induction pieces with
  | nil => rfl
  | cons piece pieces ih =>
    rw [render_cons, marks_append, ih]
    cases piece with
    | fixed text => simp [raw?, Piece.text, marks_append]
    | escaped value =>
      -- A value adds no mark to the page, and nothing to its raw text.
      have skipped : (escaped value :: pieces).filterMap raw? = pieces.filterMap raw? := rfl
      rw [skipped, Piece.text, marks_escape, List.nil_append]
    | verbatim value => simp [raw?, Piece.text, marks_append]

end Piece
end Text

namespace Comparison

open Text (marks)
open Text.Piece

/-- The page up to its list of changes, with empty slots. -/
def emptyDocuments : String :=
  "<!DOCTYPE html>\n<html lang=\"en\">\n<head>\n  <meta charset=\"utf-8\">\n" ++
  "  <title>Hardened Dockerfile</title>\n</head>\n<body>\n" ++
  "  <h1>Dockerfile hardening result</h1>\n" ++
  "  <section>\n    <h2>Original <small></small></h2>\n" ++
  "    <pre><code></code></pre>\n  </section>\n" ++
  "  <section>\n    <h2>Hardened <small></small></h2>\n" ++
  "    <pre><code></code></pre>\n  </section>\n" ++
  "  <section>\n    <h2>Changes ()</h2>\n    <ul>\n"

def emptyItem : String :=
  "      <li>line : <pre><code></code></pre></li>\n"

/-- The page with empty slots and the given number of items in its list of changes. -/
def emptyPage (changes : Nat) : String :=
  emptyDocuments ++ String.join (List.replicate changes emptyItem) ++
    "    </ul>\n  </section>\n</body>\n</html>\n"

theorem raw_htmlDocuments (view : Comparison) :
    String.join (view.htmlDocuments.filterMap raw?) = emptyDocuments := by
  have slotless : view.htmlDocuments.filterMap raw? = [htmlHead,
      "  <section>\n    <h2>Original <small>", "</small></h2>\n    <pre><code>",
      "</code></pre>\n  </section>\n",
      "  <section>\n    <h2>Hardened <small>", "</small></h2>\n    <pre><code>",
      "</code></pre>\n  </section>\n",
      "  <section>\n    <h2>Changes (", ")</h2>\n    <ul>\n"] := rfl
  rw [slotless]
  decide +kernel

theorem raw_htmlItems (changes : List ShownChange) :
    String.join ((changes.flatMap htmlItem).filterMap raw?) =
      String.join (List.replicate changes.length emptyItem) := by
  induction changes with
  | nil => rfl
  | cons change changes ih =>
    have item : String.join ((htmlItem change).filterMap raw?) = emptyItem := rfl
    rw [List.flatMap_cons, List.filterMap_append, String.join_append, item, ih,
      List.length_cons, List.replicate_succ, String.join_cons]

theorem raw_htmlPieces (view : Comparison) :
    String.join (view.htmlPieces.filterMap raw?) = emptyPage view.changes.length := by
  have foot : String.join ([fixed htmlFoot].filterMap raw?) = htmlFoot := rfl
  rw [htmlPieces, List.filterMap_append, List.filterMap_append, String.join_append,
    String.join_append, raw_htmlDocuments, raw_htmlItems, foot]
  rfl

/-- The marks of a page are those of the page with empty slots and one list item per change, so
pages with equally many changes have the same marks, whatever their texts. -/
theorem html_marks (view : Comparison) :
    marks view.html = marks (emptyPage view.changes.length) ∧
    ∀ other : Comparison, other.changes.length = view.changes.length →
      marks other.html = marks view.html := by
  -- Values may differ as they like: the raw text of a page is that of the page with empty slots.
  have marked (view : Comparison) : marks view.html = marks (emptyPage view.changes.length) := by
    rw [html, marks_render, raw_htmlPieces]
  refine ⟨marked view, ?_⟩
  intro other length
  rw [marked other, marked view, length]

/-- A script in every slot leaves the marks of a page as they are with plain words. -/
theorem html_marks_script :
    let script := "<script src=\"x\"></script> &lt;b&gt; \x7b\x7b\x7bafter\x7d\x7d\x7d"
    let hostile : Comparison :=
      ⟨script, script, script, script, 7, [⟨12, script, script, script⟩]⟩
    let plain : Comparison := ⟨"source", "output", "0a", "1b", 1, [⟨1, "", "word", "after"⟩]⟩
    hostile.changes.length = plain.changes.length ∧
      marks hostile.html = marks plain.html := by
  intro script hostile plain
  have length : hostile.changes.length = plain.changes.length := rfl
  exact ⟨length, (html_marks plain).2 hostile length⟩

end Comparison
end Hardening
