import Hardening.Proofs.DecimalDigits
import Hardening.Proofs.FloatingGrammar
import Hardening.Proofs.PageMarkup
import Mathlib.Data.List.Forall2

/-!
# What a page tells

Escaping loses nothing, and each value ends where the page goes on with a character that the value
cannot have. So a page can be cut at its own text, value by value and item by item, and it determines
everything that is put into it.
-/
namespace Hardening

namespace Text.Piece

/-- Each value is followed by text of the page that begins with a character the value is written
without. -/
inductive Delimited : List Piece → Prop
  | nil : Delimited []
  | fixed (text : String) {pieces : List Piece} (page : Delimited pieces) :
    Delimited (fixed text :: pieces)
  | value (stop : Char) {value text : String} {pieces : List Piece}
    (stops : text.toList.head? = some stop) (absent : stop ∉ (escape value).toList)
    (page : Delimited (.fixed text :: pieces)) : Delimited (escaped value :: .fixed text :: pieces)

theorem value_cancel {value other text : String} {stop : Char}
    (stops : text.toList.head? = some stop) (absent : stop ∉ (escape value).toList)
    (missing : stop ∉ (escape other).toList) {rest more : String}
    (same : escape value ++ (text ++ rest) = escape other ++ (text ++ more)) :
    value = other ∧ rest = more := by
  -- Both values reach up to the first stop.
  have span (value rest : String) (absent : stop ∉ (escape value).toList) :
      (escape value ++ (text ++ rest)).toList.takeWhile (· ≠ stop) = (escape value).toList := by
    have inside : ∀ c ∈ (escape value).toList, decide (c ≠ stop) = true := by
      intro c member
      simp only [decide_eq_true_eq]
      rintro rfl
      exact absent member
    have outside : ∀ c ∈ (text ++ rest).toList.head?, decide (c ≠ stop) = false := by
      rw [String.toList_append, List.head?_append, stops]
      simp
    rw [String.toList_append]
    exact (span_append inside outside).1
  have fronts := span value rest absent
  rw [same, span other more missing] at fronts
  have equal : value = other := escape_inj (String.toList_inj.mp fronts.symm)
  subst equal
  exact ⟨rfl, by simpa using same⟩

/-- Two pages with the same text of their own and values in the same places are cut in the same way,
whatever follows them. -/
theorem render_cancel {pieces others rest more : List Piece} (page : Delimited pieces)
    (another : Delimited others) (frame : pieces.map raw? = others.map raw?)
    (same : render (pieces ++ rest) = render (others ++ more)) :
    pieces = others ∧ render rest = render more := by
  -- By induction on the first page; the frame makes the second one a page of the same shape.
  induction page generalizing others with
  | nil =>
    cases another with
    | nil => exact ⟨rfl, same⟩
    | fixed => cases frame
    | value => cases frame
  | fixed text page ih =>
    cases another with
    | nil => cases frame
    | value => cases frame
    | fixed next another =>
      obtain ⟨own, frames⟩ := List.cons.inj frame
      obtain rfl : text = next := Option.some.inj own
      rw [List.cons_append, List.cons_append, render_cons, render_cons] at same
      obtain ⟨rfl, behind⟩ := ih another frames ((String.append_right_inj text).mp same)
      exact ⟨rfl, behind⟩
  | @value stop value text pieces stops absent page ih =>
    cases another with
    | nil => cases frame
    | fixed => cases frame
    | @value halt other next others halts missing another =>
      obtain ⟨-, frames⟩ := List.cons.inj frame
      obtain rfl : text = next := Option.some.inj (List.cons.inj frames).1
      obtain rfl : stop = halt := Option.some.inj (stops.symm.trans halts)
      simp only [List.cons_append, render_cons, Piece.text] at same
      obtain ⟨rfl, behind⟩ := value_cancel stops absent missing same
      -- Behind the values both pages go on with the text that ended them.
      have again : render (.fixed text :: pieces ++ rest) =
          render (.fixed text :: others ++ more) := by
        simp only [List.cons_append, render_cons, Piece.text, behind]
      obtain ⟨pages, behind⟩ := ih another frames again
      exact ⟨congrArg _ pages, behind⟩

end Text.Piece

namespace Comparison

open Text Text.Piece

private theorem isDigit_entityChars {c : Char} (entity : c ∈ entityChars) : c.isDigit = false := by
  have all : entityChars.all (!·.isDigit) = true := by decide
  exact (Bool.not_eq_true' _).mp (List.all_eq_true.mp all c entity)

theorem not_mem_number {stop : Char} (other : stop.isDigit = false) (n : Nat) :
    stop ∉ (escape (toString n)).toList := by
  have digit {c : Char} (member : c ∈ (toString n).toList) : c.isDigit = true := by
    rw [toString_eq, String.toList_ofList] at member
    exact isDigit_digits member
  have plain : ∀ c ∈ (toString n).toList, c ∉ entityChars := by
    intro c member entity
    exact Bool.noConfusion ((digit member).symm.trans (isDigit_entityChars entity))
  -- Digits are written as they are, so no other character ends up among them.
  rw [escape_of_plain plain]
  exact fun member => Bool.noConfusion ((digit member).symm.trans other)

theorem tag_not_mem (value : String) : '<' ∉ (escape value).toList := by
  intro member
  have mark : isMark '<' = true := by decide
  exact Bool.noConfusion (mark.symm.trans (isMark_escape member))

theorem delimited_htmlItem (change : ShownChange) : Delimited (htmlItem change) := by
  refine .fixed _ (.value ':' rfl (not_mem_number rfl _) ?_)
  refine .fixed _ (.value '<' rfl (tag_not_mem _) ?_)
  exact .fixed _ (.value '<' rfl (tag_not_mem _) (.fixed _ .nil))

theorem delimited_htmlDocuments (view : Comparison) : Delimited view.htmlDocuments := by
  refine .fixed _ (.fixed _ (.value '<' rfl (tag_not_mem _) ?_))
  refine .fixed _ (.value '<' rfl (tag_not_mem _) ?_)
  refine .fixed _ (.fixed _ (.value '<' rfl (tag_not_mem _) ?_))
  refine .fixed _ (.value '<' rfl (tag_not_mem _) ?_)
  exact .fixed _ (.fixed _ (.value ')' rfl (not_mem_number rfl _) (.fixed _ .nil)))

theorem foot_ne_items (change : ShownChange) (changes : List ShownChange) :
    render [fixed htmlFoot] ≠
      render ((change :: changes).flatMap htmlItem ++ [fixed htmlFoot]) := by
  intro same
  rw [render_cons, List.flatMap_cons, htmlItem, List.cons_append, List.cons_append,
    render_cons] at same
  -- After four blanks the foot has a tag and an item has more blanks.
  have begins : leads "      <li>line " (htmlFoot ++ "") = true :=
    (leads_iff _ _).mpr ⟨_, same⟩
  exact absurd begins (by decide)

theorem htmlItems_cancel {changes others : List ShownChange}
    (same : render (changes.flatMap htmlItem ++ [fixed htmlFoot]) =
      render (others.flatMap htmlItem ++ [fixed htmlFoot])) :
    changes.map htmlItem = others.map htmlItem := by
  -- The foot tells where the shorter list ends, so both lists have equally many items.
  induction changes generalizing others with
  | nil =>
    cases others with
    | nil => rfl
    | cons other others => exact absurd same (foot_ne_items other others)
  | cons change changes ih =>
    cases others with
    | nil => exact absurd same.symm (foot_ne_items change changes)
    | cons other others =>
      rw [List.flatMap_cons, List.flatMap_cons, List.append_assoc, List.append_assoc] at same
      obtain ⟨item, rest⟩ :=
        render_cancel (delimited_htmlItem change) (delimited_htmlItem other) rfl same
      rw [List.map_cons, List.map_cons, item, ih rest]

theorem htmlItem_eq_iff (change other : ShownChange) : htmlItem change = htmlItem other ↔
    change.line = other.line ∧ change.description = other.description ∧
      change.after = other.after := by
  constructor
  · intro same
    simp only [htmlItem, number, List.cons.injEq, escaped.injEq, true_and, and_true] at same
    obtain ⟨line, description, after⟩ := same
    exact ⟨toString_inj line, description, after⟩
  · rintro ⟨line, description, after⟩
    simp only [htmlItem, line, description, after]

theorem htmlDocuments_eq_iff (view other : Comparison) :
    view.htmlDocuments = other.htmlDocuments ↔
      view.source = other.source ∧ view.hardened = other.hardened ∧
      view.sourceDigest = other.sourceDigest ∧ view.hardenedDigest = other.hardenedDigest ∧
      view.changeCount = other.changeCount := by
  constructor
  · intro same
    simp only [htmlDocuments, number, List.cons.injEq, escaped.injEq, true_and, and_true] at same
    obtain ⟨sourceDigest, source, hardenedDigest, hardened, changeCount⟩ := same
    exact ⟨source, hardened, sourceDigest, hardenedDigest, toString_inj changeCount⟩
  · rintro ⟨source, hardened, sourceDigest, hardenedDigest, changeCount⟩
    simp only [htmlDocuments, source, hardened, sourceDigest, hardenedDigest, changeCount]

/-- Two comparisons have the same page exactly when they agree in all that a page shows: the two
texts, their digests, the number of changes and, change by change, the line, the description and the
new text. -/
theorem html_eq_iff (view other : Comparison) :
    view.html = other.html ↔
      view.source = other.source ∧ view.hardened = other.hardened ∧
      view.sourceDigest = other.sourceDigest ∧ view.hardenedDigest = other.hardenedDigest ∧
      view.changeCount = other.changeCount ∧
      List.Forall₂ (fun change shown => change.line = shown.line ∧
        change.description = shown.description ∧ change.after = shown.after)
        view.changes other.changes := by
  have items : view.changes.map htmlItem = other.changes.map htmlItem ↔
      List.Forall₂ (fun change shown => change.line = shown.line ∧
        change.description = shown.description ∧ change.after = shown.after)
        view.changes other.changes := by
    rw [← List.forall₂_eq_eq_eq, List.forall₂_map_left_iff, List.forall₂_map_right_iff]
    simp only [htmlItem_eq_iff]
  rw [← items]
  constructor
  · intro same
    rw [html, html, htmlPieces, htmlPieces, List.append_assoc, List.append_assoc] at same
    obtain ⟨documents, rest⟩ :=
      render_cancel (delimited_htmlDocuments view) (delimited_htmlDocuments other) rfl same
    have shown := (htmlDocuments_eq_iff view other).mp documents
    exact ⟨shown.1, shown.2.1, shown.2.2.1, shown.2.2.2.1, shown.2.2.2.2, htmlItems_cancel rest⟩
  · rintro ⟨source, hardened, sourceDigest, hardenedDigest, changeCount, changes⟩
    have documents := (htmlDocuments_eq_iff view other).mpr
      ⟨source, hardened, sourceDigest, hardenedDigest, changeCount⟩
    rw [html, html, htmlPieces, htmlPieces, documents, List.flatMap_def, List.flatMap_def, changes]

end Comparison
end Hardening
