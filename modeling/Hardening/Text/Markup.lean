/-!
# Markup

Pages are lists of pieces: fixed text of the page, values shown as they are, and values shown with
every character that could be taken for markup written as an entity.
-/
namespace Hardening.Text

/-- The entity for a character, if it needs one. -/
def entity? : Char → Option String
  | '<' => some "&lt;"
  | '>' => some "&gt;"
  | '"' => some "&quot;"
  | '&' => some "&amp;"
  | '\'' => some "&#x27;"
  | '\x60' => some "&#x60;"
  | '=' => some "&#x3D;"
  | _ => none

def escapeChar (c : Char) : List Char :=
  match entity? c with
  | some entity => entity.toList
  | none => [c]

/-- A text in which no character is markup. -/
def escape (text : String) : String :=
  String.ofList (text.toList.flatMap escapeChar)

/-- A piece of a page. -/
inductive Piece where
  /-- Text of the page itself. -/
  | fixed (text : String)
  /-- A value with entities for markup. -/
  | escaped (value : String)
  /-- A value as it is. -/
  | verbatim (value : String)
  deriving Repr, DecidableEq

namespace Piece

def text : Piece → String
  | fixed text => text
  | escaped value => escape value
  | verbatim value => value

/-- The text of a page. -/
def render (pieces : List Piece) : String :=
  String.join (pieces.map text)

end Piece
end Hardening.Text
