/-!
# Positions in a YAML text

The characters that YAML treats alike, and a cursor that counts bytes, lines and columns while a text
is read. Columns are counted in characters. A carriage return with the line feed after it is one line break.
-/
namespace Hardening.Yaml

/-- The characters that may stand in a text. -/
def isAllowed (c : Char) : Bool :=
  let n := c.toNat
  n = 0x09 || n = 0x0A || n = 0x0D || (0x20 ≤ n && n ≤ 0x7E) || n = 0x85 ||
    (0xA0 ≤ n && n ≤ 0xD7FF) || (0xE000 ≤ n && n ≤ 0xFFFD) || 0x10000 ≤ n

def isBreak (c : Char) : Bool :=
  c = '\n' || c = '\r' || c = '\u0085' || c = '\u2028' || c = '\u2029'

/-- A space or a tab. -/
def isSpace (c : Char) : Bool :=
  c = ' ' || c = '\t'

def isGap (c : Char) : Bool :=
  isSpace c || isBreak c

/-- The characters of anchor names and tag handles. -/
def isNameChar (c : Char) : Bool :=
  c.isAlphanum || c = '_' || c = '-'

/-- The text is at its end or goes on with a gap. -/
def atGap : List Char → Bool
  | [] => true
  | c :: _ => isGap c

/-- Number of bytes that encode a text. -/
def byteCount (text : List Char) : Nat :=
  text.foldl (fun total c => total + c.utf8Size) 0

/-- A place in a text. -/
structure Cursor where
  rest : List Char
  /-- Number of bytes in front. -/
  offset : Nat := 0
  line : Nat := 0
  column : Nat := 0
  deriving Repr, DecidableEq

namespace Cursor

/-- Goes on by characters of the same line. -/
def skip (cursor : Cursor) (count : Nat) : Cursor :=
  { cursor with
    rest := cursor.rest.drop count
    offset := cursor.offset + byteCount (cursor.rest.take count)
    column := cursor.column + count }

/-- Goes on by one character of the same line. -/
def next (cursor : Cursor) : Cursor :=
  cursor.skip 1

/-- Reads characters of the same line as long as they satisfy a test. -/
def span (cursor : Cursor) (test : Char → Bool) : List Char × Cursor :=
  let taken := cursor.rest.takeWhile test
  (taken, cursor.skip taken.length)

def skipWhile (cursor : Cursor) (test : Char → Bool) : Cursor :=
  (cursor.span test).2

/-- Starts a new line after a break of the given number of characters. -/
def newLine (cursor : Cursor) (count : Nat) : Cursor where
  rest := cursor.rest.drop count
  offset := cursor.offset + byteCount (cursor.rest.take count)
  line := cursor.line + 1
  column := 0

/-- Reads a line break, if there is one. All breaks count as line feeds except the separators of
lines and paragraphs, which are kept. -/
def readBreak (cursor : Cursor) : List Char × Cursor :=
  match cursor.rest with
  | '\r' :: '\n' :: _ => (['\n'], cursor.newLine 2)
  | c :: _ =>
    if c = '\u2028' || c = '\u2029' then ([c], cursor.newLine 1)
    else if isBreak c then (['\n'], cursor.newLine 1)
    else ([], cursor)
  | [] => ([], cursor)

/-- The line begins with the mark of a document start or end. -/
def atDocumentMark (cursor : Cursor) : Bool :=
  cursor.column = 0 &&
    match cursor.rest with
    | '-' :: '-' :: '-' :: rest | '.' :: '.' :: '.' :: rest => atGap rest
    | _ => false

/-- What a repeated step does next. -/
inductive Turn (σ : Type) where
  | again (state : σ) (cursor : Cursor)
  | stop (state : σ) (cursor : Cursor)

/-- Repeats a step until it stops. A step that goes on without reading anything fails, so the length
of the text bounds the repetitions. -/
def iterate (cursor : Cursor) (state : σ) (step : σ → Cursor → Option (Turn σ)) :
    Option (σ × Cursor) :=
  match step state cursor with
  | none => none
  | some (.stop state last) => some (state, last)
  | some (.again state further) =>
    if further.rest.length < cursor.rest.length then iterate further state step else none
termination_by cursor.rest.length

end Cursor
end Hardening.Yaml
