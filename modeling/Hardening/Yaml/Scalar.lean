import Hardening.Text.Digits
import Hardening.Yaml.Cursor

/-!
# Scalars

The five notations for texts: plain, between single or double quotes, and as literal or folded
blocks. In the first three a line break between words counts as one space and further breaks are
kept; literal blocks keep every break, folded ones only those around indented or empty lines.
-/
namespace Hardening.Yaml

/-- The blanks and line breaks between two words. -/
structure Fold where
  /-- Blanks of the line itself. -/
  blanks : List Char := []
  /-- The first line break. -/
  first : List Char := []
  /-- The line breaks after it. -/
  more : List Char := []
  /-- There is a line break, written or escaped. -/
  broken : Bool := false
  deriving Repr, DecidableEq

namespace Fold

/-- What stands for the gap in the text. -/
def text (fold : Fold) : List Char :=
  if !fold.broken then fold.blanks
  else if fold.first = ['\n'] then (if fold.more = [] then [' '] else fold.more)
  else fold.first ++ fold.more

/-- Reads a gap. Tabs left of the given column are refused at the beginning of a line. -/
def read (margin : Nat) (fold : Fold) (cursor : Cursor) : Option (Fold × Cursor) :=
  cursor.iterate fold fun fold cursor =>
    match cursor.rest with
    | c :: _ =>
      if isSpace c then
        if fold.broken && cursor.column < margin && c = '\t' then none
        else if fold.broken then some (.again fold cursor.next)
        else some (.again { fold with blanks := fold.blanks ++ [c] } cursor.next)
      else if isBreak c then
        let (lineBreak, next) := cursor.readBreak
        if fold.broken then some (.again { fold with more := fold.more ++ lineBreak } next)
        else some (.again { fold with blanks := [], first := lineBreak, broken := true } next)
      else
        some (.stop fold cursor)
    | [] => some (.stop fold cursor)

end Fold

namespace Scalar

/-- A mark that ends a plain scalar inside brackets. -/
def isFlowMark (c : Char) : Bool :=
  c = ',' || c = '[' || c = ']' || c = '\x7b' || c = '\x7d'

/-- The characters of a plain scalar up to a gap or the end of the scalar. Inside brackets a colon
may not stand right before a bracket, comma or question mark. -/
def plainWord (inFlow : Bool) : List Char → Option (List Char)
  | [] => some []
  | c :: rest =>
    if isGap c then some []
    else if inFlow && c = ':' && rest.head?.any (fun d => isFlowMark d || d = '?') then none
    else if (c = ':' && atGap rest) || (inFlow && isFlowMark c) then some []
    else (plainWord inFlow rest).map (c :: ·)

/-- Reads a plain scalar whose further lines have to begin at the margin at least. The fold in the
result is the gap behind the scalar. -/
def readPlain (inFlow : Bool) (margin : Nat) (cursor : Cursor) :
    Option ((List Char × Fold) × Cursor) :=
  cursor.iterate (([] : List Char), ({} : Fold)) fun (text, fold) cursor =>
    if cursor.atDocumentMark || cursor.rest.head? = some '#' then
      some (.stop (text, fold) cursor)
    else do
      let word ← plainWord inFlow cursor.rest
      -- A gap belongs to the scalar only if a word follows it.
      let (text, fold) := if word = [] then (text, fold) else (text ++ fold.text ++ word, {})
      let next := cursor.skip word.length
      if next.rest = [] || !atGap next.rest then
        return .stop (text, fold) next
      let (fold, next) ← fold.read margin next
      if !inFlow && next.column < margin then
        return .stop (text, fold) next
      return .again (text, fold) next

/-- A piece of a quoted scalar: its text, the number of characters that it takes, and whether it
ends in an escaped line break. -/
structure Chunk where
  text : List Char := []
  length : Nat := 0
  escapedBreak : Bool := false
  deriving Repr, DecidableEq

def Chunk.push (chunk : Chunk) (c : Char) (length : Nat) : Chunk :=
  { chunk with text := c :: chunk.text, length := chunk.length + length }

/-- The characters between single quotes up to a gap or the closing quote; a quote inside is written
twice. -/
def singleChunk : List Char → Chunk
  | '\'' :: '\'' :: rest => (singleChunk rest).push '\'' 2
  | [] => {}
  | c :: rest => if c = '\'' || isGap c then {} else (singleChunk rest).push c 1

/-- The character of a numeric escape. -/
def ofCode? (digits : List Char) : Option Char := do
  let code ← Text.ofHex? digits
  if (0xD800 ≤ code && code ≤ 0xDFFF) || 0x10FFFF < code then none else some (Char.ofNat code)

/-- A numeric escape with the given number of digits. -/
def readCode (width : Nat) (text : List Char) : Option (Char × Nat) :=
  if (text.take width).length = width then
    (ofCode? (text.take width)).map (·, width + 1)
  else
    none

/-- The character that an escape stands for and its length, the backslash aside. -/
def readEscape : List Char → Option (Char × Nat)
  | '0' :: _ => some ('\x00', 1)
  | 'a' :: _ => some ('\x07', 1)
  | 'b' :: _ => some ('\x08', 1)
  | 't' :: _ | '\t' :: _ => some ('\t', 1)
  | 'n' :: _ => some ('\n', 1)
  | 'v' :: _ => some ('\x0b', 1)
  | 'f' :: _ => some ('\x0c', 1)
  | 'r' :: _ => some ('\r', 1)
  | 'e' :: _ => some ('\x1b', 1)
  | ' ' :: _ => some (' ', 1)
  | '"' :: _ => some ('"', 1)
  | '/' :: _ => some ('/', 1)
  | '\\' :: _ => some ('\\', 1)
  | 'N' :: _ => some ('\u0085', 1)
  | '_' :: _ => some ('\u00a0', 1)
  | 'L' :: _ => some ('\u2028', 1)
  | 'P' :: _ => some ('\u2029', 1)
  | 'x' :: rest => readCode 2 rest
  | 'u' :: rest => readCode 4 rest
  | 'U' :: rest => readCode 8 rest
  | _ => none

/-- The characters between double quotes up to a gap, an escaped line break or the closing quote. -/
def doubleChunk (text : List Char) : Option Chunk :=
  match text with
  | [] => some {}
  | '\\' :: rest =>
    if rest ≠ [] && isBreak (rest.headD ' ') then
      some { length := 1, escapedBreak := true }
    else
      match readEscape rest with
      | some (c, length) => (doubleChunk (rest.drop length)).map (·.push c (length + 1))
      | none => none
  | c :: rest =>
    if c = '"' || isGap c then some {} else (doubleChunk rest).map (·.push c 1)
termination_by text.length
decreasing_by
  · rw [List.length_drop, List.length_cons]
    omega
  · exact Nat.lt_succ_self _

/-- Reads a quoted scalar from behind its opening quote. -/
def readQuoted (quote : Char) (cursor : Cursor) : Option (List Char × Cursor) :=
  cursor.iterate ([] : List Char) fun text cursor =>
    if cursor.atDocumentMark || cursor.rest = [] then none
    else do
      let chunk ← if quote = '"' then doubleChunk cursor.rest else some (singleChunk cursor.rest)
      let text := text ++ chunk.text
      let next := cursor.skip chunk.length
      if !chunk.escapedBreak && next.rest.head? = some quote then
        return .stop text next.next
      let next := if chunk.escapedBreak then next.readBreak.2 else next
      -- After an escaped break the blanks of the next line vanish, as behind any break.
      let (fold, next) ← ({ broken := chunk.escapedBreak } : Fold).read 0 next
      return .again (text ++ fold.text) next

/-- What happens to the line breaks at the end of a block scalar. -/
inductive Chomping where
  | strip
  | clip
  | keep
  deriving Repr, DecidableEq

/-- The signs after the mark of a block scalar: chomping and a relative indentation, zero if there
is none, in either order. -/
def readHeader (cursor : Cursor) : Option ((Chomping × Nat) × Cursor) :=
  match cursor.rest with
  | '+' :: rest => indentation .keep rest cursor.next
  | '-' :: rest => indentation .strip rest cursor.next
  | c :: rest =>
    if c.isDigit then
      if c = '0' then none
      else
        let width := Text.ofDigits [c]
        match rest with
        | '+' :: _ => some ((.keep, width), cursor.skip 2)
        | '-' :: _ => some ((.strip, width), cursor.skip 2)
        | _ => some ((.clip, width), cursor.next)
    else
      some ((.clip, 0), cursor)
  | [] => some ((.clip, 0), cursor)
where
  indentation (chomping : Chomping) (rest : List Char) (cursor : Cursor) :
      Option ((Chomping × Nat) × Cursor) :=
    match rest with
    | c :: _ =>
      if c = '0' then none
      else if c.isDigit then some ((chomping, Text.ofDigits [c]), cursor.next)
      else some ((chomping, 0), cursor)
    | [] => some ((chomping, 0), cursor)

/-- Goes over blanks and a comment to the end of the line, where a line break is read. -/
def finishLine (cursor : Cursor) : Option Cursor :=
  let cursor := cursor.skipWhile isSpace
  let cursor := if cursor.rest.head? = some '#' then cursor.skipWhile (!isBreak ·) else cursor
  match cursor.rest with
  | [] => some cursor
  | c :: _ => if isBreak c then some cursor.readBreak.2 else none

/-- Reads empty lines and the indentation after them. An indentation of zero is not known yet; the
deepest line then settles it, with the given one as the least. -/
def readIndentation (least indent : Nat) (cursor : Cursor) :
    Option ((Nat × List Char) × Cursor) := do
  let ((deepest, breaks), cursor) ←
    cursor.iterate (0, ([] : List Char)) fun (deepest, breaks) cursor =>
      let spaces := cursor.rest.takeWhile (· = ' ')
      let count :=
        if indent = 0 then spaces.length else min spaces.length (indent - cursor.column)
      let cursor := cursor.skip count
      let deepest := max deepest cursor.column
      match cursor.rest with
      | c :: _ =>
        if (indent = 0 || cursor.column < indent) && c = '\t' then none
        else if isBreak c then
          let (lineBreak, next) := cursor.readBreak
          some (.again (deepest, breaks ++ lineBreak) next)
        else some (.stop (deepest, breaks) cursor)
      | [] => some (.stop (deepest, breaks) cursor)
  return ((if indent = 0 then max deepest (max least 1) else indent, breaks), cursor)

/-- A block scalar while it is read: the text so far, the break behind its last line, the breaks of
the empty lines after that, and whether the last line began with a blank. -/
structure Block where
  text : List Char := []
  lastBreak : List Char := []
  emptyLines : List Char := []
  indentedLine : Bool := false
  deriving Repr, DecidableEq

/-- Adds the breaks in front of a line. In a folded block a single break between two lines without
indentation becomes a space, and of several the first one is left out. -/
def Block.join (block : Block) (folded : Bool) (indentedNext : Bool) : List Char :=
  if folded && block.lastBreak.head? = some '\n' && !block.indentedLine && !indentedNext then
    block.text ++ (if block.emptyLines = [] then [' '] else []) ++ block.emptyLines
  else
    block.text ++ block.lastBreak ++ block.emptyLines

/-- Reads a block scalar from behind its mark, inside a collection of the given indentation. -/
def readBlock (folded : Bool) (parent : Int) (cursor : Cursor) : Option (List Char × Cursor) := do
  let ((chomping, increment), cursor) ← readHeader cursor
  let cursor ← finishLine cursor
  let indent := if increment = 0 then 0 else parent.toNat + increment
  let ((indent, breaks), cursor) ← readIndentation (parent + 1).toNat indent cursor
  let (block, cursor) ←
    cursor.iterate ({ emptyLines := breaks } : Block) fun block cursor =>
      match cursor.rest with
      | c :: _ =>
        if cursor.column = indent then do
          let (line, next) := cursor.span (!isBreak ·)
          let (lastBreak, next) := next.readBreak
          let ((_, emptyLines), next) ← readIndentation 0 indent next
          return .again {
            text := block.join folded (isSpace c) ++ line
            lastBreak, emptyLines
            indentedLine := isSpace c } next
        else
          some (.stop block cursor)
      | [] => some (.stop block cursor)
  let ending := match chomping with
    | .strip => []
    | .clip => block.lastBreak
    | .keep => block.lastBreak ++ block.emptyLines
  return (block.text ++ ending, cursor)

end Scalar
end Hardening.Yaml
