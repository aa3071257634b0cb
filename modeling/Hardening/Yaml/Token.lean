import Hardening.Yaml.Scalar

/-!
# Tokens

A text is cut into tokens that carry its structure: collections given by indentation get tokens for
their beginning and end. A simple key is only known for a key when the colon behind it is read, so
the place of each possible key is remembered and its token put in there later.
-/
namespace Hardening.Yaml

inductive Token where
  | version (major minor : Nat)
  | tagHandle (handle : String)
  | documentStart
  | documentEnd
  | blockSequence
  | blockMapping
  /-- The end of a collection given by indentation. -/
  | blockEnd
  | flowSequence
  | flowSequenceEnd
  | flowMapping
  | flowMappingEnd
  | blockEntry
  | flowEntry
  | key
  | value
  | alias (name : String)
  | anchor (name : String)
  | tag (handle suffix : String)
  | scalar (text : String) (plain : Bool)
  deriving Repr, DecidableEq

/-- A place where a simple key may have begun. -/
structure PossibleKey where
  /-- Number of tokens in front of it. -/
  position : Nat
  offset : Nat
  line : Nat
  column : Nat
  /-- Nothing but a key may stand there. -/
  required : Bool
  deriving Repr, DecidableEq

/-- The state of the scan. -/
structure Scanner where
  cursor : Cursor
  tokens : Array Token := #[]
  /-- Column of the innermost collection given by indentation; -1 outside of all. -/
  indent : Int := -1
  /-- Columns of the collections around it. -/
  outer : List Int := []
  keyAllowed : Bool := true
  /-- The possible key of the innermost pair of brackets. -/
  possible : Option PossibleKey := none
  /-- The possible keys outside of each pair of open brackets, the innermost first. -/
  outerKeys : List (Option PossibleKey) := []

namespace Scanner

/-- The scan is inside brackets. -/
def inFlow (s : Scanner) : Bool :=
  !s.outerKeys.isEmpty

def push (s : Scanner) (token : Token) : Scanner :=
  { s with tokens := s.tokens.push token }

def advance (s : Scanner) (count : Nat) : Scanner :=
  { s with cursor := s.cursor.skip count }

def allowKey (s : Scanner) (allowed : Bool) : Scanner :=
  { s with keyAllowed := allowed }

/-- Goes to the next token: over blanks, comments and line breaks. A byte order mark
may begin any line, and what follows it stands in the second column. Tabs do not count as blanks where
a simple key may begin by indentation. -/
def skipGaps (s : Scanner) : Option Scanner := do
  let flow := s.inFlow
  let (keyAllowed, cursor) ← s.cursor.iterate s.keyAllowed fun keyAllowed cursor =>
    match cursor.rest with
    | c :: _ =>
      -- Where a simple key may begin, a tab would be indentation.
      if c = ' ' || (c = '\t' && (flow || !keyAllowed)) || (c = '\ufeff' && cursor.column = 0) then
        some (.again keyAllowed cursor.next)
      else if c = '#' then some (.again keyAllowed (cursor.skipWhile (!isBreak ·)))
      else if isBreak c then some (.again (keyAllowed || !flow) cursor.readBreak.2)
      else some (.stop keyAllowed cursor)
    | [] => some (.stop keyAllowed cursor)
  return { s with keyAllowed, cursor }

/-- The longest simple key, in bytes with the blanks in front of its colon. -/
def keyLimit : Nat := 1024

/-- A simple key lies on one line and is not too long. -/
def PossibleKey.isStale (key : PossibleKey) (cursor : Cursor) : Bool :=
  key.line < cursor.line || key.offset + keyLimit < cursor.offset

/-- Forgets a possible key that has become too long; a required one must not. -/
def refreshKey (cursor : Cursor) : Option PossibleKey → Option (Option PossibleKey)
  | none => some none
  | some key =>
    if PossibleKey.isStale key cursor then
      if key.required then none else some none
    else
      some (some key)

def refreshKeys (s : Scanner) : Option Scanner := do
  return { s with
    possible := ← refreshKey s.cursor s.possible
    outerKeys := ← s.outerKeys.mapM (refreshKey s.cursor) }

/-- Forgets the possible key of the innermost brackets, unless it is required. -/
def dropKey (s : Scanner) : Option Scanner :=
  if s.possible.any (·.required) then none else some { s with possible := none }

/-- Remembers that a simple key may begin here. -/
def saveKey (s : Scanner) : Option Scanner := do
  if s.keyAllowed then
    let s ← s.dropKey
    return { s with
      possible := some {
        position := s.tokens.size
        offset := s.cursor.offset
        line := s.cursor.line
        column := s.cursor.column
        required := !s.inFlow && s.indent = s.cursor.column } }
  else
    return s

/-- Ends the collections that are indented by more than a column. -/
def unroll (s : Scanner) (column : Int) : Scanner :=
  if s.inFlow then s
  else
    let ended := (s.indent :: s.outer).takeWhile (column < ·)
    let left := (s.indent :: s.outer).dropWhile (column < ·)
    { s with
      tokens := s.tokens ++ Array.replicate ended.length Token.blockEnd
      indent := left.headD (-1)
      outer := left.tail }

/-- Begins a collection at a column, unless the innermost one has it already. Its token goes in
front of the token at the given position. -/
def roll (s : Scanner) (column position : Nat) (token : Token) : Scanner :=
  if s.inFlow || (column : Int) ≤ s.indent then s
  else { s with
    tokens := s.tokens.insertIdxIfInBounds position token
    indent := column
    outer := s.indent :: s.outer }

/-- Begins a collection at the cursor. -/
def rollHere (s : Scanner) (token : Token) : Scanner :=
  s.roll s.cursor.column s.tokens.size token

def flowStart (s : Scanner) (token : Token) : Option Scanner := do
  let s ← s.saveKey
  let s := { s with possible := none, outerKeys := s.possible :: s.outerKeys, keyAllowed := true }
  return (s.advance 1).push token

def flowEnd (s : Scanner) (token : Token) : Option Scanner := do
  let s ← s.dropKey
  let s := match s.outerKeys with
    | [] => s
    | key :: keys => { s with possible := key, outerKeys := keys }
  return ((s.allowKey false).advance 1).push token

def flowEntry (s : Scanner) : Option Scanner := do
  return (((← s.dropKey).allowKey true).advance 1).push .flowEntry

def blockEntry (s : Scanner) : Option Scanner := do
  if !s.inFlow && !s.keyAllowed then
    none
  else
    return (((← (s.rollHere .blockSequence).dropKey).allowKey true).advance 1).push .blockEntry

/-- A key that is marked by a question mark. -/
def markedKey (s : Scanner) : Option Scanner := do
  if !s.inFlow && !s.keyAllowed then
    none
  else
    return (((← (s.rollHere .blockMapping).dropKey).allowKey (!s.inFlow)).advance 1).push .key

/-- A colon ends the simple key in front of it, or stands for a value without one. -/
def value (s : Scanner) : Option Scanner :=
  match s.possible with
  | some key =>
    -- The key's own token goes in first, so that a mapping that begins here stands in front of it.
    let s := { s with tokens := s.tokens.insertIdxIfInBounds key.position Token.key }
    let s := s.roll key.column key.position .blockMapping
    some ((({ s with possible := none }.allowKey false).advance 1).push .value)
  | none =>
    if !s.inFlow && !s.keyAllowed then
      none
    else
      some ((((s.rollHere .blockMapping).allowKey (!s.inFlow)).advance 1).push .value)

/-- An alias or anchor, from its mark on. -/
def named (s : Scanner) (token : String → Token) : Option Scanner := do
  let s ← s.saveKey
  let (name, cursor) := s.cursor.next.span isNameChar
  let ends := match cursor.rest with
    | [] => true
    | c :: _ => isGap c || "?:,]\x7d%@\x60".toList.contains c
  if name = [] || !ends then
    none
  else
    return { s with keyAllowed := false, cursor }.push (token (String.ofList name))

/-- The characters of a tag that need no escape; commas and brackets only between `<` and `>`. -/
def isTagChar (verbatim : Bool) (c : Char) : Bool :=
  isNameChar c || ";/?:@&=+$.!~*'()".toList.contains c || (verbatim && ",[]".toList.contains c)

/-- Number of bytes of a character whose first byte is given. -/
def byteWidth (first : Nat) : Nat :=
  if first < 0x80 then 1
  else if 0xC0 ≤ first && first < 0xE0 then 2
  else if 0xE0 ≤ first && first < 0xF0 then 3
  else if 0xF0 ≤ first && first < 0xF8 then 4
  else 0

/-- A byte written as a percent sign and two digits. -/
def readByte : List Char → Option (Nat × List Char)
  | '%' :: a :: b :: rest => (Text.ofHex? [a, b]).map (·, rest)
  | _ => none

/-- Further bytes of a character. -/
def readTrailing : Nat → List Char → Option (List Nat × List Char)
  | 0, text => some ([], text)
  | count + 1, text => do
    let (byte, text) ← readByte text
    if byte < 0x80 || 0xC0 ≤ byte then
      none
    else
      let (bytes, text) ← readTrailing count text
      return (byte :: bytes, text)

/-- A character written by its bytes. Its length is the number of characters read. -/
def readEscapedChar (text : List Char) : Option (List Char) := do
  let (first, text) ← readByte text
  let width := byteWidth first
  if width = 0 then
    none
  else
    return (← readTrailing (width - 1) text).2

/-- The characters of a tag, escapes included. -/
def readTagText (verbatim : Bool) (cursor : Cursor) : Option (List Char × Cursor) :=
  cursor.iterate ([] : List Char) fun text cursor =>
    match cursor.rest with
    | '%' :: _ => do
      let rest ← readEscapedChar cursor.rest
      let length := cursor.rest.length - rest.length
      return .again (text ++ cursor.rest.take length) (cursor.skip length)
    | c :: _ =>
      if isTagChar verbatim c then some (.again (text ++ [c]) cursor.next)
      else some (.stop text cursor)
    | [] => some (.stop text cursor)

/-- A tag handle: exclamation mark, name, and an exclamation mark again if it is a handle. -/
def readHandle (cursor : Cursor) : Option (List Char × Cursor) :=
  match cursor.rest with
  | '!' :: _ =>
    let (name, cursor) := cursor.next.span isNameChar
    if cursor.rest.head? = some '!' then
      some ('!' :: name ++ ['!'], cursor.next)
    else
      some ('!' :: name, cursor)
  | _ => none

/-- The handle and suffix of a tag, from its mark on. -/
def readTag (cursor : Cursor) : Option ((List Char × List Char) × Cursor) := do
  match cursor.rest with
  | '!' :: '<' :: _ =>
    let (suffix, cursor) ← readTagText true (cursor.skip 2)
    if suffix = [] || cursor.rest.head? ≠ some '>' then
      none
    else
      return (([], suffix), cursor.next)
  | _ =>
    let (handle, cursor) ← readHandle cursor
    if handle.length ≥ 2 && handle.getLast? = some '!' then
      let (suffix, cursor) ← readTagText false cursor
      if suffix = [] then none else return ((handle, suffix), cursor)
    else
      let (more, cursor) ← readTagText false cursor
      let suffix := handle.drop 1 ++ more
      return (if suffix = [] then ([], ['!']) else (['!'], suffix), cursor)

def tag (s : Scanner) : Option Scanner := do
  let s ← s.saveKey
  let ((handle, suffix), cursor) ← readTag s.cursor
  if atGap cursor.rest || (s.inFlow && cursor.rest.head? = some ',') then
    return { s with keyAllowed := false, cursor }.push
      (.tag (String.ofList handle) (String.ofList suffix))
  else
    none

def blockScalar (s : Scanner) (folded : Bool) : Option Scanner := do
  let s ← s.dropKey
  let (text, cursor) ← Scalar.readBlock folded s.indent s.cursor.next
  return { s with keyAllowed := true, cursor }.push (.scalar (String.ofList text) false)

def quotedScalar (s : Scanner) (quote : Char) : Option Scanner := do
  let s ← s.saveKey
  let (text, cursor) ← Scalar.readQuoted quote s.cursor.next
  return { s with keyAllowed := false, cursor }.push (.scalar (String.ofList text) false)

def plainScalar (s : Scanner) : Option Scanner := do
  let s ← s.saveKey
  let ((text, fold), cursor) ← Scalar.readPlain s.inFlow (s.indent + 1).toNat s.cursor
  return { s with keyAllowed := fold.broken, cursor }.push (.scalar (String.ofList text) true)

/-- A number of a version, with at most nine digits. -/
def readVersionPart (cursor : Cursor) : Option (Nat × Cursor) :=
  let (digits, cursor) := cursor.span Char.isDigit
  if digits = [] || 9 < digits.length then none else some (Text.ofDigits digits, cursor)

/-- What a directive says, from behind its name on. -/
def readDirective (name : List Char) (cursor : Cursor) : Option (Token × Cursor) := do
  if name = "YAML".toList then
    let (major, cursor) ← readVersionPart (cursor.skipWhile isSpace)
    if cursor.rest.head? ≠ some '.' then
      none
    else
      let (minor, cursor) ← readVersionPart cursor.next
      return (.version major minor, cursor)
  else if name = "TAG".toList then
    let (handle, cursor) ← readHandle (cursor.skipWhile isSpace)
    if (handle ≠ ['!'] && handle.getLast? ≠ some '!') || !cursor.rest.head?.any isSpace then
      none
    else
      let (expansion, cursor) ← readTagText true (cursor.skipWhile isSpace)
      if expansion = [] || !atGap cursor.rest then
        none
      else
        return (.tagHandle (String.ofList handle), cursor)
  else
    none

def directive (s : Scanner) : Option Scanner := do
  let s ← (s.unroll (-1)).dropKey
  let (name, cursor) := s.cursor.next.span isNameChar
  if name = [] || !atGap cursor.rest then
    none
  else
    let (token, cursor) ← readDirective name cursor
    let cursor ← Scalar.finishLine cursor
    return { s with keyAllowed := false, cursor }.push token

def documentMark (s : Scanner) (token : Token) : Option Scanner := do
  let s ← (s.unroll (-1)).dropKey
  return ((s.allowKey false).advance 3).push token

/-- A plain scalar may begin with the character, given the text after it. -/
def startsPlain (inFlow : Bool) (c : Char) (rest : List Char) : Bool :=
  (!isGap c && !"-?:,[]\x7b\x7d#&*!|>'\"%@\x60".toList.contains c) ||
    (c = '-' && !rest.head?.any isSpace) ||
    (!inFlow && (c = '?' || c = ':') && !atGap rest)

/-- Reads the token that begins with the given character. -/
def readToken (s : Scanner) (c : Char) (rest : List Char) : Option Scanner :=
  if s.cursor.column = 0 && c = '%' then s.directive
  else if s.cursor.atDocumentMark then
    s.documentMark (if c = '-' then .documentStart else .documentEnd)
  else
    match c with
    | '[' => s.flowStart .flowSequence
    | '\x7b' => s.flowStart .flowMapping
    | ']' => s.flowEnd .flowSequenceEnd
    | '\x7d' => s.flowEnd .flowMappingEnd
    | ',' => s.flowEntry
    | '*' => s.named .alias
    | '&' => s.named .anchor
    | '!' => s.tag
    | '\'' | '"' => s.quotedScalar c
    | _ =>
      if c = '-' && atGap rest then s.blockEntry
      else if c = '?' && (s.inFlow || atGap rest) then s.markedKey
      else if c = ':' && (s.inFlow || atGap rest) then s.value
      else if (c = '|' || c = '>') && !s.inFlow then s.blockScalar (c = '>')
      else if startsPlain s.inFlow c rest then s.plainScalar
      else none

/-- Ends all collections at the end of the text. -/
def finish (s : Scanner) : Option (List Token) := do
  return (← (s.unroll (-1)).dropKey).tokens.toList

/-- Reads tokens to the end of the text. Every token takes a character at least. -/
def scan (s : Scanner) : Option (List Token) :=
  match s.skipGaps.bind refreshKeys with
  | none => none
  | some ready =>
    -- A token further left ends the collections that it does not belong to.
    let ready := ready.unroll ready.cursor.column
    match ready.cursor.rest with
    | [] => ready.finish
    | c :: rest =>
      match ready.readToken c rest with
      | none => none
      | some next =>
        if next.cursor.rest.length < s.cursor.rest.length then scan next else none
termination_by s.cursor.rest.length

end Scanner

/-- The tokens of a text. -/
def Token.ofText? (text : String) : Option (List Token) :=
  if text.toList.all isAllowed then
    Scanner.scan { cursor := { rest := text.toList } }
  else
    none

end Hardening.Yaml
