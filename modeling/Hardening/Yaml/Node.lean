import Hardening.Yaml.Token

/-!
# Nodes

The tokens of a text make up at most one document, a tree of scalars, sequences and mappings. Tags
are checked for known handles and then left aside. An alias refers to an anchor by number, so a node
may refer to one that it is part of. Aliases are followed while a value is read, and how often that
may happen is bounded by the size of the document.
-/
namespace Hardening.Yaml

inductive Node where
  | scalar (text : String) (plain : Bool)
  | sequence (items : List Node)
  | mapping (entries : List (Node × Node))
  | alias (anchor : Nat)
  deriving Repr

namespace Node

/-- What stands where a node is left out. -/
def absent : Node :=
  .scalar "" true

/-- An empty scalar without quotes stands for an empty collection too. -/
def isAbsent : Node → Bool
  | .scalar "" true => true
  | _ => false

mutual

/-- The size of a node: collections count twice, for their beginning and their end. -/
def events : Node → Nat
  | .scalar _ _ | .alias _ => 1
  | .sequence items => eventsOfItems items + 2
  | .mapping entries => eventsOfEntries entries + 2

def eventsOfItems : List Node → Nat
  | [] => 0
  | item :: items => events item + eventsOfItems items

def eventsOfEntries : List (Node × Node) → Nat
  | [] => 0
  | entry :: entries => events entry.1 + events entry.2 + eventsOfEntries entries

end

end Node

/-- A document with the nodes that its anchors name. -/
structure Document where
  /-- The content; none in a text without any. -/
  root : Option Node
  /-- The serial number of the node behind each anchor number, the latest first. -/
  owners : List (Nat × Nat) := []
  /-- Anchored nodes by serial number. -/
  nodes : List (Nat × Node) := []

/-- Reading values, with the number of aliases that may still be followed as state. -/
abbrev Loading := StateT Nat Option

namespace Document

/-- How many aliases may be followed while a document is read. -/
def maxJumps (document : Document) : Nat :=
  100 * document.root.elim 1 Node.events

/-- The node itself, or the anchored node that an alias refers to. -/
def resolve (document : Document) : Node → Loading Node
  | .alias anchor => do
    match ← get with
    | 0 => failure
    | left + 1 =>
      set left
      document.nodes.lookup (← document.owners.lookup anchor)
  | node => return node

end Document

/-- What is left to read, and the anchors and tag handles known so far. -/
structure Reading where
  tokens : List Token
  handles : List String := ["!", "!!"]
  /-- Anchor names with their numbers, the latest first. -/
  names : List (String × Nat) := []
  serial : Nat := 0
  owners : List (Nat × Nat) := []
  nodes : List (Nat × Node) := []

namespace Reading

/-- Passes a number of tokens. -/
def pass (reading : Reading) (count : Nat) : Reading :=
  { reading with tokens := reading.tokens.drop count }

/-- Gives an anchor the number of different names before it. A name that is used again moves to its
new node; of two anchors with one number the later one counts. -/
def name (reading : Reading) (anchor : String) : Reading :=
  let others := reading.names.filter (·.1 ≠ anchor)
  let number := reading.names.length
  { reading with
    names := (anchor, number) :: others
    serial := reading.serial + 1
    owners := (number, reading.serial) :: reading.owners }

/-- The anchor and tag in front of a node, in either order. Says whether there was any, and the
serial number that an anchor got. -/
def readProperties (reading : Reading) : Option ((Bool × Option Nat) × Reading) :=
  match reading.tokens with
  | .anchor a :: .tag handle _ :: _ => tagged handle (anchored a (reading.pass 2))
  | .anchor a :: _ => some (anchored a (reading.pass 1))
  | .tag handle _ :: .anchor a :: _ => tagged handle (anchored a (reading.pass 2))
  | .tag handle _ :: _ => tagged handle ((true, none), reading.pass 1)
  | _ => some ((false, none), reading)
where
  anchored (a : String) (reading : Reading) : (Bool × Option Nat) × Reading :=
    ((true, some reading.serial), reading.name a)
  tagged (handle : String) (result : (Bool × Option Nat) × Reading) :
      Option ((Bool × Option Nat) × Reading) :=
    if handle = "" || reading.handles.contains handle then some result else none

/-- Keeps a finished node for the aliases to it. -/
def keep (reading : Reading) (serial : Option Nat) (node : Node) : Reading :=
  match serial with
  | some serial => { reading with nodes := (serial, node) :: reading.nodes }
  | none => reading

/-- A node is left out in a sequence given by indentation. -/
def endsBlockItem : List Token → Bool
  | .blockEntry :: _ | .blockEnd :: _ => true
  | _ => false

/-- A node is left out in a sequence that is not indented. -/
def endsIndentlessItem : List Token → Bool
  | .blockEntry :: _ | .key :: _ | .value :: _ | .blockEnd :: _ => true
  | _ => false

/-- A key or value is left out in a mapping given by indentation. -/
def endsBlockPart : List Token → Bool
  | .key :: _ | .value :: _ | .blockEnd :: _ => true
  | _ => false

/-- The key of a pair is left out in a sequence in brackets. -/
def endsPairKey : List Token → Bool
  | .value :: _ | .flowEntry :: _ | .flowSequenceEnd :: _ => true
  | _ => false

/-- The value of a pair is left out in a sequence in brackets. -/
def endsPairValue : List Token → Bool
  | .flowEntry :: _ | .flowSequenceEnd :: _ => true
  | _ => false

def endsFlowKey : List Token → Bool
  | .value :: _ | .flowEntry :: _ | .flowMappingEnd :: _ => true
  | _ => false

def endsFlowValue : List Token → Bool
  | .flowEntry :: _ | .flowMappingEnd :: _ => true
  | _ => false

mutual

/-- Reads a node. Collections given by indentation are allowed in `block` places; the sequence of a
mapping value may stand at the indentation of the mapping itself. The fuel bounds the steps; all of
them take a token or come right before one that does. -/
def readNode : Nat → (block indentless : Bool) → Reading → Option (Node × Reading)
  | 0, _, _, _ => none
  | fuel + 1, block, indentless, reading =>
    match reading.tokens with
    | .alias name :: _ => do
      return (.alias (← reading.names.lookup name), reading.pass 1)
    | _ => do
      let ((marked, serial), reading) ← reading.readProperties
      let (node, reading) ← match reading.tokens with
        | .blockEntry :: _ =>
          if indentless then
            (readIndentless fuel reading).map fun (items, reading) => (.sequence items, reading)
          else if marked then some (.absent, reading)
          else none
        | .scalar text plain :: _ => some (.scalar text plain, reading.pass 1)
        | .flowSequence :: _ =>
          (readFlowItems fuel true (reading.pass 1)).map fun (items, reading) =>
            (.sequence items, reading)
        | .flowMapping :: _ =>
          (readFlowEntries fuel true (reading.pass 1)).map fun (entries, reading) =>
            (.mapping entries, reading)
        | .blockSequence :: _ =>
          if block then
            (readBlockItems fuel (reading.pass 1)).map fun (items, reading) =>
              (.sequence items, reading)
          else if marked then some (.absent, reading)
          else none
        | .blockMapping :: _ =>
          if block then
            (readBlockEntries fuel (reading.pass 1)).map fun (entries, reading) =>
              (.mapping entries, reading)
          else if marked then some (.absent, reading)
          else none
        | _ => if marked then some (.absent, reading) else none
      -- Kept after its parts, so an alias inside it has an anchor but no node yet.
      return (node, reading.keep serial node)

/-- Reads the items of an indented sequence and its end. -/
def readBlockItems : Nat → Reading → Option (List Node × Reading)
  | 0, _ => none
  | fuel + 1, reading =>
    match reading.tokens with
    | .blockEntry :: rest => do
      let (item, reading) ←
        if endsBlockItem rest then some (.absent, reading.pass 1)
        else readNode fuel true false (reading.pass 1)
      let (items, reading) ← readBlockItems fuel reading
      return (item :: items, reading)
    | .blockEnd :: _ => some ([], reading.pass 1)
    | _ => none

/-- Reads the items of a sequence that is not indented. -/
def readIndentless : Nat → Reading → Option (List Node × Reading)
  | 0, _ => none
  | fuel + 1, reading =>
    match reading.tokens with
    | .blockEntry :: rest => do
      let (item, reading) ←
        if endsIndentlessItem rest then some (.absent, reading.pass 1)
        else readNode fuel true false (reading.pass 1)
      let (items, reading) ← readIndentless fuel reading
      return (item :: items, reading)
    | _ => some ([], reading)

/-- Reads the entries of an indented mapping and its end. -/
def readBlockEntries : Nat → Reading → Option (List (Node × Node) × Reading)
  | 0, _ => none
  | fuel + 1, reading =>
    match reading.tokens with
    | .key :: rest => do
      let (key, reading) ←
        if endsBlockPart rest then some (.absent, reading.pass 1)
        else readNode fuel true true (reading.pass 1)
      let (value, reading) ← match reading.tokens with
        | .value :: rest =>
          if endsBlockPart rest then some (.absent, reading.pass 1)
          else readNode fuel true true (reading.pass 1)
        | _ => some (.absent, reading)
      let (entries, reading) ← readBlockEntries fuel reading
      return ((key, value) :: entries, reading)
    | .blockEnd :: _ => some ([], reading.pass 1)
    | _ => none

/-- Reads the items of a sequence in brackets and its end. An item with a key is a mapping of one
entry; a token that stands where its key is left out is passed over. -/
def readFlowItems : Nat → (first : Bool) → Reading → Option (List Node × Reading)
  | 0, _, _ => none
  | fuel + 1, first, reading =>
    match reading.tokens with
    | .flowSequenceEnd :: _ => some ([], reading.pass 1)
    | tokens => do
      let reading ←
        if first then some reading
        else match tokens with
          | .flowEntry :: _ => some (reading.pass 1)
          | _ => none
      match reading.tokens with
      | .flowSequenceEnd :: _ => some ([], reading.pass 1)
      | .key :: rest =>
        let (key, reading) ←
          -- Two tokens go here: the mark of the key and the one that shows that it is left out.
          if endsPairKey rest then some (.absent, reading.pass 2)
          else readNode fuel false false (reading.pass 1)
        let (value, reading) ← match reading.tokens with
          | .value :: rest =>
            if endsPairValue rest then some (.absent, reading.pass 1)
            else readNode fuel false false (reading.pass 1)
          | _ => some (.absent, reading)
        let (items, reading) ← readFlowItems fuel false reading
        return (.mapping [(key, value)] :: items, reading)
      | _ =>
        let (item, reading) ← readNode fuel false false reading
        let (items, reading) ← readFlowItems fuel false reading
        return (item :: items, reading)

/-- Reads the entries of a mapping in braces and its end. -/
def readFlowEntries : Nat → (first : Bool) → Reading → Option (List (Node × Node) × Reading)
  | 0, _, _ => none
  | fuel + 1, first, reading =>
    match reading.tokens with
    | .flowMappingEnd :: _ => some ([], reading.pass 1)
    | tokens => do
      let reading ←
        if first then some reading
        else match tokens with
          | .flowEntry :: _ => some (reading.pass 1)
          | _ => none
      match reading.tokens with
      | .flowMappingEnd :: _ => some ([], reading.pass 1)
      | .key :: rest =>
        let (key, reading) ←
          if endsFlowKey rest then some (.absent, reading.pass 1)
          else readNode fuel false false (reading.pass 1)
        let (value, reading) ← match reading.tokens with
          | .value :: rest =>
            if endsFlowValue rest then some (.absent, reading.pass 1)
            else readNode fuel false false (reading.pass 1)
          | _ => some (.absent, reading)
        let (entries, reading) ← readFlowEntries fuel false reading
        return ((key, value) :: entries, reading)
      | _ =>
        let (key, reading) ← readNode fuel false false reading
        let (entries, reading) ← readFlowEntries fuel false reading
        return ((key, .absent) :: entries, reading)

end

/-- The versions that can be read. -/
def isKnownVersion (major minor : Nat) : Bool :=
  major = 1 && (minor = 1 || minor = 2)

/-- Reads the directives in front of a document. No version and no handle may be given twice. -/
def readDirectives : List Token → (versioned : Bool) → (handles : List String) →
    Option (List String × List Token)
  | .version major minor :: rest, versioned, handles =>
    if versioned || !isKnownVersion major minor then none else readDirectives rest true handles
  | .tagHandle handle :: rest, versioned, handles =>
    if handles.contains handle then none else readDirectives rest versioned (handle :: handles)
  | rest, _, handles => some (handles, rest)

/-- A document begins without a mark of its start. -/
def startsBare : List Token → Bool
  | .version _ _ :: _ | .tagHandle _ :: _ | .documentStart :: _ => false
  | _ => true

/-- A document is left empty. -/
def endsDocument : List Token → Bool
  | [] | .version _ _ :: _ | .tagHandle _ :: _ | .documentStart :: _ | .documentEnd :: _ => true
  | _ => false

/-- Reads the content of a document behind its start. -/
def readContent (reading : Reading) : Option (Node × Reading) :=
  if endsDocument reading.tokens then some (.absent, reading)
  else readNode (4 * reading.tokens.length + 4) true false reading

/-- Reads the first document of a text. -/
def readDocument (tokens : List Token) : Option (Node × Reading) := do
  if startsBare tokens then
    readNode (4 * tokens.length + 4) true false { tokens }
  else
    let (handles, rest) ← readDirectives tokens false []
    match rest with
    | .documentStart :: rest =>
      readContent { tokens := rest, handles := handles ++ ["!", "!!"] }
    | _ => none

end Reading

/-- The document of a text, if the text has no second one. -/
def Document.ofText? (text : String) : Option Document := do
  match ← Token.ofText? text with
  | [] => return { root := none }
  | tokens =>
    let (root, reading) ← Reading.readDocument tokens
    if reading.tokens.all (· = .documentEnd) then
      return { root := some root, owners := reading.owners, nodes := reading.nodes }
    else
      none

end Hardening.Yaml
