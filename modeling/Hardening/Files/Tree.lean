import Hardening.Files.Path

/-!
# File trees

A tree without links holds files and directories at locations, which are lists of names from the
root. All paths start there: a tree has no other working directory. Reading never changes a tree, and
writing a file changes it at one location only.
-/
namespace Hardening.Files

/-- The names on the way from the root. -/
abbrev Location := List String

inductive Node where
  | file (bytes : ByteArray)
  | directory

instance : DecidableEq Node
  | .directory, .directory => isTrue rfl
  | .file a, .file b =>
    match ByteArray.instDecidableEq a b with
    | isTrue same => isTrue (congrArg Node.file same)
    | isFalse differ => isFalse fun same => differ (Node.file.inj same)
  | .file _, .directory => isFalse nofun
  | .directory, .file _ => isFalse nofun

/-- The entries of a file system. The root is a directory without an entry of its own. -/
structure Tree where
  entries : List (Location × Node) := []

namespace Tree

def empty : Tree := {}

/-- What is at a location. -/
def get? (tree : Tree) (location : Location) : Option Node :=
  if location = [] then
    some .directory
  else
    (tree.entries.find? (·.1 = location)).map Prod.snd

/-- Puts a node at a location, in place of what was there. -/
def set (tree : Tree) (location : Location) (node : Node) : Tree :=
  ⟨tree.entries.filter (·.1 ≠ location) ++ [(location, node)]⟩

theorem get?_set_self (tree : Tree) (location : Location) (node : Node) (named : location ≠ []) :
    (tree.set location node).get? location = some node := by
  have none : (tree.entries.filter (·.1 ≠ location)).find? (·.1 = location) = none := by
    simp [List.find?_filter]
  simp only [get?, set, named, if_false, List.find?_append, none, Option.none_or]
  simp

theorem get?_set_of_ne (tree : Tree) (location other : Location) (node : Node)
    (differ : other ≠ location) : (tree.set location node).get? other = tree.get? other := by
  by_cases root : other = []
  · simp [get?, root]
  · have found : (tree.entries.filter (·.1 ≠ location)).find? (·.1 = other) =
        tree.entries.find? (·.1 = other) := by
      rw [List.find?_filter]
      congr 1
      funext entry
      by_cases same : entry.1 = other <;> simp [same, differ]
    have last : [(location, node)].find? (·.1 = other) = none := by
      simp [Ne.symm differ]
    simp only [get?, set, root, if_false, List.find?_append, found, last, Option.or_none]

/-- Makes a directory with the ones it lies in, where they are missing. -/
def withDirectories (tree : Tree) (location : Location) : Tree :=
  (List.range location.length).foldl (fun tree i =>
    let place := location.take (i + 1)
    if (tree.get? place).isSome then tree else tree.set place .directory) tree

/-- Follows one segment. -/
def step (tree : Tree) (here : Location) (segment : String) : Except OsError Location :=
  match tree.get? here with
  | some .directory =>
    if segment = "." then .ok here
    else if segment = ".." then .ok here.dropLast
    else if segment.utf8ByteSize > 255 then .error .nameTooLong
    else if (tree.get? (here ++ [segment])).isSome then .ok (here ++ [segment])
    else .error .notFound
  | some (.file _) => .error .notDirectory
  | none => .error .notFound

/-- Follows segments from a location on. -/
def follow (tree : Tree) (here : Location) (segments : List String) : Except OsError Location :=
  segments.foldlM tree.step here

/-- The location that a walk leads to. -/
def locate (tree : Tree) (walk : Walk) : Except OsError Location := do
  let location ← tree.follow [] walk.segments
  match walk.toDirectory, tree.get? location with
  | true, some (.file _) => throw .notDirectory
  | _, _ => return location

/-- The location and node that a path leads to. -/
def lookup (tree : Tree) (path : String) : Except OsError (Location × Node) := do
  let location ← tree.locate (← Path.walk? path)
  match tree.get? location with
  | some node => return (location, node)
  | none => throw .notFound

/-- The text of a file. -/
def readText (tree : Tree) (path : String) : Except OsError String := do
  match ← tree.lookup path with
  | (_, .directory) => throw .isDirectory
  | (_, .file bytes) =>
    match String.fromUTF8? bytes with
    | some text => return text
    | none => throw .notUtf8

/-- Where a file with the given path is or would be. Directories cannot be written to. -/
def writable (tree : Tree) (path : String) : Except OsError Location := do
  let walk ← Path.walk? path
  match walk.segments.getLast? with
  | none => throw .isDirectory
  | some last =>
    let parent ← tree.follow [] walk.segments.dropLast
    match tree.get? parent with
    | some .directory =>
      if last = "." || last = ".." || walk.toDirectory then throw .isDirectory
      else if last.utf8ByteSize > 255 then throw .nameTooLong
      else if tree.get? (parent ++ [last]) = some .directory then throw .isDirectory
      else return parent ++ [last]
    | some (.file _) => throw .notDirectory
    | none => throw .notFound

/-- Writes a file, over an old one if need be. -/
def writeText (tree : Tree) (path content : String) : Except OsError Tree := do
  return tree.set (← tree.writable path) (.file content.toUTF8)

/-- The name and node of an entry that is directly inside a location. -/
def childOf (location : Location) (entry : Location × Node) : Option (String × Node) :=
  match entry.1.reverse with
  | name :: up => if up.reverse = location then some (name, entry.2) else none
  | [] => none

/-- The nodes directly inside a location, with their names. -/
def children (tree : Tree) (location : Location) : List (String × Node) :=
  tree.entries.filterMap (childOf location)

/-- The name of an entry, if it is a file. -/
def fileName? : String × Node → Option String
  | (name, .file _) => some name
  | (_, .directory) => none

/-- The names of the files directly inside a directory, in order. -/
def listFiles (tree : Tree) (path : String) : Except OsError (List String) := do
  match ← tree.lookup path with
  | (_, .file _) => throw .notDirectory
  | (location, .directory) =>
    return ((tree.children location).filterMap fileName?).mergeSort (· ≤ ·)

def isDirectory (tree : Tree) (walk : Walk) : Bool :=
  match tree.locate walk with
  | .ok location => tree.get? location = some .directory
  | .error _ => false

/-- Makes one directory. -/
def makeDirectory (tree : Tree) (walk : Walk) : Except OsError Tree := do
  match walk.segments.getLast? with
  | none => throw .alreadyExists
  | some last =>
    let parent ← tree.follow [] walk.segments.dropLast
    match tree.get? parent with
    | some .directory =>
      if last = "." || last = ".." then throw .alreadyExists
      else if last.utf8ByteSize > 255 then throw .nameTooLong
      else if (tree.get? (parent ++ [last])).isSome then throw .alreadyExists
      else return tree.set (parent ++ [last]) .directory
    | some (.file _) => throw .notDirectory
    | none => throw .notFound

/-- Makes the directory of a walk; where something on the way to it is missing, `ancestors` is to
make that first. An existing directory is fine. -/
def makeAfter (walk : Walk) (ancestors : Tree → Except OsError Unit × Tree) (tree : Tree) :
    Except OsError Unit × Tree :=
  match tree.makeDirectory walk with
  | .ok made => (.ok (), made)
  -- Only something missing is worth a second try.
  | .error .notFound =>
    match ancestors tree with
    | (.error cause, made) => (.error cause, made)
    | (.ok (), made) =>
      match made.makeDirectory walk with
      | .ok made => (.ok (), made)
      | .error cause => (if made.isDirectory walk then .ok () else .error cause, made)
  | .error cause => (if tree.isDirectory walk then .ok () else .error cause, tree)

/-- Makes the directory with the given components, listed from the last one, and those it lies
in. -/
def makeComponents : List String → Tree → Except OsError Unit × Tree
  | [], tree => (.ok (), tree)
  | last :: up, tree => makeAfter ⟨(last :: up).reverse, false⟩ (makeComponents up) tree

/-- Makes a directory and those it lies in. What was made before a failure stays. -/
def makeDirectories (tree : Tree) (path : String) : Except OsError Unit × Tree :=
  if path = "" then
    (.ok (), tree)
  else
    match Path.walk? path with
    | .error cause => (.error cause, tree)
    | .ok walk => makeAfter walk (makeComponents (Path.components path).dropLast.reverse) tree

/-- The location that a path leads to, whatever its spelling. -/
def resolve (tree : Tree) (path : String) : Except OsError Location := do
  return (← tree.lookup path).1

end Tree
end Hardening.Files
