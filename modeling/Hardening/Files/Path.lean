import Hardening.Failure

/-!
# Path texts

A path is a text with slashes between its segments. Repeated slashes count as one, a slash at the
end asks for a directory, and `.` and `..` are segments that a walk interprets. A walk in a
tree starts at the root, which is the working directory too, so a slash in front of a path makes no
difference to where it leads. The components of a path leave out the segments `.` that change nothing.
-/
namespace Hardening.Files

/-- A path as a walk through directories, from the root on. -/
structure Walk where
  segments : List String
  /-- The path ends in a slash, so it has to lead to a directory. -/
  toDirectory : Bool
  deriving Repr, DecidableEq

namespace Path

def isAbsolute (path : String) : Bool :=
  path.toList.head? = some '/'

/-- The parts of a path between its slashes, empty ones aside. -/
def segments (path : String) : List String :=
  ((path.toList.splitOn '/').filter (· ≠ [])).map String.ofList

/-- The longest path that can be looked up, in bytes. -/
def maxLength : Nat := 4095

/-- The walk that a path describes. -/
def walk? (path : String) : Except OsError Walk :=
  if path.toList.contains '\x00' then
    .error .invalidName
  else if path = "" then
    .error .notFound
  else if path.utf8ByteSize > maxLength then
    .error .nameTooLong
  else
    .ok {
      segments := segments path
      toDirectory := path.toList.getLast? = some '/' }

/-- The segments without those that change nothing; a relative path keeps a leading `.`. -/
def components (path : String) : List String :=
  match segments path with
  | "." :: rest => (if isAbsolute path then [] else ["."]) ++ rest.filter (· ≠ ".")
  | all => all.filter (· ≠ ".")

/-- The last component, if it is a name. -/
def fileName? (path : String) : Option String :=
  (components path).getLast?.filter fun name => name ≠ "." && name ≠ ".."

/-- The path of an entry of a directory. -/
def join (directory name : String) : String :=
  if directory = "" || directory.toList.getLast? = some '/' then
    directory ++ name
  else
    directory ++ "/" ++ name

end Path
end Hardening.Files
