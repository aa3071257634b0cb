/-!
# Change reports

A report lists what a hardening run changed and how many lines went in and came out. Pins and
cleanups name the line they changed, an insertion the output line where the new lines begin.
-/
namespace Hardening

/-- The rules that change a document. -/
inductive Rule where
  /-- Replaces a floating base-image tag. -/
  | pinBaseImage
  /-- Chains cache cleanup onto the install after an index refresh. -/
  | cleanPackageCache
  /-- Adds the user block. -/
  | insertNonRootUser
  deriving Repr, DecidableEq

namespace Rule

def all : List Rule := [pinBaseImage, cleanPackageCache, insertNonRootUser]

/-- The name of the rule in reports. -/
def name : Rule → String
  | pinBaseImage => "pin_base_image"
  | cleanPackageCache => "clean_package_cache"
  | insertNonRootUser => "insert_non_root_user"

/-- What the rule did, for display. -/
def description : Rule → String
  | pinBaseImage => "Pinned floating base-image tag"
  | cleanPackageCache => "Added package cache cleanup"
  | insertNonRootUser => "Added non-root user"

def ofName? (name : String) : Option Rule :=
  all.find? (·.name = name)

theorem ofName?_name (rule : Rule) : ofName? rule.name = some rule := by
  cases rule <;> decide

theorem name_of_ofName? {name : String} {rule : Rule} (h : ofName? name = some rule) :
    rule.name = name := by
  simpa using List.find?_some h

end Rule

/-- One change to a document. -/
structure Change where
  rule : Rule
  /-- Counted from one: the changed line of the input, or the output line of the first inserted line. -/
  line : Nat
  /-- The line as it was; empty for an insertion. -/
  before : String
  after : String
  deriving Repr, DecidableEq

/-- What one hardening run did. -/
structure Report where
  changes : List Change := []
  /-- The input declares a group or user of its own. -/
  userDeclared : Bool := false
  /-- Index among the output lines, counted from zero, of the inserted user block. -/
  userBlockAt : Option Nat := none
  inputLines : Nat := 0
  outputLines : Nat := 0
  deriving Repr, DecidableEq

namespace Report

/-- Number of changes made by a rule. -/
def count (report : Report) (rule : Rule) : Nat :=
  report.changes.countP (·.rule = rule)

/-- The report lists no change. -/
def isUnchanged (report : Report) : Bool :=
  report.changes.isEmpty

end Report
end Hardening
