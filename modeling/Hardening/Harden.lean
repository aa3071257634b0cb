import Hardening.Document
import Hardening.Failure
import Hardening.Report
import Hardening.Scan
import Hardening.UserBlock

/-!
# Hardening a document

The lines are scanned once; a document in which no user was declared then gets the user block; the
lines are joined again. The report lists the changed lines in order and the insertion last.
-/
namespace Hardening

/-- A hardened text and what was changed to get it. -/
structure Hardened where
  content : String
  report : Report
  deriving Repr, DecidableEq

/-- The changes that the rules made to the line with the given number. -/
def lineChanges (number : Nat) (line : String) (classified : Classified) : List Change :=
  classified.changedBy.map fun rule => ⟨rule, number, line, classified.text⟩

/-- The changes to consecutive lines, numbered from `number` on. -/
def changesFrom : Nat → List String → List Classified → List Change
  | number, line :: lines, classified :: others =>
    lineChanges number line classified ++ changesFrom (number + 1) lines others
  | _, _, _ => []

/-- The insertion of the user block into the scanned lines. -/
def insertionChange (config : Config) (scanned : List String) : Change where
  rule := .insertNonRootUser
  line := UserBlock.insertionPoint scanned + 1
  before := ""
  after := Document.joinLines (UserBlock.lines config)

/-- Hardens any text; lines that no rule recognises stay as they are. -/
def harden (config : Config) (content : String) : Hardened :=
  let lines := (Document.ofText content).lines
  let (classified, state) := scan config lines .initial
  let scanned := classified.map Classified.text
  let edits := changesFrom 1 lines classified
  if state.userDeclared then
    { content := Document.joinLines scanned
      report := {
        changes := edits
        userDeclared := true
        userBlockAt := none
        inputLines := lines.length
        outputLines := scanned.length } }
  else
    -- The place is searched for among the scanned lines, which may be texts of several lines.
    let output := UserBlock.insert config scanned
    { content := Document.joinLines output
      report := {
        changes := edits ++ [insertionChange config scanned]
        userDeclared := false
        userBlockAt := some (UserBlock.insertionPoint scanned)
        inputLines := lines.length
        outputLines := output.length } }

/-- Hardens with the stock configuration. -/
def hardenStock (content : String) : String :=
  (harden .stock content).content

def missingContent : String := "No Dockerfile content provided"

/-- Refuses a submission without any content. -/
def requireContent (content : String) : Except Failure Unit :=
  if Text.isBlankText content then .error (.invalidInput missingContent) else .ok ()

/-- Hardens a submission, unless it has no content. -/
def hardenChecked (config : Config) (content : String) : Except Failure Hardened := do
  requireContent content
  return harden config content

theorem hardenChecked_of_blank (config : Config) (content : String)
    (blank : Text.isBlankText content = true) :
    hardenChecked config content = .error (.invalidInput missingContent) := by
  simp [hardenChecked, requireContent, blank, bind, Except.bind]

theorem hardenChecked_of_content (config : Config) (content : String)
    (visible : Text.isBlankText content = false) :
    hardenChecked config content = .ok (harden config content) := by
  simp [hardenChecked, requireContent, visible, bind, Except.bind, pure, Except.pure]

end Hardening
