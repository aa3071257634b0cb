import Hardening.BaseImage.Floating
import Hardening.Config
import Hardening.Instruction
import Hardening.Report

/-!
# Scanning a document line by line

Four rules look at every line in a fixed order. A rule may change the line, change what the scan
remembers, or end the evaluation of the line. The scan remembers two facts: whether a user has been
declared, and whether the package index has been refreshed since the last install.
-/
namespace Hardening

/-- What the scan remembers from the lines it has seen. -/
structure ScanState where
  userDeclared : Bool := false
  installOpen : Bool := false
  deriving Repr, DecidableEq

namespace ScanState

def initial : ScanState := {}

/-- Holds for the rest of the scan. -/
def declareUser (state : ScanState) : ScanState :=
  { state with userDeclared := true }

/-- Opens the install block, and says whether it was closed before. -/
def openInstall (state : ScanState) : Bool × ScanState :=
  (!state.installOpen, { state with installOpen := true })

def closeInstall (state : ScanState) : ScanState :=
  { state with installOpen := false }

end ScanState

/-- The rules for single lines. -/
inductive LineRule where
  /-- Gives a floating base image a pinned tag. -/
  | pinBase
  /-- Takes note of a declared group or user. -/
  | noteUser
  /-- Takes note of an index refresh; the line is finished then. -/
  | openInstall
  /-- Puts the cleanup commands behind the first install after a refresh. -/
  | cleanCache
  deriving Repr, DecidableEq

namespace LineRule

/-- The order of evaluation. -/
def inOrder : List LineRule := [pinBase, noteUser, openInstall, cleanCache]

/-- What one rule makes of a line. -/
structure Effect where
  text : String
  state : ScanState
  /-- The change to report, if the rule changed the line. -/
  change : Option Rule := none
  /-- No further rule looks at the line. -/
  final : Bool := false
  deriving Repr, DecidableEq

def apply (config : Config) (rule : LineRule) (text : String) (state : ScanState) : Effect :=
  match rule with
  | pinBase =>
    match BaseImage.Floating.find? text with
    | some base =>
      { text := base.pinned (config.tagFor base.image), state, change := some .pinBaseImage }
    | none => { text, state }
  | noteUser =>
    { text, state := if Instruction.declaresUser text then state.declareUser else state }
  | openInstall =>
    if Instruction.refreshesIndex text then
      { text, state := state.openInstall.2, final := true }
    else
      { text, state }
  | cleanCache =>
    if state.installOpen && Instruction.installsPackages text then
      { text := text ++ config.cleanupSuffix
        state := state.closeInstall
        change := some .cleanPackageCache }
    else
      { text, state }

end LineRule

/-- A line after the rules have looked at it. -/
structure Classified where
  text : String
  /-- The rules that changed the line, in the order of their application. -/
  changedBy : List Rule
  deriving Repr, DecidableEq

/-- Runs the given rules on a line, one after the other. With `stops`, a final effect keeps the
remaining rules away from the line. -/
def classifyBy (config : Config) (stops : Bool) :
    List LineRule → String → ScanState → Classified × ScanState
  | [], text, state => (⟨text, []⟩, state)
  | rule :: rules, text, state =>
    let effect := rule.apply config text state
    if stops && effect.final then
      (⟨effect.text, effect.change.toList⟩, effect.state)
    else
      let (classified, state) := classifyBy config stops rules effect.text effect.state
      (⟨classified.text, effect.change.toList ++ classified.changedBy⟩, state)

/-- Runs all rules on a line in their order. -/
def classify (config : Config) (line : String) (state : ScanState) : Classified × ScanState :=
  classifyBy config true LineRule.inOrder line state

/-- Classifies lines from left to right, each in the state that the ones before it leave. -/
def scan (config : Config) : List String → ScanState → List Classified × ScanState
  | [], state => ([], state)
  | line :: lines, state =>
    let (classified, next) := classify config line state
    let (others, last) := scan config lines next
    (classified :: others, last)

theorem length_scan (config : Config) (lines : List String) (state : ScanState) :
    (scan config lines state).1.length = lines.length := by
  induction lines generalizing state with
  | nil => rfl
  | cons line lines ih => simp [scan, ih]

end Hardening
