import Hardening.Config
import Hardening.Instruction

/-!
# The user block

A document that declares no user gets two lines that create one and switch to it. They stand in
front of the first line that copies files, or at the end.
-/
namespace Hardening.UserBlock

/-- Creates the group and the user. -/
def creation (config : Config) : String :=
  "RUN groupadd -r " ++ config.group ++ " && useradd -r -g " ++ config.group ++ " " ++ config.user

/-- Switches to the user. -/
def switch (config : Config) : String :=
  "USER " ++ config.user

def lines (config : Config) : List String :=
  [creation config, switch config]

/-- Index of the first line that copies files, or the number of lines. -/
def insertionPoint (lines : List String) : Nat :=
  lines.findIdx Instruction.copiesFiles

/-- The lines with the block at the insertion point. -/
def insert (config : Config) (document : List String) : List String :=
  let point := insertionPoint document
  document.take point ++ lines config ++ document.drop point

theorem insertionPoint_le (document : List String) : insertionPoint document ≤ document.length :=
  List.findIdx_le_length

theorem length_insert (config : Config) (document : List String) :
    (insert config document).length = document.length + 2 := by
  have := insertionPoint_le document
  simp [insert, lines]
  omega

end Hardening.UserBlock
