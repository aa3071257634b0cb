import Hardening.BaseImage.Tags

/-!
# Configuration

A configuration fixes the texts that hardening puts into a document; it does not decide where they
go. Every field has a stock value.
-/
namespace Hardening

open BaseImage (TagRule)

/-- The texts that hardening puts into a document. -/
structure Config where
  /-- Account that the inserted block creates and switches to. -/
  user : String := "appuser"
  /-- Group that the inserted block creates. -/
  group : String := "appuser"
  /-- Tags by image name; the first rule with a name decides. -/
  baseImageTags : List TagRule := [⟨"python", "3.9-slim"⟩, ⟨"ubuntu", "20.04"⟩]
  /-- Tag of images without a rule. -/
  defaultTag : String := "18-slim"
  /-- Commands that follow a package install in the same instruction. -/
  packageCleanup : List String := ["apt-get clean", "rm -rf /var/lib/apt/lists/*"]
  deriving Repr, DecidableEq

namespace Config

def stock : Config := {}

/-- Continues the instruction on a new line, before each cleanup command. -/
def continuation : String := " \\\n    && "

/-- What is put behind an install line: each cleanup command on a continued line. -/
def cleanupSuffix (config : Config) : String :=
  String.join (config.packageCleanup.map (continuation ++ ·))

/-- The pinned tag for an image reference. -/
def tagFor (config : Config) (reference : String) : String :=
  BaseImage.tagFor config.baseImageTags config.defaultTag reference

end Config
end Hardening
