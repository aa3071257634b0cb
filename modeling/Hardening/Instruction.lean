import Hardening.Text.Blank
import Hardening.Text.Lead

/-!
# Instructions that a line can begin with

Lines are recognised by literal beginnings: no indentation, no other case, one space between the
words. A line may go on in any way after its beginning.
-/
namespace Hardening.Instruction

/-- Commands that declare a group or a user of their own. -/
def userCreationLeads : List String :=
  ["RUN groupadd", "RUN addgroup", "RUN adduser"]

def indexRefreshLead : String := "RUN apt-get update"

def packageInstallLead : String := "RUN apt-get install"

def copyLead : String := "COPY"

/-- The line declares a group or a user. -/
def declaresUser (line : String) : Bool :=
  userCreationLeads.any (Text.leads · line)

/-- The line refreshes the package index. -/
def refreshesIndex (line : String) : Bool :=
  Text.leads indexRefreshLead line

/-- The line installs packages. -/
def installsPackages (line : String) : Bool :=
  Text.leads packageInstallLead line

/-- The line copies files into the image. -/
def copiesFiles (line : String) : Bool :=
  Text.leads copyLead line

/-- The first word of the line, wherever it stands. -/
def keyword? (line : String) : Option String :=
  Text.firstWord? line

theorem declaresUser_iff (line : String) :
    declaresUser line = true ↔ ∃ lead ∈ userCreationLeads, Text.leads lead line = true := by
  simp [declaresUser]

end Hardening.Instruction
