import Hardening.Failure
import Hardening.Text.Quoted

/-!
# Troubles of a run

What can end a command or the work on one file. A trouble has a headline that says what was being
done, and a full text that adds the causes, from the nearest to the deepest.
-/
namespace Hardening

/-- The text of a failure with its causes. An access failure shows its cause once as part of the
failure and once on its own. -/
def Failure.chain : Failure → String
  | .io cause => (Failure.io cause).message ++ ": " ++ cause.message
  | failure => failure.message

inductive Trouble where
  | badConfig (path : String) (cause : Failure)
  | badInput (path : String) (cause : OsError)
  | badStdin (cause : OsError)
  | badOutput (path : String) (cause : OsError)
  | badStdout (cause : OsError)
  | badReport (path : String) (cause : OsError)
  | badDirectory (path : String) (cause : OsError)
  | noDirectory (path : String) (cause : OsError)
  | unresolved (cause : OsError)
  | sameDirectory
  | filesFailed (count : Nat)
  /-- The submission was turned down. -/
  | refused (cause : Failure)
  deriving Repr, DecidableEq

namespace Trouble

/-- What was being done. -/
def headline : Trouble → String
  | badConfig path _ => "Failed to load config " ++ Text.quote path
  | badInput path _ => "Failed to read " ++ Text.quote path
  | badStdin _ => "Failed to read stdin"
  | badOutput path _ => "Failed to write " ++ Text.quote path
  | badReport path _ => "Failed to write report " ++ Text.quote path
  | badDirectory path _ => "Failed to read directory " ++ Text.quote path
  | noDirectory path _ => "Failed to create output directory " ++ Text.quote path
  | badStdout cause | unresolved cause => cause.message
  | sameDirectory => "Output directory must differ from the input directory"
  | filesFailed count => toString count ++ " Dockerfiles could not be processed"
  | refused cause => cause.message

/-- The causes below the headline. -/
def causes : Trouble → Option String
  | badConfig _ cause => some cause.chain
  | badInput _ cause | badStdin cause | badOutput _ cause | badReport _ cause
  | badDirectory _ cause | noDirectory _ cause => some cause.message
  | badStdout _ | unresolved _ | sameDirectory | filesFailed _ | refused _ => none

/-- The headline with all causes. -/
def fullText (trouble : Trouble) : String :=
  match trouble.causes with
  | some causes => trouble.headline ++ ": " ++ causes
  | none => trouble.headline

/-- The command had nothing to work on. -/
def isInvalidInput : Trouble → Bool
  | refused cause => cause.isInvalidInput
  | _ => false

end Trouble
end Hardening
