/-!
# Failures

Everything that can go wrong around the hardening of a text, sorted by cause. Hardening itself
accepts any text and never fails.
-/
namespace Hardening

/-- What the file system reports when an access fails. -/
inductive OsError where
  | notFound
  | isDirectory
  | notDirectory
  | alreadyExists
  | nameTooLong
  | invalidName
  | notUtf8
  /-- Any other cause, in the system's own words. -/
  | other (text : String)
  deriving Repr, DecidableEq

namespace OsError

def message : OsError → String
  | notFound => "No such file or directory (os error 2)"
  | isDirectory => "Is a directory (os error 21)"
  | notDirectory => "Not a directory (os error 20)"
  | alreadyExists => "File exists (os error 17)"
  | nameTooLong => "File name too long (os error 36)"
  | invalidName => "file name contained an unexpected NUL byte"
  | notUtf8 => "stream did not contain valid UTF-8"
  | other text => text

end OsError

/-- A failure of one of the program's operations. -/
inductive Failure where
  | io (cause : OsError)
  | json
  | yaml
  /-- The submitted build file has no content. -/
  | invalidInput (reason : String)
  /-- A configuration value would break the result. -/
  | config (reason : String)
  | render (reason : String)
  | processing (reason : String)
  deriving Repr, DecidableEq

namespace Failure

/-- The failure stems from what was submitted rather than from processing it. -/
def isInvalidInput : Failure → Bool
  | invalidInput _ => true
  | _ => false

/-- The text shown for a failure. The wording of syntax errors is not fixed. -/
def message : Failure → String
  | io cause => "IO error: " ++ cause.message
  | json => "JSON error"
  | yaml => "YAML error"
  | invalidInput reason => "Invalid input: " ++ reason
  | config reason => "Configuration error: " ++ reason
  | render reason => "Render error: " ++ reason
  | processing reason => "Processing failed: " ++ reason

end Failure
end Hardening
