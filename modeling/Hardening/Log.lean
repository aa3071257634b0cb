/-!
# Log lines

Commands tell about their progress in lines with a level.
-/
namespace Hardening

namespace Log

inductive Level where
  | info
  | warn
  | error
  deriving Repr, DecidableEq

def Level.name : Level → String
  | info => "INFO"
  | warn => "WARN"
  | error => "ERROR"

structure Line where
  level : Level
  text : String
  deriving Repr, DecidableEq

end Log
end Hardening
