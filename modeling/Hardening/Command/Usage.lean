import Hardening.Command.Arguments

/-!
# Usage

The text that is shown when help is asked for: a line for each command with all of its options.
-/
namespace Hardening.Command

/-- An option as it is given on a command line. -/
def OptionSpec.usage (spec : OptionSpec) : String :=
  let short := match spec.letter with
    | some letter => String.ofList ['-', letter, '|']
    | none => ""
  let value := match spec.kind with
    | .value => " <" ++ spec.name ++ ">"
    | _ => ""
  "[" ++ short ++ "--" ++ spec.name ++ value ++ "]"

def usageLine (word : String) (options : List OptionSpec) : String :=
  " ".intercalate ("dockharden" :: word :: options.map OptionSpec.usage) ++ "\n"

def usageText : String :=
  usageLine "<command>" topOptions ++
    String.join (commands.map fun command => usageLine command.word command.options)

end Hardening.Command
