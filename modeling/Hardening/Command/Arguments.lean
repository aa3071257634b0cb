import Hardening.Text.Lead

/-!
# Command lines

A command line is options, a command word, and the options of that command. An option has a long
name and maybe a letter; its value is attached or follows as an argument of its own, then it must
not look like an option. No option may be given twice at one place, and names are not abbreviated.
-/
namespace Hardening.Command

/-- What an option does. -/
inductive OptionKind where
  | flag
  | value
  /-- Ends the reading of the command line. -/
  | version
  | help
  deriving Repr, DecidableEq

structure OptionSpec where
  name : String
  letter : Option Char := none
  kind : OptionKind
  deriving Repr, DecidableEq

/-- An option on the command line; flags have no value. -/
structure Given where
  name : String
  value : Option String := none
  deriving Repr, DecidableEq

/-- The state after one argument. -/
inductive OptionStep where
  | given (all : List Given)
  /-- The next argument is the value of this option. -/
  | awaits (name : String) (all : List Given)
  | version
  | help
  deriving Repr, DecidableEq

/-- Adds an option that has not been given before. Values must not be empty. -/
def addGiven (all : List Given) (option : Given) : Option (List Given) :=
  if all.any (·.name = option.name) || option.value = some "" then none
  else some (all ++ [option])

/-- An argument that begins with a dash and goes on. -/
def isOption (argument : String) : Bool :=
  Text.leads "-" argument && argument ≠ "-"

/-- Reads an option by its long name, from behind the dashes. -/
def readLong (specs : List OptionSpec) (body : List Char) (all : List Given) :
    Option OptionStep := do
  let name := String.ofList (body.takeWhile (· ≠ '='))
  let attached : Option String := match body.dropWhile (· ≠ '=') with
    | [] => none
    | _ :: value => some (String.ofList value)
  let spec ← specs.find? (·.name = name)
  match spec.kind, attached with
  | .flag, none => return .given (← addGiven all { name })
  | .value, some value => return .given (← addGiven all { name, value })
  | .value, none => return .awaits name all
  | .version, none => return .version
  | .help, none => return .help
  | _, some _ => none

/-- Reads options by their letters. What follows the letter of an option with a value is the value,
an equals sign in front of it aside. -/
def readLetters (specs : List OptionSpec) : List Char → List Given → Option OptionStep
  | [], all => some (.given all)
  | letter :: rest, all => do
    let spec ← specs.find? (·.letter = some letter)
    match spec.kind with
    | .flag => readLetters specs rest (← addGiven all { name := spec.name })
    | .version => return .version
    | .help => return .help
    | .value =>
      match rest with
      | [] => return .awaits spec.name all
      | '=' :: value | value =>
        return .given (← addGiven all { name := spec.name, value := some (String.ofList value) })

/-- Reads one argument that looks like an option. -/
def readOption (specs : List OptionSpec) (argument : String) (all : List Given) :
    Option OptionStep :=
  match argument.toList with
  | '-' :: '-' :: body => readLong specs body all
  | '-' :: letters => readLetters specs letters all
  | _ => none

/-- The state after the options at one place. -/
inductive OptionsEnd where
  | finished (all : List Given)
  | word (all : List Given) (word : String) (rest : List String)
  | version
  | help
  deriving Repr, DecidableEq

/-- Reads options up to a word or the end. Two dashes end the options; nothing may follow them. -/
def readOptions (specs : List OptionSpec) : List String → List Given → Option OptionsEnd
  | [], all => some (.finished all)
  | argument :: rest, all =>
    if argument = "--" then
      if rest = [] then some (.finished all) else none
    else if isOption argument then
      match readOption specs argument all, rest with
      | some (.given all), rest => readOptions specs rest all
      | some (.awaits name all), value :: rest =>
        -- A value that is to look like an option has to be attached.
        if isOption value then none
        else
          match addGiven all { name, value } with
          | some all => readOptions specs rest all
          | none => none
      | some (.awaits _ _), [] => none
      | some .version, _ => some .version
      | some .help, _ => some .help
      | none, _ => none
    else
      some (.word all argument rest)

/-- The value of an option. -/
def valueOf (all : List Given) (name : String) : Option String :=
  (all.find? (·.name = name)).bind Given.value

def isGiven (all : List Given) (name : String) : Bool :=
  all.any (·.name = name)

/-- What is to be done. A path `-` means standard input or output. -/
inductive Action where
  | harden (input : String) (out report : Option String)
  | compare (input : String) (html : Bool) (out : Option String)
  | batch (directory out : String)
  deriving Repr, DecidableEq

structure Request where
  verbose : Bool := false
  config : Option String := none
  action : Action
  deriving Repr, DecidableEq

/-- What a command line asks for. -/
inductive Invocation where
  | run (request : Request)
  | version
  | help
  deriving Repr, DecidableEq

/-- The options that every command has. -/
def sharedOptions : List OptionSpec := [
  { name := "verbose", letter := some 'v', kind := .flag },
  { name := "config", kind := .value },
  { name := "help", letter := some 'h', kind := .help }]

/-- The options in front of the command word. -/
def topOptions : List OptionSpec :=
  sharedOptions ++ [{ name := "version", letter := some 'V', kind := .version }]

def inputOption : OptionSpec := { name := "input", letter := some 'i', kind := .value }

def outOption : OptionSpec := { name := "out", letter := some 'o', kind := .value }

/-- A command with its options and what it makes of them. -/
structure CommandSpec where
  word : String
  options : List OptionSpec
  action : List Given → Option Action

def commands : List CommandSpec := [
  { word := "harden"
    options := sharedOptions ++ [inputOption, outOption, { name := "report", kind := .value }]
    action := fun all => some <|
      .harden ((valueOf all "input").getD "-") (valueOf all "out") (valueOf all "report") },
  { word := "compare"
    options := sharedOptions ++ [inputOption, outOption, { name := "html", kind := .flag }]
    action := fun all => some <|
      .compare ((valueOf all "input").getD "-") (isGiven all "html") (valueOf all "out") },
  { word := "batch"
    options := sharedOptions ++ [{ name := "dir", kind := .value }, outOption]
    action := fun all => return .batch (← valueOf all "dir") (← valueOf all "out") }]

/-- The request of a command. What is given behind the command word counts before what is given in
front of it. -/
def requestOf (command : CommandSpec) (top all : List Given) : Option Request := do
  return {
    verbose := isGiven top "verbose" || isGiven all "verbose"
    config := (valueOf all "config").or (valueOf top "config")
    action := ← command.action all }

/-- Help is asked for in general or on one command. -/
def isHelpTopic (arguments : List String) : Bool :=
  match arguments with
  | [] => true
  | [word] => word = "help" || commands.any (·.word = word)
  | _ => false

/-- Reads a command line; none if it is no proper one. -/
def Invocation.ofArguments? (arguments : List String) : Option Invocation := do
  match ← readOptions topOptions arguments [] with
  | .finished _ => none
  | .version => return .version
  | .help => return .help
  | .word top word rest =>
    if word = "help" then
      if isHelpTopic rest then return .help else none
    else
      let command ← commands.find? (·.word = word)
      match ← readOptions command.options rest [] with
      | .finished all => return .run (← requestOf command top all)
      | .word _ _ _ => none
      | .version => return .version
      | .help => return .help

end Hardening.Command
