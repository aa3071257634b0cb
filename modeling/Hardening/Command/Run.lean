import Hardening.Batch
import Hardening.Command.Arguments
import Hardening.Command.Usage
import Hardening.Comparison
import Hardening.Config.Yaml
import Hardening.Report.File

/-!
# Running commands

A command loads its configuration, reads, hardens and writes, in this order, and stops at the first
trouble. The exit status is 2 for a submission without content and for a bad command line, 1 for
any other trouble, and 101 where a batch cannot print its counts. A report is written after the
output.
-/
namespace Hardening.Command

open Files (Access)

/-- What a run leaves behind apart from files. -/
structure Outcome where
  exit : Nat
  /-- What standard output has taken. A text that it refuses does not count, even if a broken device
  has shown the beginning of it. -/
  stdout : String := ""
  /-- The one line that tells why a run failed. -/
  notice : Option String := none
  logs : List Log.Line := []
  deriving Repr, DecidableEq

def processingFailed : String := "Failed to process Dockerfile"

namespace Outcome

def success (stdout : String) (logs : List Log.Line) : Outcome :=
  { exit := 0, stdout, logs }

/-- The end of a run by a trouble, after the given output. -/
def stopped (trouble : Trouble) (stdout : String) (logs : List Log.Line) : Outcome :=
  if trouble.isInvalidInput then
    { exit := 2, stdout, notice := some missingContent, logs }
  else
    { exit := 1, stdout, notice := some processingFailed
      logs := logs ++ [⟨.error, trouble.fullText⟩] }

/-- The end of a run that cannot show what it has done. -/
def aborted (cause : OsError) (stdout : String) (logs : List Log.Line) : Outcome :=
  { exit := 101, stdout, notice := some ("failed printing to stdout: " ++ cause.message), logs }

/-- The end of a run that never began. -/
def badUsage : Outcome :=
  { exit := 2 }

end Outcome

/-- The path that stands for standard input and output. -/
def isStdio (path : String) : Bool :=
  path = "-"

/-- The input's name in log lines. -/
def describe (path : String) : String :=
  if isStdio path then "stdin" else path

/-- Reads and checks a configuration file. -/
def readConfig [Monad m] (files : Access m) (path : String) : m (Except Failure Config) := do
  match ← files.readText path with
  | .error cause => return .error (.io cause)
  | .ok text => return Config.load text

/-- The configuration of a run. -/
def loadConfig [Monad m] (files : Access m) (path : Option String) : m (Except Trouble Config) := do
  match path with
  | none => return .ok .stock
  | some path =>
    match ← readConfig files path with
    | .ok config => return .ok config
    | .error cause => return .error (.badConfig path cause)

/-- Reads a submission. -/
def readInput [Monad m] (files : Access m) (stdin : m (Except OsError String)) (path : String) :
    m (Except Trouble String) := do
  if isStdio path then
    match ← stdin with
    | .ok text => return .ok text
    | .error cause => return .error (.badStdin cause)
  else
    match ← files.readText path with
    | .ok text => return .ok text
    | .error cause => return .error (.badInput path cause)

/-- Writes a result to a file or to standard output; the latter is given back. -/
def writeOutput [Monad m] (files : Access m) (out : Option String) (content : String) :
    m (Except Trouble String) := do
  match out.filter (!isStdio ·) with
  | none =>
    match ← files.print content with
    | .ok () => return .ok content
    | .error cause => return .error (.badStdout cause)
  | some path =>
    match ← files.writeText path content with
    | .ok () => return .ok ""
    | .error cause => return .error (.badOutput path cause)

/-- Writes the report of a hardened submission. -/
def writeReport [Monad m] (files : Access m) (stamp : m Stamp) (path source : String)
    (hardened : Hardened) : m (Except Trouble Unit) := do
  let file := ReportFile.make (← stamp) source hardened.content hardened.report
  match ← files.writeText path file.text with
  | .ok () => return .ok ()
  | .error cause => return .error (.badReport path cause)

def appliedLine (input : String) (hardened : Hardened) : Log.Line :=
  ⟨.info, "Applied " ++ toString hardened.report.changes.length ++ " changes to " ++
    describe input⟩

def reportLine (path : String) : Log.Line :=
  ⟨.info, "Report written to " ++ Text.quote path⟩

def runHarden [Monad m] (files : Access m) (stdin : m (Except OsError String)) (stamp : m Stamp)
    (config : Config) (input : String) (out report : Option String) : m Outcome := do
  match ← readInput files stdin input with
  | .error trouble => return .stopped trouble "" []
  | .ok source =>
    match hardenChecked config source with
    | .error failure => return .stopped (.refused failure) "" []
    | .ok hardened =>
      let applied := appliedLine input hardened
      match ← writeOutput files out hardened.content, report with
      | .error trouble, _ => return .stopped trouble "" [applied]
      | .ok stdout, none => return .success stdout [applied]
      | .ok stdout, some path =>
        -- The output stays where it is, even if the report cannot be written.
        match ← writeReport files stamp path source hardened with
        | .error trouble => return .stopped trouble stdout [applied]
        | .ok () => return .success stdout [applied, reportLine path]

def runCompare [Monad m] (files : Access m) (stdin : m (Except OsError String)) (config : Config)
    (input : String) (html : Bool) (out : Option String) : m Outcome := do
  match ← readInput files stdin input with
  | .error trouble => return .stopped trouble "" []
  | .ok source =>
    match hardenChecked config source with
    | .error failure => return .stopped (.refused failure) "" []
    | .ok hardened =>
      let view := Comparison.of source hardened
      match ← writeOutput files out (if html then view.html else view.text) with
      | .error trouble => return .stopped trouble "" []
      | .ok stdout => return .success stdout []

/-- The counts of a batch, for standard output. -/
def summaryLines (summary : Batch.Summary) : List String :=
  ["Hardened: " ++ toString summary.hardened ++ "\n",
    "Skipped:  " ++ toString summary.skipped ++ "\n",
    "Failed:   " ++ toString summary.failed ++ "\n"]

/-- Prints lines one by one until one is refused. Tells what has been taken. -/
def printLines [Monad m] (files : Access m) : List String → m (String × Except OsError Unit)
  | [] => return ("", .ok ())
  | line :: lines => do
    match ← files.print line with
    | .error cause => return ("", .error cause)
    | .ok () =>
      let (taken, result) ← printLines files lines
      return (line ++ taken, result)

def runBatch [Monad m] (files : Access m) (config : Config) (order : List Nat)
    (directory out : String) : m Outcome := do
  let begun : Log.Line := ⟨.info, "Hardening Dockerfiles in " ++ Text.quote directory⟩
  let batch ← Batch.hardenDirectory files config order directory out
  let logs := begun :: batch.logs
  match batch.result with
  | .error trouble => return .stopped trouble "" logs
  | .ok summary =>
    match ← printLines files (summaryLines summary) with
    | (stdout, .error cause) => return .aborted cause stdout logs
    | (stdout, .ok ()) =>
      if summary.failed > 0 then
        return .stopped (.filesFailed summary.failed) stdout logs
      else
        return .success stdout logs

/-- Runs a request. The stamp marks the report, and the order is that of the steps of a batch. -/
def run [Monad m] (files : Access m) (stdin : m (Except OsError String)) (stamp : m Stamp)
    (order : List Nat) (request : Request) : m Outcome := do
  match ← loadConfig files request.config with
  | .error trouble => return .stopped trouble "" []
  | .ok config =>
    match request.action with
    | .harden input out report => runHarden files stdin stamp config input out report
    | .compare input html out => runCompare files stdin config input html out
    | .batch directory out => runBatch files config order directory out

def versionText : String := "dockharden 0.1.0\n"

/-- Prints a text about the command itself; that it is refused is not told. -/
def runNotice [Monad m] (files : Access m) (text : String) : m Outcome := do
  match ← files.print text with
  | .ok () => return .success text []
  | .error _ => return .success "" []

/-- Runs a whole command line. -/
def runArguments [Monad m] (files : Access m) (stdin : m (Except OsError String))
    (stamp : m Stamp) (order : List Nat) (arguments : List String) : m Outcome :=
  match Invocation.ofArguments? arguments with
  | none => return .badUsage
  | some .version => runNotice files versionText
  | some .help => runNotice files usageText
  | some (.run request) => run files stdin stamp order request

end Hardening.Command
