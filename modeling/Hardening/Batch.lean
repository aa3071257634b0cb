import Hardening.Files.Access
import Hardening.Harden
import Hardening.Log
import Hardening.Text.Lead
import Hardening.Trouble

/-!
# Batches

A batch hardens every build file directly inside a directory and writes the results under the same
names into another one. Each file is a task of up to three steps: it is read, its result is written,
and once it has ended it is joined, which is when its ending is counted. The steps of different tasks
may come in any order; the order is an argument, and whatever it leaves over is done at the end. No
task reads where another one writes.
-/
namespace Hardening.Batch

open Files (Access)

/-- The name of a path marks a build file. -/
def isBuildFile (path : String) : Bool :=
  match Files.Path.fileName? path with
  | some name =>
    name = "Dockerfile" || Text.leads "Dockerfile." name || Text.trails ".Dockerfile" name
  | none => false

/-- How the work on one file ended. -/
inductive Ending where
  | hardened (changes : Nat)
  /-- The file has no content. -/
  | skipped
  | failed (trouble : Trouble)
  deriving Repr, DecidableEq

inductive Progress where
  | waiting
  /-- Read and hardened, not yet written. -/
  | hardened (result : Hardened)
  | ended (ending : Ending)
  /-- Ended and counted. -/
  | joined (ending : Ending)
  deriving Repr, DecidableEq

/-- The work on one file. -/
structure Task where
  source : String
  target : String
  progress : Progress := .waiting
  deriving Repr, DecidableEq

namespace Task

/-- What a task does with the text of its file. -/
def afterReading (config : Config) (source : String) : Except OsError String → Progress
  | .error cause => .ended (.failed (.badInput source cause))
  | .ok content =>
    match hardenChecked config content with
    | .ok result => .hardened result
    | .error failure =>
      .ended (if failure.isInvalidInput then .skipped else .failed (.refused failure))

def afterWriting (target : String) (changes : Nat) : Except OsError Unit → Ending
  | .ok () => .hardened changes
  | .error cause => .failed (.badOutput target cause)

/-- Does the next step of a task on its own; a task that has ended does nothing. -/
def step [Monad m] (files : Access m) (config : Config) (task : Task) : m Task := do
  match task.progress with
  | .waiting =>
    let read ← files.readText task.source
    return { task with progress := afterReading config task.source read }
  | .hardened result =>
    let written ← files.writeText task.target result.content
    return { task with
      progress := .ended (afterWriting task.target result.report.changes.length written) }
  | .ended _ | .joined _ => return task

end Task

/-- The tasks of a batch, and the endings of those that have been joined, in the order of joining. -/
structure Pool where
  tasks : List Task
  joined : List (String × Ending) := []
  deriving Repr, DecidableEq

/-- Does the next step of the task at an index: a task that has ended is joined. -/
def Pool.stepAt [Monad m] (files : Access m) (config : Config) (pool : Pool) (index : Nat) :
    m Pool := do
  match pool.tasks[index]? with
  | none => return pool
  | some task =>
    match task.progress with
    | .ended ending =>
      return {
        tasks := pool.tasks.set index { task with progress := .joined ending }
        joined := pool.joined ++ [(task.source, ending)] }
    | _ => return { pool with tasks := pool.tasks.set index (← task.step files config) }

/-- As many steps of each task as it can have. -/
def allSteps (tasks : List Task) : List Nat :=
  (List.range tasks.length).flatMap (List.replicate 3)

/-- Does steps in the given order of tasks, and then what each task still lacks. The result names the
files with their endings, in the order of joining. -/
def run [Monad m] (files : Access m) (config : Config) (order : List Nat) (tasks : List Task) :
    m (List (String × Ending)) := do
  let pool ← (order ++ allSteps tasks).foldlM (Pool.stepAt files config) { tasks }
  return pool.joined

/-- How many files ended in which way. -/
structure Summary where
  hardened : Nat := 0
  skipped : Nat := 0
  failed : Nat := 0
  deriving Repr, DecidableEq

def Summary.count (summary : Summary) : Ending → Summary
  | .hardened _ => { summary with hardened := summary.hardened + 1 }
  | .skipped => { summary with skipped := summary.skipped + 1 }
  | .failed _ => { summary with failed := summary.failed + 1 }

def Summary.ofEndings (endings : List Ending) : Summary :=
  endings.foldl Summary.count {}

/-- What is logged about a file. -/
def endingLine (source : String) : Ending → Log.Line
  | .hardened changes =>
    ⟨.info, "Hardened " ++ Text.quote source ++ " (" ++ toString changes ++ " changes)"⟩
  | .skipped => ⟨.warn, "Skipped " ++ Text.quote source ++ ": no Dockerfile content"⟩
  | .failed trouble =>
    ⟨.error, "Failed to harden " ++ Text.quote source ++ ": " ++ trouble.fullText⟩

/-- The task for a file name. -/
def taskFor (directory out name : String) : Task where
  source := Files.Path.join directory name
  target := Files.Path.join out name

/-- The result of a batch and what was logged about it. -/
structure Outcome where
  result : Except Trouble Summary
  logs : List Log.Line

/-- The tasks of a batch, after the checks on its two directories. No tasks are left to do, and
nothing is made, if the directory has no build file. -/
def prepare [Monad m] (files : Access m) (directory out : String) :
    m (Except Trouble (List Task)) := do
  match ← files.listFiles directory with
  | .error cause => return .error (.badDirectory directory cause)
  | .ok names =>
    let names := names.filter isBuildFile
    if names.isEmpty then
      return .ok []
    match ← files.makeDirectories out with
    | .error cause => return .error (.noDirectory out cause)
    | .ok () =>
      -- Both directories exist by now, so every spelling of a path leads somewhere.
      match ← files.resolve directory, ← files.resolve out with
      | .error cause, _ | _, .error cause => return .error (.unresolved cause)
      | .ok source, .ok target =>
        if source = target then
          return .error .sameDirectory
        else
          return .ok (names.map (taskFor directory out))

/-- Hardens the build files of a directory into another one. -/
def hardenDirectory [Monad m] (files : Access m) (config : Config) (order : List Nat)
    (directory out : String) : m Outcome := do
  match ← prepare files directory out with
  | .error trouble => return ⟨.error trouble, []⟩
  | .ok [] =>
    return ⟨.ok {}, [⟨.warn, "No Dockerfiles found in " ++ Text.quote directory⟩]⟩
  | .ok tasks =>
    let joined ← run files config order tasks
    return {
      result := .ok (.ofEndings (joined.map Prod.snd))
      logs := joined.map fun (source, ending) => endingLine source ending }

end Hardening.Batch
