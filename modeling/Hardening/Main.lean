import Hardening.Command.Run
import Hardening.Time.Clock
import Std.Time.DateTime.Timestamp

/-!
# The command

The outermost layer: files, standard streams, clock and random bytes of the running system. What is
done with them is decided by `Command.runArguments`.
-/
namespace Hardening

open Files (Access)

/-- The cause with a number of the system, in whose words it is told if it has no name here. Some
calls give the number with a minus sign. -/
def OsError.ofCode (code : UInt32) (text : String) : OsError :=
  match code.toInt32.toInt.natAbs with
  | 2 => .notFound
  | 17 => .alreadyExists
  | 20 => .notDirectory
  | 21 => .isDirectory
  | 36 => .nameTooLong
  | number => .other (text ++ " (os error " ++ toString number ++ ")")

def OsError.ofSystem : IO.Error → OsError
  | .alreadyExists _ code text | .noFileOrDirectory _ code text | .invalidArgument _ code text
  | .permissionDenied _ code text | .resourceExhausted _ code text | .inappropriateType _ code text
  | .noSuchThing _ code text | .interrupted _ code text | .otherError code text
  | .resourceBusy code text | .resourceVanished code text | .unsupportedOperation code text
  | .hardwareFault code text | .unsatisfiedConstraints code text | .illegalOperation code text
  | .protocolError code text | .timeExpired code text => .ofCode code text
  | error => .other (toString error)

/-- Does something with the file system and tells a failure by its cause. -/
def attempt (action : IO α) : IO (Except OsError α) := do
  match ← action.toBaseIO with
  | .ok value => return .ok value
  | .error error => return .error (.ofSystem error)

/-- The text that bytes encode. -/
def decoded (bytes : Except OsError ByteArray) : Except OsError String := do
  match String.fromUTF8? (← bytes) with
  | some text => return text
  | none => throw .notUtf8

/-- Access to the files of the system. -/
def systemFiles : Access IO where
  readText path := return decoded (← attempt (IO.FS.readBinFile path))
  writeText path content := attempt (IO.FS.writeFile path content)
  listFiles path := attempt do
    let entries ← (← IO.FS.realPath path).readDir
    let files ← entries.toList.filterM fun entry => do
      return (← entry.path.symlinkMetadata).type == .file
    return (files.map (·.fileName)).mergeSort (· ≤ ·)
  makeDirectories path := attempt (IO.FS.createDirAll path)
  resolve path := attempt do
    return Files.Path.segments (← IO.FS.realPath path).toString
  print text := attempt do
    let stdout ← IO.getStdout
    stdout.putStr text
    stdout.flush

def systemInput : IO (Except OsError String) := do
  return decoded (← attempt (← IO.getStdin).readBinToEnd)

/-- A fresh identifier and the present time. -/
def systemStamp : IO Stamp := do
  let bytes ← IO.getRandomBytes 16
  let clock := (← Std.Time.Timestamp.now).toNanosecondsSinceUnixEpoch.val.toNat
  return { id := Stamp.idOfBytes bytes.toList, time := .ofClock clock }

/-- Logs and notices go to standard error, after the output, which has been printed by then. -/
def emit (outcome : Command.Outcome) : IO Unit := do
  for line in outcome.logs do
    IO.eprintln (line.level.name ++ " " ++ line.text)
  if let some notice := outcome.notice then
    IO.eprintln notice

end Hardening

def main (arguments : List String) : IO UInt32 := do
  let outcome ←
    Hardening.Command.runArguments Hardening.systemFiles Hardening.systemInput
      Hardening.systemStamp [] arguments
  Hardening.emit outcome
  return outcome.exit.toUInt32
