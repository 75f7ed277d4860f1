import ProfileBrowser.CommandLine.Run
import Std.Time.DateTime.Timestamp
/-!
# The program

A run on the disk, with the environment of the process and the clock of the machine.
-/

namespace ProfileBrowser.Program

/-- The number of the error that stands for all that have no number here. -/
def otherError : Nat := 5

/-- The operating system's number of an error. -/
def errorNumber : IO.Error → Nat
  | .alreadyExists _ code _ | .hardwareFault code _ | .illegalOperation code _
  | .inappropriateType _ code _ | .interrupted _ code _ | .invalidArgument _ code _
  | .noFileOrDirectory _ code _ | .noSuchThing _ code _ | .otherError code _
  | .permissionDenied _ code _ | .protocolError code _ | .resourceBusy code _
  | .resourceExhausted _ code _ | .resourceVanished code _ | .timeExpired code _
  | .unsatisfiedConstraints code _ | .unsupportedOperation code _ => code.toNat
  | .unexpectedEof | .userError _ => otherError

/-- An action on the file with a path. -/
def atPath {α : Type} (path : String) (action : IO α) : BaseIO (Except FileFault α) := do
  if path.toList.contains (Char.ofNat 0) then return .error .zeroInPath
  else return (← action.toBaseIO).mapError fun e => .system (errorNumber e)

/-- The files of the disk. -/
def disk : Files BaseIO where
  isFile path := do return (← (IO.FS.readBinFile path).toBaseIO).toBool
  read path := atPath path do return (← IO.FS.readBinFile path).toList
  touch path := atPath path do
    let _ ← IO.FS.Handle.mk path .append
  write path text := atPath path (IO.FS.writeFile path text)

/-- The file in which a process finds its environment: a name, an equals sign and a value, each
ended by a zero byte. -/
def environmentFile : String := "/proc/self/environ"

/-- A variable out of its bytes. -/
def readVariable? (bytes : List UInt8) : Option (String × String) := do
  let cs ← (Text.readUtf8 bytes).toOption
  return (String.ofList (cs.takeWhile (· ≠ '=')), String.ofList ((cs.dropWhile (· ≠ '=')).drop 1))

/-- The variables of the environment. -/
def environment : BaseIO (List (String × String)) := do
  match ← disk.read environmentFile with
  | .error _ => return []
  | .ok bytes => return (bytes.splitOn 0).filterMap readVariable?

/-- The time of day in nanoseconds from the epoch. -/
def now : IO Int := do
  return (← Std.Time.Timestamp.now).toNanosecondsSinceUnixEpoch.val

end ProfileBrowser.Program

open ProfileBrowser in
/-- Runs the program and says what there is to say. -/
def main (arguments : List String) : IO UInt32 := do
  let environment ← Program.environment
  let now ← Program.now
  let report ← liftM (CommandLine.run Program.disk environment now arguments)
  for line in report.output do IO.println line
  for line in report.complaints do IO.eprintln line
  return UInt32.ofNat report.exit
