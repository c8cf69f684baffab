import ServerConfig.Command.Run
import Std.Time.DateTime.PlainDateTime
import Std.Time.DateTime.Timestamp

/-!
# The program

The outer layer of the command: it looks up the environment, the time and the
file that the command is about to read, runs the command, and writes what that
answers.
-/

namespace ServerConfig.Main

open Command

/-- Where the system keeps the environment of the program. -/
def environmentFile : String := "/proc/self/environ"

def readEnvironment : IO Environment := do
  let block ← IO.FS.readBinFile environmentFile
  return .ofBlock ((String.fromUTF8? block).getD "")

def readTime : IO Log.Timestamp := do
  let now ← Std.Time.Timestamp.now
  let clock := Std.Time.PlainDateTime.ofWallTime (.ofDuration now.toDurationSinceUnixEpoch)
  let date : Date := ⟨clock.year.toInt.toNat, clock.month.toNat, clock.day.toNat⟩
  let time : TimeOfDay :=
    ⟨clock.hour.toNat, clock.minute.toNat, clock.second.toNat, clock.nanosecond.toNat / 1000⟩
  return .ofUniversal date time

/-- Why the system refuses to read a file. -/
def unavailable : IO.Error → Unavailable
  | .noFileOrDirectory _ _ _ => .missing
  | error =>
      let reasons : List Unavailable := [.isDirectory, .notADirectory, .nameTooLong]
      let words := (toString error).toLower
      (reasons.find? fun cause => (words.splitOn cause.reason.toLower).length ≠ 1).getD
        (.other (toString error))

def readContents (path : FilePath) : IO (Except Unavailable ByteArray) := do
  try
    return .ok (← IO.FS.readBinFile path.toText)
  catch error => return .error (unavailable error)

/-- The contents of the file that a plan reads. -/
def readSource (plan : Plan) : IO (Except Unavailable ByteArray) :=
  match plan.source with
  | .packaged => return .error .missing
  | .file path => readContents path

/-- How to start the command. -/
def usageText : String :=
  "usage: plikd-config [-h] [--config CONFIG] [--no-env] [--public]"

/-- Write a line to standard error. -/
def complain (line : String) : IO Unit := do
  (← IO.getStderr).putStrLn line

/-- Write what the command answers.  The result is the exit status. -/
def conclude : Outcome → IO UInt32
  | .rejected faults => do
      for fault in faults do
        complain ("invalid bootstrap setting: " ++ fault.kind.code)
      return 1
  | .usage .help => do
      IO.println usageText
      return 0
  | .usage .wrong => do
      complain usageText
      return 2
  | .finished status output log _ => do
      (← IO.getStderr).putStr log
      IO.print output
      return UInt32.ofNat status
  | .aborted cause => do
      complain cause.message
      return 1
  | .unreportable cause => do
      complain cause.message
      return 1

def runCommand (arguments : List String) : IO UInt32 := do
  let environment ← readEnvironment
  match Plan.make arguments environment with
  | .error outcome => conclude outcome
  | .ok plan =>
      let contents ← readSource plan
      let time ← readTime
      conclude (plan.carryOut { arguments, environment, read := fun _ => contents, time })

end ServerConfig.Main

def main (arguments : List String) : IO UInt32 :=
  ServerConfig.Main.runCommand arguments
