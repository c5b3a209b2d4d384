import Std.Time
import UserAgent.CommandLine.Run

/-!
# The program

The machine that the program runs on, and its entry point.
-/

namespace UserAgent.Program

/-- The cause of a failed file operation, if it is one that is told apart. -/
def causeOf : IO.Error → Option FileCause
  | .noFileOrDirectory .. => some .notFound
  | .alreadyExists .. => some .alreadyExists
  | .inappropriateType _ code _ =>
    some (if code = 21 then .isDirectory else .notDirectory)
  | _ => none

/-- Run an operation on a path, and tell why it fails. -/
def attempt {α : Type} (path : Path) (operation : String → IO α) : IO (Except FileError α) := do
  try
    return .ok (← operation path.toText)
  catch e =>
    match causeOf e with
    | some cause => return .error ⟨cause, path⟩
    | none => throw e

/-- Whether a file or directory can be opened. -/
def opens (text : String) : IO Bool := do
  try
    let _ ← IO.FS.Handle.mk text .read
    return true
  catch _ => return false

/-- The local date and time of day, down to microseconds. -/
def now : IO String := do
  let moment ← Std.Time.PlainDateTime.now
  return String.ofList (moment.toLeanDateTimeString.toList.take 26)

/-- Read a stream to its end, in parts. -/
partial def readAll (stream : IO.FS.Stream) (read : ByteArray) : IO ByteArray := do
  let part ← stream.read 65536
  if part.isEmpty then return read else readAll stream (read ++ part)

/-- The text of standard input. -/
def inputText : IO String := do
  match Utf8.decode (← readAll (← IO.getStdin) .empty).data.toList with
  | .ok text => return text
  | .error fault => throw (IO.userError fault.message)

/-- The machine that the program runs on. -/
instance : Host IO where
  pathExists path := opens path.toText
  isDirectory path := opens (path.toText ++ "/.")
  readBytes path := attempt path fun text => return (← IO.FS.readBinFile text).data.toList
  writeBytes path content := attempt path fun text => IO.FS.writeBinFile text ⟨content.toArray⟩
  appendBytes path content := attempt path fun text => do
    (← IO.FS.Handle.mk text .append).write ⟨content.toArray⟩
  makeDirectory path := attempt path fun text => IO.FS.createDir text
  lookupVariable name := IO.getEnv name
  readInput := inputText
  print text := do (← IO.getStdout).putStr text
  printError text := do (← IO.getStderr).putStr text
  isTerminal := do (← IO.getStdout).isTty
  time := now
  nanoseconds := IO.monoNanosNow

/-- The directory of the program if a configuration names none. -/
def directory : IO Path := do
  let path := Path.ofText ((← IO.getEnv Config.directoryVariable).getD Config.directoryDefault)
  return (path.expandHome? (← IO.getEnv Config.homeVariable)).getD path

/-- Print why the program cannot go on. -/
def fail (message : String) : IO UInt32 := do
  Host.printErrorLine ("uaparse: " ++ message)
  return 1

/-- The exit code for the way in which a run ends. -/
def exitCode : CommandLine.Ending → IO UInt32
  | .stopped .misuse => return 2
  | .stopped _ => return 0
  | .exited code => return UInt32.ofNat code
  | .misconfigured e => fail e.message
  | .failed (.setup e) => fail e.message
  | .failed (.file e) => fail e.message

end UserAgent.Program

/-- Run the program on its arguments. -/
def main (arguments : List String) : IO UInt32 := do
  UserAgent.Program.exitCode
    (← UserAgent.CommandLine.run (← UserAgent.Program.directory) arguments)
