import UserAgent.Host
import UserAgent.Log
import UserAgent.Output.ResultLog

/-!
# Journals

The program notes what it does in a file, and unless it is quiet also on the error output. A second file
has a line for every result. Entries below the level that was asked for are left out.
-/

namespace UserAgent.CommandLine

/-- Where the program notes what it does. -/
structure Journal where
  directory : Path
  level : Level
  quiet : Bool
deriving DecidableEq

/-- The level down to which entries are noted. -/
def levelOf : (verbosity : Nat) → Level
  | 0 => .warning
  | 1 => .info
  | _ => .debug

namespace Journal

/-- The file for what the program does. -/
def mainFile (j : Journal) : Path :=
  j.directory.child "main.log"

/-- The file for results. -/
def resultsFile (j : Journal) : Path :=
  j.directory.child "results.log"

/-- The name of a level at the width of a column. -/
def levelColumn (level : Level) : String :=
  level.name ++ String.ofList (List.replicate (8 - level.name.length) ' ')

/-- The line of an entry in the main file. The columns that name the part of the program and the line of
its text that made the entry are left out. -/
def mainLine (time : String) (entry : LogEntry) : String :=
  time ++ " | " ++ levelColumn entry.level ++ " | " ++ entry.message ++ "\n"

/-- The line of a result in its file. -/
def resultLine (time message : String) : String :=
  time ++ " | " ++ levelColumn .info ++ " | RESULT | " ++ message ++ "\n"

variable {m : Type → Type} [Monad m] [Host m]

/-- Make the files, unless they exist, and their directory. -/
def prepare (j : Journal) : m (Except FileError Unit) := do
  match ← Host.makeDirectories j.directory with
  | .error e => return .error e
  | .ok () =>
    match ← Host.appendBytes j.mainFile [] with
    | .error e => return .error e
    | .ok () => Host.appendBytes j.resultsFile []

/-- Note an entry. -/
def write (j : Journal) (entry : LogEntry) : m Unit := do
  if entry.reaches j.level then
    let _ ← Host.appendBytes j.mainFile (Utf8.encode (mainLine (← Host.time) entry))
    if !j.quiet then Host.printErrorLine entry.line

/-- Note the entries that were made on the way to a value. -/
def follow {α : Type} (j : Journal) (x : Logged α) : m α := do
  x.log.forM j.write
  return x.value

/-- Note a result, with the nanoseconds that it has taken. -/
def writeResult (j : Journal) (r : Classification) (nanoseconds : Nat) : m Unit := do
  let milliseconds := Binary64.ofQuotient false nanoseconds 1000000
  let line := resultLine (← Host.time) (ResultLog.classified r milliseconds)
  let _ ← Host.appendBytes j.resultsFile (Utf8.encode line)

end Journal

end UserAgent.CommandLine
