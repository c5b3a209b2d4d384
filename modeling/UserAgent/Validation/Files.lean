import UserAgent.Host
import UserAgent.Validation

/-!
# Validation of files

The program that validates files of rule tables: it prints a report on every file and gives back
whether a fault was found.
-/

namespace UserAgent.Validation

/-- Why files are not validated. -/
inductive FileFailure where
  | unreadable (error : FileError)
  | encoding (fault : Utf8.Fault)
  | invalid (error : ValidationError)
deriving DecidableEq

variable {m : Type → Type} [Monad m] [Host m] [CharacterNames]

/-- The report on a file. -/
def fileReport (path : Path) : m (Except FileFailure ValidationReport) := do
  match ← (Host.readText path).run with
  | .ok text => return (textReport text).mapError .invalid
  | .error (.file e) => return .error (.unreadable e)
  | .error (.encoding fault) => return .error (.encoding fault)

/-- The lines of a report on a file. -/
def reportLines (path : Path) (report : ValidationReport) : List String :=
  let rules := path.toText ++ ": " ++ toString report.count ++ " rules, "
  match report.findings with
  | [] => [rules ++ "all valid"]
  | findings =>
    ("\n" ++ rules ++ toString findings.length ++ " error(s)") ::
      findings.map ("  - " ++ ·.message)

/-- Print reports on files and give back the number of faults. -/
def reportFiles : List Path → m (Except FileFailure Nat)
  | [] => return .ok 0
  | path :: rest => do
    if ← Host.pathExists path then
      match ← fileReport path with
      | .error failure => return .error failure
      | .ok report =>
        (reportLines path report).forM (Host.printLine (m := m))
        return (← reportFiles rest).map (report.findings.length + ·)
    else
      Host.printLine ("ERROR: File not found: " ++ path.toText)
      return (← reportFiles rest).map (1 + ·)

/-- Validate the files that are named, and give back the exit code. -/
def run (program : String) (arguments : List String) : m (Except FileFailure Nat) := do
  if arguments.isEmpty then
    Host.printLine ("Usage: " ++ program ++ " <rule_file.json> [...]")
    return .ok 1
  else
    match ← reportFiles (arguments.map .ofText) with
    | .error failure => return .error failure
    | .ok 0 =>
      Host.printLine "\nAll rule files valid."
      return .ok 0
    | .ok count =>
      Host.printLine ("\nTotal errors: " ++ toString count)
      return .ok 1

end UserAgent.Validation
