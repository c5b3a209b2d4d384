import UserAgent.Files.Tree
import UserAgent.Host

/-!
# Machines as values

A machine whose state is a value: its files, its variables, and what was written to its outputs. On
it the effect of a program is a function.
-/

namespace UserAgent

/-- The state of a machine. -/
structure Machine where
  files : FileTree := {}
  environment : Assoc String String := []
  /-- What standard input holds. -/
  input : String := ""
  /-- Whether a carriage return in standard input, alone or before a line feed, is read as a line
  feed, as some systems have it. -/
  unifiesLineEnds : Bool := true
  terminal : Bool := false
  time : String := ""
  output : String := ""
  errors : String := ""
deriving DecidableEq

namespace Machine

/-- The text that is read from standard input. -/
def inputText (machine : Machine) : String :=
  if machine.unifiesLineEnds then Text.normalizeLines machine.input else machine.input

/-- Change the files of a machine, if that is possible. -/
def changeFiles (change : FileTree → Except FileError FileTree) :
    StateM Machine (Except FileError Unit) :=
  fun machine =>
    match change machine.files with
    | .ok files => (.ok (), { machine with files })
    | .error e => (.error e, machine)

/-- On a machine as a value no time passes. -/
instance : Host (StateM Machine) where
  pathExists path := fun machine => ((machine.files.lookup? path).isSome, machine)
  isDirectory path := fun machine => (machine.files.lookup? path == some .directory, machine)
  readBytes path := fun machine => (machine.files.read path, machine)
  writeBytes path content := changeFiles (·.write path content)
  appendBytes path content := changeFiles (·.append path content)
  makeDirectory path := changeFiles (·.makeDirectory path)
  lookupVariable name := fun machine => (Assoc.get? name machine.environment, machine)
  readInput := fun machine => (machine.inputText, machine)
  print text := fun machine => ((), { machine with output := machine.output ++ text })
  printError text := fun machine => ((), { machine with errors := machine.errors ++ text })
  isTerminal := fun machine => (machine.terminal, machine)
  time := fun machine => (machine.time, machine)
  nanoseconds := fun machine => (0, machine)

end Machine

end UserAgent
