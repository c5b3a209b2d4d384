/-!
# Log entries

What happens on the way to a result is noted in entries, each with a level of importance. A
computation that makes notes gives them beside its value.
-/

namespace UserAgent

/-- The importance of a log entry. -/
inductive Level where
  | debug
  | info
  | warning
  | error
deriving DecidableEq, Repr

namespace Level

/-- The name of a level. -/
def name : Level → String
  | debug => "DEBUG"
  | info => "INFO"
  | warning => "WARNING"
  | error => "ERROR"

/-- The rank of a level. -/
def rank : Level → Nat
  | debug => 0
  | info => 1
  | warning => 2
  | error => 3

end Level

/-- A note on what has happened. -/
structure LogEntry where
  level : Level
  message : String
deriving DecidableEq, Repr

namespace LogEntry

/-- An entry on one line, after the name of its level. -/
def line (e : LogEntry) : String :=
  e.level.name ++ ": " ++ e.message

/-- Whether an entry is at least as important as a level. -/
def reaches (level : Level) (e : LogEntry) : Bool :=
  level.rank ≤ e.level.rank

end LogEntry

/-- A value together with the notes that were made on the way to it. -/
structure Logged (α : Type u) where
  value : α
  log : List LogEntry := []

namespace Logged

/-- Change the value. -/
def map {α β : Type} (f : α → β) (x : Logged α) : Logged β :=
  ⟨f x.value, x.log⟩

/-- Go on with the value; the notes of the first part come first. -/
def bind {α β : Type} (x : Logged α) (f : α → Logged β) : Logged β :=
  let y := f x.value
  ⟨y.value, x.log ++ y.log⟩

instance : Monad Logged where
  pure value := ⟨value, []⟩
  map := map
  bind := bind

instance : LawfulMonad Logged :=
  LawfulMonad.mk' Logged
    (fun _ => rfl)
    (fun _ _ => rfl)
    (fun _ _ _ => congrArg (Logged.mk _) (List.append_assoc ..))
    (fun _ _ => rfl)
    (fun _ _ => rfl)
    (fun _ _ => rfl)
    (fun _ _ => congrArg (Logged.mk _) (List.append_nil _))
    (fun _ _ => rfl)

/-- Make a note. -/
def note (level : Level) (message : String) : Logged Unit :=
  ⟨(), [⟨level, message⟩]⟩

end Logged

end UserAgent
