/-!
# Faults of patterns

Why a pattern or a replacement template is refused. Most faults are described by one phrase; the
limits that are not faults of the grammar are described in words of their own.
-/

namespace UserAgent.Regex

/-- Why a pattern is refused. -/
inductive Fault where
  | danglingEscape
  | unknownEscape
  | octalOutOfRange
  | unterminatedSet
  | badRange
  | nothingToRepeat
  | multipleRepeat
  | emptyCountRange
  | unterminatedGroup
  | unknownGroupKind
  | unterminatedComment
  | badGroupName
  | repeatedGroupName
  | unknownGroup
  | openGroup
  | groupOfLookbehind
  | badFlags
  | misplacedFlags
  | unbalancedParenthesis
  | variableLookbehind
  /-- A repetition count that is out of range. -/
  | countTooLarge
  /-- A repetition count with more digits than are converted. -/
  | tooManyDigits (count : Nat)
  /-- Flags at the start of the pattern that exclude each other. -/
  | conflictingFlags
deriving DecidableEq, Repr

/-- The phrase for a fault of the grammar of patterns or templates. -/
def grammarMessage : String := "<regex error>"

end UserAgent.Regex
