/-!
# Names of characters

A pattern may write a character by its name. The table of the names is long and comes from elsewhere,
so what depends on it is given it as an instance.
-/

namespace UserAgent

/-- A table of the names of characters. -/
class CharacterNames where
  /-- The character with a name. -/
  character? : String → Option Char

/-- Where no table is given, no character has a name. -/
instance (priority := low) noCharacterNames : CharacterNames where
  character? _ := none

end UserAgent
