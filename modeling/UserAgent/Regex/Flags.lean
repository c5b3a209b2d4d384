import UserAgent.Regex.CharSet

/-!
# Flags of patterns

Flags change what a pattern means, from its start for the whole pattern or inside one group.
-/

namespace UserAgent.Regex

/-- The flags of a pattern. -/
structure Flags where
  /-- Classes and case are those of ASCII. -/
  ascii : Bool := false
  /-- Letters match in either case. -/
  ignoreCase : Bool := false
  /-- Line anchors match at every line. -/
  multiline : Bool := false
  /-- The dot matches line breaks too. -/
  dotAll : Bool := false
  /-- Blanks and comments in the pattern do not count. -/
  verbose : Bool := false
  /-- Classes and case are asked for in full, which is what they are without `ascii`. -/
  unicode : Bool := false
deriving DecidableEq, Repr, Inhabited

namespace Flags

/-- The flag that a letter stands for. -/
def ofLetter? : Char → Option Flags
  | 'a' => some { ascii := true }
  | 'i' => some { ignoreCase := true }
  | 'm' => some { multiline := true }
  | 's' => some { dotAll := true }
  | 'x' => some { verbose := true }
  | 'u' => some { unicode := true }
  | _ => none

/-- The flags that are set in one of two. -/
def union (f g : Flags) : Flags where
  ascii := f.ascii || g.ascii
  ignoreCase := f.ignoreCase || g.ignoreCase
  multiline := f.multiline || g.multiline
  dotAll := f.dotAll || g.dotAll
  verbose := f.verbose || g.verbose
  unicode := f.unicode || g.unicode

/-- The flags of `f` that are not set in `g`. -/
def diff (f g : Flags) : Flags where
  ascii := f.ascii && !g.ascii
  ignoreCase := f.ignoreCase && !g.ignoreCase
  multiline := f.multiline && !g.multiline
  dotAll := f.dotAll && !g.dotAll
  verbose := f.verbose && !g.verbose
  unicode := f.unicode && !g.unicode

/-- The flags that are set in both of two. -/
def inter (f g : Flags) : Flags :=
  f.diff (f.diff g)

/-- The flags that choose between ASCII and all characters, of which at most one is set. -/
def range : Flags := { ascii := true, unicode := true }

/-- Whether both flags are set that exclude each other. -/
def conflicting (f : Flags) : Bool :=
  f.ascii && f.unicode

/-- The flags inside a group that adds and removes flags. -/
def within (f added removed : Flags) : Flags :=
  let base := if added.inter range == {} then f else f.diff range
  (base.union added).diff removed

/-- The letters of the flags that are set, in a fixed order. -/
def letters (f : Flags) : List Char :=
  [('a', f.ascii), ('i', f.ignoreCase), ('m', f.multiline), ('s', f.dotAll), ('x', f.verbose)].filterMap
    fun (letter, isSet) => if isSet then some letter else none

/-- How letters are compared under the flags. -/
def folding (f : Flags) : Folding :=
  if f.ignoreCase then (if f.ascii then .ascii else .full) else .exact

end Flags

end UserAgent.Regex
