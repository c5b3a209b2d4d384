import UserAgent.Unicode.Alphanumeric
import UserAgent.Unicode.Blank
import UserAgent.Unicode.Cased
import UserAgent.Unicode.Digit

/-!
# Character tests

A pattern tests one character against a literal or against a set. Under a folding, which ignores
case, the character is lowered first, and a literal stands for its lower case and for the other
lower-case letters of the same upper case. What has no case is compared exactly.
-/

namespace UserAgent.Regex

open Unicode

/-! ### Folding -/

/-- How far the case of letters is ignored: not at all, for ASCII letters, or for all letters. -/
inductive Folding where
  | exact
  | ascii
  | full
deriving DecidableEq, Repr

namespace Folding

/-- The lower case under a folding. -/
def lower : Folding → Nat → Nat
  | .exact, n => n
  | .ascii, n => asciiLower n
  | .full, n => lowerCode n

/-- Whether a folding identifies a code point with some other one. -/
def cases : Folding → Nat → Bool
  | .exact, _ => false
  | .ascii, n => isAsciiLetter n
  | .full, n => isCased n

/-- Whether a folding identifies some code point from `low` to `high` with another one. -/
def casesRange : Folding → Nat → Nat → Bool
  | .exact, _, _ => false
  | .ascii, low, high => (low ≤ 0x5a && 0x41 ≤ high) || (low ≤ 0x7a && 0x61 ≤ high)
  | .full, low, high => rangeIsCased low high

/-- The lower-case code points that a lowered code point is identified with. -/
def variants : Folding → Nat → List Nat
  | .full, n => n :: caseSiblings n
  | _, n => [n]

/-- The code points whose lower case under the folding is `n`. -/
def sources : Folding → Nat → List Nat
  | .exact, n => [n]
  | .ascii, n => if isAsciiLetter n then (if n < 0x60 then [] else [n, n - 0x20]) else [n]
  | .full, n => lowerSources n

/-- The folding to use for one code point: exact comparison when it has no case. -/
def forCode (f : Folding) (n : Nat) : Folding :=
  if f.cases n then f else .exact

end Folding

/-- Whether the character `c` is the literal `code` under a folding. -/
def matchesCode (f : Folding) (code c : Nat) : Bool :=
  (f.variants (f.lower code)).contains (f.lower c)

/-! ### Classes -/

/-- The kinds of characters that have a class of their own. -/
inductive ClassKind where
  | digit
  | blank
  | word
deriving DecidableEq, Repr

/-- A class of characters or its complement, among all characters or the ASCII ones. -/
structure CharClass where
  kind : ClassKind
  negated : Bool
  ascii : Bool
deriving DecidableEq, Repr

/-- Whether a code point belongs to a class. -/
def CharClass.contains (c : CharClass) (n : Nat) : Bool :=
  let member := match c.kind, c.ascii with
    | .digit, true => isAsciiDigit n
    | .digit, false => isDigit n
    | .blank, true => isAsciiBlank n
    | .blank, false => isBlank n
    | .word, true => isAsciiWord n
    | .word, false => isWord n
  member != c.negated

/-! ### Sets -/

/-- A part of a set. -/
inductive SetItem where
  | code (n : Nat)
  | range (low high : Nat)
  | ofClass (c : CharClass)
deriving DecidableEq, Repr

/-- The greatest code point of the basic plane. Items beyond it are not spread over their case
variants. -/
def basicPlane : Nat := 0xffff

namespace SetItem

/-- Whether a folding has an effect on an item. -/
def isCased (f : Folding) : SetItem → Bool
  | .code n => f != .exact && (f.cases n || basicPlane < f.lower n)
  | .range low high => f != .exact && (basicPlane < high || f.casesRange low high)
  | .ofClass _ => false

/-- Whether a lowered code point belongs to an item. -/
def contains (f : Folding) (n : Nat) : SetItem → Bool
  | .code member =>
    if f == .exact || basicPlane < f.lower member then n == member
    else (f.variants (f.lower member)).contains n
  | .range low high =>
    if f == .exact then low ≤ n && n ≤ high
    else
      (f.variants n).any (fun v => (f.sources v).any fun source => low ≤ source && source ≤ high) ||
        (basicPlane < high && low ≤ upperCode n && upperCode n ≤ high)
  | .ofClass c => c.contains n

end SetItem

/-- A set of characters: the union of its items or the complement of that. -/
structure CharSet where
  negated : Bool
  items : List SetItem
deriving DecidableEq, Repr

namespace CharSet

/-- The folding to use for a set: exact comparison when no item has case. -/
def folding (f : Folding) (s : CharSet) : Folding :=
  if s.items.any (·.isCased f) then f else .exact

/-- Whether a character belongs to a set under a folding. -/
def contains (f : Folding) (s : CharSet) (c : Nat) : Bool :=
  s.items.any (·.contains f (f.lower c)) != s.negated

end CharSet

end UserAgent.Regex
