/-!
# Tokens of patterns and templates

A backslash and the character after it belong together; every other character is a token of its own.
-/

namespace UserAgent.Regex

/-- A character of a pattern, or a backslash with the character after it. -/
inductive Token where
  | char (c : Char)
  | escape (c : Char)
  /-- A backslash at the end. -/
  | dangling
deriving DecidableEq, Repr

namespace Token

/-- The tokens of a text. -/
def ofChars : List Char → List Token
  | [] => []
  | '\\' :: [] => [.dangling]
  | '\\' :: c :: cs => .escape c :: ofChars cs
  | c :: cs => .char c :: ofChars cs

/-- Read plain characters up to `terminator` and skip it: the name of a group. -/
def spanName (terminator : Char) : List Token → Option (List Char × List Token)
  | .char c :: rest =>
    if c == terminator then some ([], rest)
    else (spanName terminator rest).map fun (name, rest) => (c :: name, rest)
  | _ => none

/-- Read at most `limit` characters that satisfy a test. -/
def spanChars (test : Char → Bool) : (limit : Nat) → List Token → List Char × List Token
  | 0, ts => ([], ts)
  | limit + 1, .char c :: rest =>
    if test c then
      let (cs, rest') := spanChars test limit rest
      (c :: cs, rest')
    else ([], .char c :: rest)
  | _ + 1, ts => ([], ts)

end Token

/-! ### Digits -/

/-- Whether a character is a decimal digit of ASCII. -/
def isDecimal (c : Char) : Bool := '0' ≤ c && c ≤ '9'

/-- Whether a character is an octal digit. -/
def isOctal (c : Char) : Bool := '0' ≤ c && c ≤ '7'

/-- Whether a character is a hexadecimal digit. -/
def isHex (c : Char) : Bool :=
  isDecimal c || ('a' ≤ c && c ≤ 'f') || ('A' ≤ c && c ≤ 'F')

/-- Whether a character is an ASCII letter. -/
def isLetter (c : Char) : Bool :=
  ('a' ≤ c && c ≤ 'z') || ('A' ≤ c && c ≤ 'Z')

/-- The value of a digit. -/
def digitValue (c : Char) : Nat :=
  if isDecimal c then c.toNat - '0'.toNat
  else if 'a' ≤ c then c.toNat - 'a'.toNat + 10
  else c.toNat - 'A'.toNat + 10

/-- The number that digits stand for in a base. -/
def numeral (base : Nat) (ds : List Char) : Nat :=
  ds.foldl (fun n d => n * base + digitValue d) 0

/-- The characters that escapes outside of classes name. -/
def controlEscape? : Char → Option Nat
  | 'a' => some 0x07
  | 'b' => some 0x08
  | 'f' => some 0x0c
  | 'n' => some 0x0a
  | 'r' => some 0x0d
  | 't' => some 0x09
  | 'v' => some 0x0b
  | '\\' => some 0x5c
  | _ => none

end UserAgent.Regex
