/-!
# White space

The white space of texts: the characters of class white space and the four information separators.
-/

namespace UserAgent.Unicode

/-- The ASCII white space of patterns: the space and the characters from tab to carriage return. -/
def isAsciiBlank (n : Nat) : Bool :=
  n == 0x20 || (0x09 ≤ n && n ≤ 0x0d)

/-- Whether a code point is white space. -/
def isBlank (n : Nat) : Bool :=
  if n < 0x80 then isAsciiBlank n || (0x1c ≤ n && n ≤ 0x1f)
  else n == 0x85 || n == 0xa0 || n == 0x1680 || (0x2000 ≤ n && n ≤ 0x200a) || n == 0x2028 ||
    n == 0x2029 || n == 0x202f || n == 0x205f || n == 0x3000

end UserAgent.Unicode
