import UserAgent.Unicode.Blank

/-!
# White space around texts
-/

namespace UserAgent.Text

/-- Whether a character is white space. -/
def isBlank (c : Char) : Bool :=
  Unicode.isBlank c.toNat

/-- Remove the characters at the end that satisfy `p`. -/
def dropEndWhile (p : Char → Bool) (s : String) : String :=
  String.ofList (s.toList.reverse.dropWhile p).reverse

/-- Remove the white space at the end. -/
def trimEnd (s : String) : String :=
  dropEndWhile isBlank s

/-- Remove the white space at both ends. -/
def trim (s : String) : String :=
  dropEndWhile isBlank (String.ofList (s.toList.dropWhile isBlank))

/-- Whether a text has a character other than white space. -/
def hasContent (s : String) : Bool :=
  s.toList.any fun c => !isBlank c

end UserAgent.Text
