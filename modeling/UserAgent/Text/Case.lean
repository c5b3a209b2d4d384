import UserAgent.Unicode.Cased

/-!
# Case of texts

The lower case, upper case and case folding of a text are those of its characters, with one
exception: a Greek capital sigma that ends a word has a lower case of its own.
-/

namespace UserAgent.Text

open Unicode

/-- The characters with the given code points. -/
def ofCodes (codes : List Nat) : List Char :=
  codes.map Char.ofNat

/-- The Greek capital sigma. -/
def capitalSigma : Char := 'Σ'

/-- Whether the first character that is not ignorable is a cased letter. -/
def startsCased (cs : List Char) : Bool :=
  match cs.dropWhile fun c => caseIgnorables.contains c.toNat with
  | c :: _ => casedLetters.contains c.toNat
  | [] => false

/-- The lower case of a capital sigma between two texts, of which the first is given backwards: the
final form if a letter precedes it and none follows. -/
def lowerSigma (before after : List Char) : Char :=
  if startsCased before && !startsCased after then 'ς' else 'σ'

/-- The lower case of `cs`, where `before` is the text that precedes it, backwards. -/
def lowerAfter : (before cs : List Char) → List Char
  | _, [] => []
  | before, c :: cs =>
    (if c == capitalSigma then [lowerSigma before cs] else ofCodes (lowerFull c.toNat)) ++
      lowerAfter (c :: before) cs

/-- The lower case of a list of characters. -/
def lowerChars (cs : List Char) : List Char :=
  lowerAfter [] cs

/-- The lower case of a text. -/
def lower (s : String) : String :=
  String.ofList (lowerChars s.toList)

/-- The upper case of a text. -/
def upper (s : String) : String :=
  String.ofList (s.toList.flatMap fun c => ofCodes (upperFull c.toNat))

/-- The case folding of a text. Two texts with one folding differ by case only. -/
def fold (s : String) : String :=
  String.ofList (s.toList.flatMap fun c => ofCodes (foldFull c.toNat))

end UserAgent.Text
