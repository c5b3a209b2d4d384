/-!
# Parts of texts
-/

namespace UserAgent.Text

/-- Whether `part` occurs in `cs` as consecutive characters. -/
def occursIn (part : List Char) : List Char → Bool
  | [] => part.isEmpty
  | c :: cs => part.isPrefixOf (c :: cs) || occursIn part cs

/-- The characters before the first one that is `mark`, or all of them. -/
def before (mark : Char) (s : String) : String :=
  String.ofList (s.toList.takeWhile (· != mark))

/-- The pieces of `cs` between the occurrences of `mark`; the first argument is the piece that has
been begun, backwards. -/
def splitAfter (mark : Char) : List Char → List Char → List (List Char)
  | piece, [] => [piece.reverse]
  | piece, c :: cs =>
    if c == mark then piece.reverse :: splitAfter mark [] cs else splitAfter mark (c :: piece) cs

/-- The pieces of a text between the occurrences of `mark`. -/
def splitOn (mark : Char) (s : String) : List String :=
  (splitAfter mark [] s.toList).map String.ofList

/-- Put `separator` between the texts. -/
def joinWith (separator : String) : List String → String
  | [] => ""
  | [s] => s
  | s :: t :: rest => s ++ separator ++ joinWith separator (t :: rest)

end UserAgent.Text
