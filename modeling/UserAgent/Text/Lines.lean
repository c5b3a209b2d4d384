/-!
# Line ends

Texts that are read have one kind of line end: a carriage return, alone or before a line feed, counts
as a line feed.
-/

namespace UserAgent.Text

/-- Replace the other line ends of `cs` by line feeds. -/
def lineFeeds : List Char → List Char
  | '\r' :: '\n' :: cs => '\n' :: lineFeeds cs
  | '\r' :: cs => '\n' :: lineFeeds cs
  | c :: cs => c :: lineFeeds cs
  | [] => []

/-- A text with line feeds as its line ends. -/
def normalizeLines (s : String) : String :=
  String.ofList (lineFeeds s.toList)

end UserAgent.Text
