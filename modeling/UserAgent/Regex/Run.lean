import UserAgent.Regex.Node

/-!
# Matching

A node is run at a place of the text together with what is to follow it, and the whole succeeds with
the first way of matching, in the order of the alternatives, after which the rest succeeds too.
`Node.run` is that search.

A repetition ends when an iteration has consumed nothing. Each iteration that is not required begins
further on than the one before, so their number is bounded by the length of the text.
-/

namespace UserAgent.Regex

/-- A part of the text, from its first position up to the position after its last. -/
structure Span where
  start : Nat
  stop : Nat
deriving DecidableEq, Repr, Inhabited

/-- How far a match has come: the place in the text and the parts that the groups have matched. -/
structure State where
  pos : Nat
  captures : List (Option Span)
deriving DecidableEq, Repr

/-- What is to follow: from a state to the state at the end, if it can be reached. -/
abbrev Rest := State → Option State

namespace State

/-- The part that a group has matched. Groups are counted from one. -/
def capture? (s : State) (index : Nat) : Option Span :=
  (s.captures[index - 1]?).join

/-- Note the part that a group has matched. -/
def setCapture (s : State) (index : Nat) (span : Span) : State :=
  { s with captures := s.captures.set (index - 1) (some span) }

/-- Go on after the next character if it exists and passes a test. -/
def step (text : Array Char) (test : Nat → Bool) (rest : Rest) (s : State) : Option State :=
  match text[s.pos]? with
  | some c => if test c.toNat then rest { s with pos := s.pos + 1 } else none
  | none => none

end State

/-! ### Anchors -/

/-- Whether the character at a position belongs to a word. -/
def isWordAt (ascii : Bool) (text : Array Char) (pos : Nat) : Bool :=
  match text[pos]? with
  | some c => if ascii then Unicode.isAsciiWord c.toNat else Unicode.isWord c.toNat
  | none => false

/-- Whether the characters on the two sides of a position differ in belonging to a word. -/
def isBoundary (ascii : Bool) (text : Array Char) (pos : Nat) : Bool :=
  (0 < pos && isWordAt ascii text (pos - 1)) != isWordAt ascii text pos

/-- Whether a position satisfies a condition. In an empty text no place is inside or at the boundary
of a word. -/
def Anchor.holds (text : Array Char) (pos : Nat) : Anchor → Bool
  | .start => pos == 0
  | .lineStart => pos == 0 || text[pos - 1]? == some '\n'
  | .finish => pos == text.size
  | .lastLineEnd => pos == text.size || (pos + 1 == text.size && text[pos]? == some '\n')
  | .lineEnd => pos == text.size || text[pos]? == some '\n'
  | .boundary ascii => isBoundary ascii text pos
  | .inside ascii => !text.isEmpty && !isBoundary ascii text pos

/-! ### References -/

/-- Whether the part of the text at `pos` is equal to the one at `start`, for `length` characters. -/
def sameText (f : Folding) (text : Array Char) : (length start pos : Nat) → Bool
  | 0, _, _ => true
  | length + 1, start, pos =>
    match text[start]?, text[pos]? with
    | some c, some d =>
      f.lower c.toNat == f.lower d.toNat && sameText f text length (start + 1) (pos + 1)
    | _, _ => false

/-! ### Repetitions -/

section Repetition

variable (body : Rest → Rest)

/-- Run the body a required number of times. -/
def exactly : Nat → Rest → Rest
  | 0, rest, s => rest s
  | count + 1, rest, s => body (exactly count rest) s

/-- Run the body as often as possible, but at most `budget` times, and fewer times if the rest does
not succeed. `last` is where the previous iteration began. -/
def greedily (rest : Rest) : (budget : Nat) → (last : Option Nat) → Rest
  | 0, _, s => rest s
  | budget + 1, last, s =>
    if last == some s.pos then rest s
    else
      match body (greedily rest budget (some s.pos)) s with
      | some done => some done
      | none => rest s

/-- Run the body as rarely as possible, and more often, but at most `budget` times, if the rest does
not succeed. -/
def lazily (rest : Rest) : (budget : Nat) → (last : Option Nat) → Rest
  | 0, _, s => rest s
  | budget + 1, last, s =>
    match rest s with
    | some done => some done
    | none =>
      if last == some s.pos then none else body (lazily rest budget (some s.pos)) s

/-- Run the body as often as possible, but at most `budget` times, each time in the first way in
which it matches. The captures are those of this way. An engine may keep one in a later round that
an alternative had set before it failed; that is left out. -/
def possessively (rest : Rest) : (budget : Nat) → (last : Option Nat) → Rest
  | 0, _, s => rest s
  | budget + 1, last, s =>
    if last == some s.pos then rest s
    else
      match body some s with
      | some next => possessively rest budget (some s.pos) next
      | none => rest s

end Repetition

/-- How many iterations may follow the required ones at a position. -/
def budget (text : Array Char) (min : Nat) (max : Option Nat) (pos : Nat) : Nat :=
  let room := text.size + 1 - pos
  match max with
  | some max => Nat.min (max - min) room
  | none => room

/-- Run a repetition. -/
def repeatBody (text : Array Char) (min : Nat) (max : Option Nat) (greed : Greed)
    (body : Rest → Rest) (rest : Rest) : Rest :=
  match greed with
  | .greedy => exactly body min fun s => greedily body rest (budget text min max s.pos) none s
  | .lazy => exactly body min fun s => lazily body rest (budget text min max s.pos) none s
  | .possessive =>
    let once : Rest → Rest := fun rest s =>
      match body some s with
      | some next => rest next
      | none => none
    exactly once min fun s => possessively body rest (budget text min max s.pos) none s

/-! ### Nodes -/

/-- Run a node and then the rest. -/
def Node.run (text : Array Char) : Node → Rest → Rest
  | .empty, rest, s => rest s
  | .char code negated folding, rest, s =>
    s.step text (fun c => matchesCode folding code c != negated) rest
  | .any lineBreaks, rest, s => s.step text (fun c => lineBreaks || c != 0x0a) rest
  | .set members folding, rest, s => s.step text (members.contains folding) rest
  | .anchor a, rest, s => if a.holds text s.pos then rest s else none
  | .cat first second, rest, s => first.run text (second.run text rest) s
  | .alt first second, rest, s =>
    match first.run text rest s with
    | some done => some done
    | none => second.run text rest s
  | .group index body, rest, s =>
    body.run text (fun t => rest (t.setCapture index ⟨s.pos, t.pos⟩)) s
  | .backref index folding, rest, s =>
    match s.capture? index with
    | some span =>
      let length := span.stop - span.start
      if sameText folding text length span.start s.pos then rest { s with pos := s.pos + length }
      else none
    | none => none
  | .given index present absent, rest, s =>
    if (s.capture? index).isSome then present.run text rest s else absent.run text rest s
  | .look behind positive body, rest, s =>
    let width := behind.getD 0
    let found := if width ≤ s.pos then body.run text some { s with pos := s.pos - width } else none
    match found, positive with
    | some t, true => rest { t with pos := s.pos }
    | none, false => rest s
    | _, _ => none
  | .repeated min max greed body, rest, s =>
    repeatBody text min max greed (fun rest s => body.run text rest s) rest s
  | .atomic body, rest, s =>
    match body.run text some s with
    | some t => rest t
    | none => none

end UserAgent.Regex
