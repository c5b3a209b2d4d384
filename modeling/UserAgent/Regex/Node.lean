import UserAgent.Regex.CharSet

/-!
# Patterns as trees

The tree of a pattern, with its flags already applied: every part knows how it compares letters and
which characters it excludes.
-/

namespace UserAgent.Regex

/-- A condition on a place in the text. -/
inductive Anchor where
  /-- The start of the text. -/
  | start
  /-- The start of a line. -/
  | lineStart
  /-- The end of the text. -/
  | finish
  /-- The end of the text, or a line break that ends it. -/
  | lastLineEnd
  /-- The end of a line. -/
  | lineEnd
  /-- A place between a word and what is not a word. -/
  | boundary (ascii : Bool)
  /-- A place inside a word or outside of words. -/
  | inside (ascii : Bool)
deriving DecidableEq, Repr

/-- In which order a repetition tries its counts. -/
inductive Greed where
  /-- More first. -/
  | greedy
  /-- Fewer first. -/
  | lazy
  /-- As many as there are, and none back. -/
  | possessive
deriving DecidableEq, Repr

/-- The tree of a pattern. -/
inductive Node where
  | empty
  | char (code : Nat) (negated : Bool) (folding : Folding)
  | any (lineBreaks : Bool)
  | set (s : CharSet) (folding : Folding)
  | anchor (a : Anchor)
  | cat (first second : Node)
  | alt (first second : Node)
  | group (index : Nat) (body : Node)
  | backref (index : Nat) (folding : Folding)
  /-- One node if a group has matched, and another one if it has not. -/
  | given (index : Nat) (present absent : Node)
  /-- A condition on the text that follows, or that lies `behind` characters before. -/
  | look (behind : Option Nat) (positive : Bool) (body : Node)
  | repeated (min : Nat) (max : Option Nat) (greed : Greed) (body : Node)
  /-- The first way only in which the body matches. -/
  | atomic (body : Node)
deriving DecidableEq, Repr, Inhabited

namespace Node

/-- One node after the other. -/
def ofSequence : List Node → Node
  | [] => .empty
  | [node] => node
  | node :: rest => .cat node (ofSequence rest)

/-- The first node that matches. -/
def ofAlternatives : List Node → Node
  | [] => .empty
  | [node] => node
  | node :: rest => .alt node (ofAlternatives rest)

/-! ### Widths -/

/-- How many characters a node may match: at least, and at most if there is a bound. -/
structure Width where
  min : Nat
  max : Option Nat
deriving DecidableEq, Repr, Inhabited

/-- The width of one thing after the other. -/
def Width.add (a b : Width) : Width :=
  ⟨a.min + b.min, do return (← a.max) + (← b.max)⟩

/-- The width of one thing or the other. -/
def Width.join (a b : Width) : Width :=
  ⟨Nat.min a.min b.min, do return Nat.max (← a.max) (← b.max)⟩

/-- The width of a repetition. -/
def Width.times (w : Width) (min : Nat) (max : Option Nat) : Width where
  min := w.min * min
  max :=
    match w.max, max with
    | some 0, _ => some 0
    | _, some 0 => some 0
    | some most, some count => some (most * count)
    | _, _ => none

/-- The width of a node, given the widths of the groups that it refers to. -/
def width (groups : Nat → Width) : Node → Width
  | .empty => ⟨0, some 0⟩
  | .char .. | .any _ | .set .. => ⟨1, some 1⟩
  | .anchor _ => ⟨0, some 0⟩
  | .cat first second => (first.width groups).add (second.width groups)
  | .alt first second => (first.width groups).join (second.width groups)
  | .group _ body => body.width groups
  | .backref index _ => groups index
  | .given _ present absent => (present.width groups).join (absent.width groups)
  | .look .. => ⟨0, some 0⟩
  | .repeated min max _ body => (body.width groups).times min max
  | .atomic body => body.width groups

end Node

end UserAgent.Regex
