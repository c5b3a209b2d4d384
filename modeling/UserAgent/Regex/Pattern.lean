import UserAgent.Regex.Parser
import UserAgent.Regex.Run

/-!
# Patterns

A pattern is compiled from its text, ignoring case. A text of the form `/body/letters` stands for its
body with the flags that the letters name; where a pattern has flags that need it, it is written in
that form again.

A search finds the leftmost match, and there the first one in the order of the alternatives.
-/

namespace UserAgent

open Regex

/-- A compiled pattern. -/
structure Pattern where
  /-- The text between the delimiters, or the whole text if it has none. -/
  body : String
  flags : Flags
  groupCount : Nat
  /-- The numbers of the groups that have names. -/
  names : Assoc String Nat
  node : Node
deriving DecidableEq, Inhabited

namespace Pattern

/-- Why a text is no pattern. -/
inductive Error where
  | unsupportedFlag (letter : Char)
  | malformed (fault : Fault)
deriving DecidableEq, Repr

/-! ### Delimited patterns -/

/-- Whether a character is a lower-case letter of ASCII. -/
def isFlagLetter (c : Char) : Bool :=
  'a' ≤ c && c ≤ 'z'

/-- The body and the letters of a text of the form `/body/letters`, of which the last slash counts. A
line break may follow the letters. -/
def delimited? : List Char → Option (List Char × List Char)
  | '/' :: cs =>
    let tail := cs.reverse.takeWhile (· != '/')
    let letters := match tail with
      | '\n' :: letters => letters
      | letters => letters
    match cs.reverse.dropWhile (· != '/') with
    | _ :: body =>
      if letters.all isFlagLetter then some (body.reverse, letters.reverse) else none
    | [] => none
  | _ => none

/-- The flags that the letters after a delimiter set. Two letters have no effect on one search. -/
def delimiterFlag? (letter : Char) : Option Flags :=
  match letter with
  | 'i' => some { ignoreCase := true }
  | 'm' => some { multiline := true }
  | 's' => some { dotAll := true }
  | 'x' => some { verbose := true }
  | 'g' | 'u' => some {}
  | _ => none

/-- Add the flags of letters. -/
def addLetters : Flags → List Char → Except Error Flags
  | flags, [] => .ok flags
  | flags, letter :: letters =>
    match delimiterFlag? letter with
    | some flag => addLetters (flags.union flag) letters
    | none => .error (.unsupportedFlag letter)

/-! ### Compilation -/

variable [CharacterNames]

/-- Compile the body of a pattern under the given flags. -/
def ofBody (body : List Char) (flags : Flags) : Except Error Pattern :=
  match parseTree flags body with
  | .ok tree => .ok ⟨String.ofList body, tree.flags, tree.groupCount, tree.names, tree.node⟩
  | .error fault => .error (.malformed fault)

/-- Compile a pattern from its text. -/
def compile (text : String) : Except Error Pattern :=
  match delimited? text.toList with
  | some (body, letters) => do ofBody body (← addLetters { ignoreCase := true } letters)
  | none => ofBody text.toList { ignoreCase := true }

/-- The letters of the flags that a pattern cannot be written without. -/
def extraLetters (p : Pattern) : List Char :=
  [('m', p.flags.multiline), ('s', p.flags.dotAll), ('x', p.flags.verbose)].filterMap
    fun (letter, isSet) => if isSet then some letter else none

/-- The text of a pattern. -/
def text (p : Pattern) : String :=
  if p.extraLetters.isEmpty then p.body
  else "/" ++ p.body ++ "/i" ++ String.ofList p.extraLetters

end Pattern

/-! ### Matches -/

/-- A match of a pattern in a text. -/
structure Match where
  text : Array Char
  span : Span
  captures : List (Option Span)

namespace Match

/-- The part of the text that a span covers. -/
def slice (text : Array Char) (span : Span) : String :=
  String.ofList (text.extract span.start span.stop).toList

/-- What was matched. -/
def matched (m : Match) : String :=
  slice m.text m.span

/-- What the groups have matched, in order; nothing for those that took no part. -/
def groups (m : Match) : List (Option String) :=
  m.captures.map (·.map (slice m.text))

/-- What a group has matched, where group zero is the whole match. -/
def group? (m : Match) : Nat → Option String
  | 0 => some m.matched
  | index + 1 => (m.groups[index]?).join

end Match

namespace Pattern

/-- The match that begins at a position and is completed by `rest`. -/
def matchAt? (p : Pattern) (text : Array Char) (rest : Rest) (pos : Nat) : Option Match :=
  (p.node.run text rest ⟨pos, List.replicate p.groupCount none⟩).map fun s =>
    ⟨text, ⟨pos, s.pos⟩, s.captures⟩

/-- The match that begins first among `tries` positions from `pos` on. -/
def scan? (p : Pattern) (text : Array Char) : (tries pos : Nat) → Option Match
  | 0, _ => none
  | tries + 1, pos =>
    match p.matchAt? text some pos with
    | some m => some m
    | none => scan? p text tries (pos + 1)

/-- The first match in a text. -/
def search? (p : Pattern) (text : Array Char) : Option Match :=
  p.scan? text (text.size + 1) 0

/-- The first match from `start` on. If `advance` is set, an empty match at `start` is none. -/
def searchFrom? (p : Pattern) (text : Array Char) (advance : Bool) (start : Nat) : Option Match :=
  if advance then
    match p.matchAt? text (fun s => if s.pos == start then none else some s) start with
    | some m => some m
    | none => p.scan? text (text.size - start) (start + 1)
  else p.scan? text (text.size + 1 - start) start

/-- Replace the matches from `start` on. After an empty match the next one at its place is not empty,
so a text has at most twice as many matches as places, and the first argument bounds them. -/
def replaceFrom (p : Pattern) (expand : Match → String) (text : Array Char) :
    (tries : Nat) → (advance : Bool) → (start : Nat) → String
  | 0, _, start => Match.slice text ⟨start, text.size⟩
  | tries + 1, advance, start =>
    match p.searchFrom? text advance start with
    | none => Match.slice text ⟨start, text.size⟩
    | some m =>
      Match.slice text ⟨start, m.span.start⟩ ++ expand m ++
        replaceFrom p expand text tries (m.span.start == m.span.stop) m.span.stop

/-- Replace every match in a text. -/
def replaceAll (p : Pattern) (expand : Match → String) (text : String) : String :=
  let text := text.toList.toArray
  p.replaceFrom expand text (2 * text.size + 2) false 0

end Pattern

end UserAgent
