import UserAgent.Regex.Pattern
import UserAgent.Text.Integer
import UserAgent.Unicode.Digit

/-!
# Replacement templates

A template is text with references to groups. Templates of rule tables may refer to a group by a
dollar sign; `Template.fromDollar` turns such references into the escapes that are read.
-/

namespace UserAgent

open Regex

/-! ### Dollar references -/

namespace Template

/-- Whether a character is a decimal digit of some script. -/
def isDigit (c : Char) : Bool :=
  Unicode.isDigit c.toNat

/-- The reference that follows a dollar sign: its digits and what comes after it. -/
def dollarReference? (cs : List Char) : Option (List Char × List Char) :=
  match cs with
  | '\x7b' :: cs =>
    match cs.takeWhile isDigit, cs.dropWhile isDigit with
    | d :: ds, '\x7d' :: rest => some (d :: ds, rest)
    | _, _ => none
  | cs =>
    match cs.takeWhile isDigit with
    | [] => none
    | ds => some (ds, cs.dropWhile isDigit)

/-- Turn the references of a text into escapes, for a text of at most `fuel` characters. -/
def convertDollars : (fuel : Nat) → List Char → List Char
  | 0, _ => []
  | _ + 1, [] => []
  | fuel + 1, c :: cs =>
    if c == '$' then
      match dollarReference? cs with
      | some (ds, rest) => '\\' :: 'g' :: '<' :: ds ++ '>' :: convertDollars fuel rest
      | none => c :: convertDollars fuel cs
    else c :: convertDollars fuel cs

/-- Write the references by dollar signs, `$1` and `${1}`, as references by escapes. -/
def fromDollar (template : String) : String :=
  String.ofList (convertDollars template.length template.toList)

end Template

/-! ### Outlines -/

namespace Pattern

/-- The name of a group, if it has one among the names of a pattern. -/
def groupName? (names : Assoc String Nat) (index : Nat) : Option String :=
  (names.find? (·.2 == index)).map (·.1)

/-- An empty group, with a name or without one. -/
def emptyGroup : (name : Option String) → List Char
  | some name => ['(', '?', 'P', '<'] ++ name.toList ++ ['>', ')']
  | none => ['(', ')']

/-- The body of a pattern that has the same groups and nothing in them. -/
def outline (p : Pattern) : List Char :=
  (List.range p.groupCount).flatMap fun i => emptyGroup (groupName? p.names (i + 1))

end Pattern

/-! ### Templates -/

/-- A part of a template: a character, or what a group has matched. -/
inductive TemplatePiece where
  | char (c : Char)
  | group (index : Nat)
deriving DecidableEq, Repr

/-- The text of a part for a match. A group that took no part gives nothing. -/
def TemplatePiece.expand (m : Match) : TemplatePiece → String
  | .char c => String.ofList [c]
  | .group index => (m.group? index).getD ""

/-- A replacement template, as parts to be put one after the other. -/
abbrev Template := List TemplatePiece

namespace Template

/-- Why a text is no template for a pattern. -/
inductive Error where
  | malformed
  | unknownName (name : String)
deriving DecidableEq, Repr

/-- The group that a reference by name or number means. -/
def resolve (p : Pattern) (name : List Char) : Except Error Nat :=
  if Unicode.isIdentifier name then
    match Assoc.get? (String.ofList name) p.names with
    | some index => .ok index
    | none => .error (.unknownName (String.ofList name))
  else
    match Text.readInteger name with
    | some (.ofNat index) => if index ≤ p.groupCount then .ok index else .error .malformed
    | _ => .error .malformed

/-- A reference to the group with the number that digits stand for, before the rest of a template. -/
def reference (p : Pattern) (ds : List Char) (rest : List Token) :
    Except Error (TemplatePiece × List Token) :=
  let index := numeral 10 ds
  if index ≤ p.groupCount then .ok (.group index, rest) else .error .malformed

/-- Read the escape of a digit: a reference of one or two digits, or a character by three octal
digits. -/
def readDigits (p : Pattern) (c : Char) (ts : List Token) :
    Except Error (TemplatePiece × List Token) :=
  match ts with
  | .char d :: rest =>
    if isDecimal d then
      match rest with
      | .char e :: rest' =>
        if isOctal c && isOctal d && isOctal e then
          let code := numeral 8 [c, d, e]
          if code ≤ 0o377 then .ok (.char (Char.ofNat code), rest') else .error .malformed
        else reference p [c, d] rest
      | _ => reference p [c, d] rest
    else reference p [c] ts
  | _ => reference p [c] ts

/-- Read the tokens of a template. -/
def readTokens (p : Pattern) : (fuel : Nat) → List Token → Except Error Template
  | _, [] => .ok []
  | 0, _ => .error .malformed
  | _ + 1, .dangling :: _ => .error .malformed
  | fuel + 1, .char c :: rest => do return .char c :: (← readTokens p fuel rest)
  | fuel + 1, .escape c :: rest =>
    if c == 'g' then
      match rest with
      | .char '<' :: rest =>
        match Token.spanName '>' rest with
        | some (name, rest) => do
          let index ← resolve p name
          return .group index :: (← readTokens p fuel rest)
        | none => .error .malformed
      | _ => .error .malformed
    else if c == '0' then do
      let (ds, rest) := Token.spanChars isOctal 2 rest
      return .char (Char.ofNat (numeral 8 ds)) :: (← readTokens p fuel rest)
    else if isDecimal c then do
      let (piece, rest) ← readDigits p c rest
      return piece :: (← readTokens p fuel rest)
    else
      match controlEscape? c with
      | some code => do return .char (Char.ofNat code) :: (← readTokens p fuel rest)
      | none =>
        if isLetter c then .error .malformed
        else do return .char '\\' :: .char c :: (← readTokens p fuel rest)

/-- Read a template for the matches of a pattern. -/
def parse (p : Pattern) (template : String) : Except Error Template :=
  let ts := Token.ofChars template.toList
  readTokens p ts.length ts

variable [CharacterNames]

/-- Read a template for the matches of a pattern. It is tried on the outline of the pattern, so that a
reference to a group that the pattern lacks is found before there is a match. -/
def check (p : Pattern) (template : String) : Except Error Template :=
  match Pattern.ofBody p.outline {} with
  | .ok outline => parse outline template
  | .error _ => .error .malformed

/-- The text of a template for a match. -/
def expand (template : Template) (m : Match) : String :=
  String.join (template.map (·.expand m))

end Template

end UserAgent
