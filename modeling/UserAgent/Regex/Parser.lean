import UserAgent.Assoc
import UserAgent.Decimal.Limit
import UserAgent.Regex.Fault
import UserAgent.Regex.Flags
import UserAgent.Regex.Node
import UserAgent.Regex.Token
import UserAgent.Text.Integer
import UserAgent.Unicode.Identifier
import UserAgent.Unicode.Names

/-!
# Reading patterns

A pattern is alternatives between bars, each a sequence of items, of which each may be repeated. The
flags that hold at a place are known when it is read, so the tree carries them.

The main entry is `parseTree`; its recursion is bounded by the number of tokens.
-/

namespace UserAgent.Regex

open Node (Width)

/-! ### State of the reader -/

/-- What holds at a place of the pattern. -/
structure Context where
  flags : Flags
  /-- Inside a look-behind, the first group that opened in it. -/
  lookbehindFrom : Option Nat := none

/-- The groups that have been read. -/
structure Groups where
  /-- How many groups have been opened. -/
  count : Nat := 0
  names : Assoc String Nat := []
  /-- The widths of the groups that have been closed. -/
  widths : Assoc Nat Width := []
  /-- The greatest number of a group that a condition asks for. Such a group may come later. -/
  asked : Nat := 0
  /-- Whether some look-behind has no fixed width. -/
  unfixed : Bool := false

namespace Groups

/-- Open a group. -/
def opened (g : Groups) (name : Option String) : Except Fault Groups :=
  match name with
  | none => .ok { g with count := g.count + 1 }
  | some name =>
    if Assoc.contains name g.names then .error .repeatedGroupName
    else .ok { g with count := g.count + 1, names := Assoc.insert name (g.count + 1) g.names }

/-- The width of a node. -/
def width (g : Groups) (node : Node) : Width :=
  node.width fun index => (Assoc.get? index g.widths).getD default

/-- Close a group. -/
def closed (g : Groups) (index : Nat) (body : Node) : Groups :=
  { g with widths := Assoc.insert index (g.width body) g.widths }

/-- Check that a group may be referred to: it is closed, and not of the look-behind around. -/
def checkReference (g : Groups) (c : Context) (index : Nat) : Except Fault Unit :=
  if !Assoc.contains index g.widths then .error .openGroup
  else
    match c.lookbehindFrom with
    | some first => if first ≤ index then .error .groupOfLookbehind else .ok ()
    | none => .ok ()

end Groups

/-- The greatest width of a look-behind. -/
def maxLookbehind : Nat := 0xfffffffe

/-! ### Items -/

/-- A part of a sequence. Single tests are told apart since alternatives of them are one set. -/
inductive Piece where
  | test (node : Node)
  | other (node : Node)

/-- The node of a piece. -/
def Piece.node : Piece → Node
  | .test node | .other node => node

/-- Whether an item may be repeated. -/
inductive Repeatable where
  | yes
  /-- It is a place and not a part of the text. -/
  | place
  /-- It is a repetition. -/
  | again

/-- An item of a sequence: one piece, or those of a group that has no meaning of its own. -/
structure Item where
  pieces : List Piece
  repeatable : Repeatable := .yes

/-- The node of a sequence of pieces. -/
def nodeOf (pieces : List Piece) : Node :=
  .ofSequence (pieces.map Piece.node)

/-- A test of one character. -/
def Item.test (node : Node) : Item := ⟨[.test node], .yes⟩

/-- An anchor. -/
def Item.place (a : Anchor) : Item := ⟨[.other (.anchor a)], .place⟩

/-- A node that is neither. -/
def Item.other (node : Node) : Item := ⟨[.other node], .yes⟩

/-- The test for a literal. -/
def literal (flags : Flags) (code : Nat) : Item :=
  .test (.char code false (flags.folding.forCode code))

/-- The test for a set. -/
def setNode (flags : Flags) (s : CharSet) : Node :=
  .set s (s.folding flags.folding)

/-- The test for a class. -/
def classItem (flags : Flags) (kind : ClassKind) (negated : Bool) : Item :=
  .test (setNode flags ⟨false, [.ofClass ⟨kind, negated, flags.ascii⟩]⟩)

/-- The items of the set that an alternative stands for, if it is a single test. -/
def setItems? : List Piece → Option (List SetItem)
  | [.test (.char code false _)] => some [.code code]
  | [.test (.set ⟨false, items⟩ _)] => some items
  | _ => none

/-- The pieces of alternatives. Single tests are joined into one set. -/
def joinAlternatives (flags : Flags) : List (List Piece) → List Piece
  | [] => []
  | [pieces] => pieces
  | alternatives =>
    match alternatives.mapM setItems? with
    | some items => [.test (setNode flags ⟨false, items.flatten.eraseDups⟩)]
    | none => [.other (.ofAlternatives (alternatives.map nodeOf))]

/-! ### Escapes -/

/-- Read an escape of exactly `count` hexadecimal digits. -/
def readHex (count : Nat) (ts : List Token) : Except Fault (Nat × List Token) :=
  let (ds, rest) := Token.spanChars isHex count ts
  let code := numeral 16 ds
  if ds.length == count && code < 0x110000 then .ok (code, rest) else .error .unknownEscape

variable [CharacterNames]

/-- Read the name of a character between braces. -/
def readCharacterName (ts : List Token) : Except Fault (Nat × List Token) :=
  match ts with
  | .char '\x7b' :: rest =>
    match Token.spanName '\x7d' rest with
    | some (c :: cs, rest) =>
      match CharacterNames.character? (String.ofList (c :: cs)) with
      | some named => .ok (named.toNat, rest)
      | none => .error .unknownEscape
    | _ => .error .unknownEscape
  | _ => .error .unknownEscape

/-- Read the escape of a character by its code or its name, or one that stands for itself. -/
def readCodeEscape (c : Char) (ts : List Token) : Except Fault (Nat × List Token) :=
  match c with
  | 'x' => readHex 2 ts
  | 'u' => readHex 4 ts
  | 'U' => readHex 8 ts
  | 'N' => readCharacterName ts
  | c => if isLetter c then .error .unknownEscape else .ok (c.toNat, ts)

/-- The class that an escape stands for. -/
def classEscape? : Char → Option (ClassKind × Bool)
  | 'd' => some (.digit, false)
  | 'D' => some (.digit, true)
  | 's' => some (.blank, false)
  | 'S' => some (.blank, true)
  | 'w' => some (.word, false)
  | 'W' => some (.word, true)
  | _ => none

/-- The anchor that an escape stands for. -/
def anchorEscape? (ascii : Bool) : Char → Option Anchor
  | 'A' => some .start
  | 'Z' => some .finish
  | 'b' => some (.boundary ascii)
  | 'B' => some (.inside ascii)
  | _ => none

/-- Read an escape inside of a set. -/
def readSetEscape (flags : Flags) (c : Char) (ts : List Token) :
    Except Fault (SetItem × List Token) :=
  match controlEscape? c, classEscape? c with
  | some code, _ => .ok (.code code, ts)
  | none, some (kind, negated) => .ok (.ofClass ⟨kind, negated, flags.ascii⟩, ts)
  | none, none =>
    if isOctal c then
      let (ds, rest) := Token.spanChars isOctal 2 ts
      let code := numeral 8 (c :: ds)
      if code ≤ 0o377 then .ok (.code code, rest) else .error .octalOutOfRange
    else if isDecimal c then .error .unknownEscape
    else do
      let (code, rest) ← readCodeEscape c ts
      return (.code code, rest)

/-- Read the number of a reference that begins with the digit `c`, or an octal escape of three
digits. -/
def readReference (ctx : Context) (g : Groups) (c : Char) (ts : List Token) :
    Except Fault (Item × List Token) :=
  let reference (ds : List Char) (rest : List Token) : Except Fault (Item × List Token) :=
    let index := numeral 10 ds
    if index ≤ g.count then do
      g.checkReference ctx index
      return (.other (.backref index ctx.flags.folding), rest)
    else .error .unknownGroup
  match ts with
  | .char d :: rest =>
    if isDecimal d then
      match rest with
      | .char e :: rest' =>
        if isOctal c && isOctal d && isOctal e then
          let code := numeral 8 [c, d, e]
          if code ≤ 0o377 then .ok (literal ctx.flags code, rest') else .error .octalOutOfRange
        else reference [c, d] rest
      | _ => reference [c, d] rest
    else reference [c] ts
  | _ => reference [c] ts

/-- Read an escape outside of sets. -/
def readEscape (ctx : Context) (g : Groups) (c : Char) (ts : List Token) :
    Except Fault (Item × List Token) :=
  match anchorEscape? ctx.flags.ascii c, classEscape? c, controlEscape? c with
  | some a, _, _ => .ok (.place a, ts)
  | none, some (kind, negated), _ => .ok (classItem ctx.flags kind negated, ts)
  | none, none, some code => .ok (literal ctx.flags code, ts)
  | none, none, none =>
    if c == '0' then
      let (ds, rest) := Token.spanChars isOctal 2 ts
      .ok (literal ctx.flags (numeral 8 ds), rest)
    else if isDecimal c then readReference ctx g c ts
    else do
      let (code, rest) ← readCodeEscape c ts
      return (literal ctx.flags code, rest)

/-! ### Sets -/

/-- Read one end of a range, or an item that is none. -/
def readSetItem (flags : Flags) : List Token → Except Fault (SetItem × List Token)
  | .char c :: rest => .ok (.code c.toNat, rest)
  | .escape c :: rest => readSetEscape flags c rest
  | .dangling :: _ => .error .danglingEscape
  | [] => .error .unterminatedSet

/-- Read the items of a set up to its closing bracket, which is an item itself if it comes first.
`done` are the items read, backwards. -/
def readSetItems (flags : Flags) : (fuel : Nat) → (done : List SetItem) → List Token →
    Except Fault (List SetItem × List Token)
  | 0, _, _ => .error .unterminatedSet
  | fuel + 1, done, ts =>
    match ts, done with
    | .char ']' :: rest, _ :: _ => .ok (done.reverse, rest)
    | _, _ => do
      let (low, rest) ← readSetItem flags ts
      match rest with
      | .char '-' :: .char ']' :: rest => return ((.code '-'.toNat :: low :: done).reverse, rest)
      | .char '-' :: rest =>
        let (high, rest) ← readSetItem flags rest
        match low, high with
        | .code a, .code b =>
          if b < a then .error .badRange
          else readSetItems flags fuel (.range a b :: done) rest
        | _, _ => .error .badRange
      | rest => readSetItems flags fuel (low :: done) rest

/-- Read a set after its opening bracket. A set of one literal is that literal. -/
def readSet (flags : Flags) (ts : List Token) : Except Fault (Item × List Token) := do
  let (negated, ts) := match ts with
    | .char '^' :: rest => (true, rest)
    | ts => (false, ts)
  let (items, rest) ← readSetItems flags (ts.length + 1) [] ts
  match items.eraseDups with
  | [.code code] => return (.test (.char code negated (flags.folding.forCode code)), rest)
  | items => return (.test (setNode flags ⟨negated, items⟩), rest)

/-! ### Counts -/

/-- The counts of a repetition. -/
structure Counts where
  min : Nat
  max : Option Nat

/-- The counts from which on a repetition is refused. -/
def countLimit : Nat := 0xffffffff

/-- The count that digits stand for, if there are any. -/
def readCount (ds : List Char) : Except Fault (Option Nat) :=
  if ds.isEmpty then .ok none
  else if maxNumeralDigits < ds.length then .error (.tooManyDigits ds.length)
  else if countLimit ≤ numeral 10 ds then .error .countTooLarge
  else .ok (some (numeral 10 ds))

/-- Read counts after an opening brace. Braces that do not hold counts are literals. -/
def readBraces (ts : List Token) : Except Fault (Option (Counts × List Token)) :=
  match ts with
  | .char '\x7d' :: _ => .ok none
  | _ =>
    let (low, rest) := Token.spanChars isDecimal ts.length ts
    let (high, rest) := match rest with
      | .char ',' :: rest => Token.spanChars isDecimal ts.length rest
      | rest => (low, rest)
    match rest with
    | .char '\x7d' :: .dangling :: _ => .error .danglingEscape
    | .char '\x7d' :: rest => do
      let min := (← readCount low).getD 0
      let max ← readCount high
      if max.any (· < min) then .error .emptyCountRange
      else return some (⟨min, max⟩, rest)
    | _ => .ok none

/-- Read the counts that a character stands for. -/
def readCounts (c : Char) (ts : List Token) : Except Fault (Option (Counts × List Token)) :=
  match c with
  | '?' => .ok (some (⟨0, some 1⟩, ts))
  | '*' => .ok (some (⟨0, none⟩, ts))
  | '+' => .ok (some (⟨1, none⟩, ts))
  | '\x7b' => readBraces ts
  | _ => .ok none

/-- Read what follows the counts of a repetition: how the counts are tried. -/
def readGreed : List Token → Greed × List Token
  | .char '?' :: rest => (.lazy, rest)
  | .char '+' :: rest => (.possessive, rest)
  | rest => (.greedy, rest)

/-- Repeat the last item of a sequence, which is given backwards. -/
def repeatLast (done : List Item) (counts : Counts) (greed : Greed) : Except Fault (List Item) :=
  match done with
  | [] => .error .nothingToRepeat
  | item :: done =>
    match item.repeatable with
    | .place => .error .nothingToRepeat
    | .again => .error .multipleRepeat
    | .yes =>
      let node := .repeated counts.min counts.max greed (nodeOf item.pieces)
      .ok (⟨[.other node], .again⟩ :: done)

/-! ### Flags -/

/-- The flags that a group sets: for the whole pattern, or inside it. -/
inductive FlagGroup where
  | whole (added : Flags)
  | inside (added removed : Flags)

/-- Read the flags that a group takes away, up to the colon; at least one is needed. -/
def readRemoved : (first : Bool) → (removed : Flags) → List Token →
    Except Fault (Flags × List Token)
  | first, removed, .char c :: rest =>
    if c == ':' && !first then .ok (removed, rest)
    else
      match Flags.ofLetter? c with
      | some flag =>
        if flag.inter Flags.range == {} then readRemoved false (removed.union flag) rest
        else .error .badFlags
      | none => .error .badFlags
  | _, _, _ => .error .badFlags

/-- Read the flags of a group. -/
def readFlags : (first : Bool) → (added : Flags) → List Token →
    Except Fault (FlagGroup × List Token)
  | first, added, .char c :: rest =>
    if c == '-' then do
      let (removed, rest) ← readRemoved true {} rest
      if added.inter removed == {} then return (.inside added removed, rest)
      else .error .badFlags
    else if c == ')' && !first then .ok (.whole added, rest)
    else if c == ':' && !first then .ok (.inside added {}, rest)
    else
      match Flags.ofLetter? c with
      | some flag =>
        let added := added.union flag
        if added.conflicting then .error .badFlags else readFlags false added rest
      | none => .error .badFlags
  | _, _, _ => .error .badFlags

/-! ### Blanks and comments -/

/-- Whether a character is skipped in a verbose pattern. -/
def isLayout (c : Char) : Bool :=
  Unicode.isAsciiBlank c.toNat

/-- Skip the blanks and comments of a verbose pattern; `inComment` tells whether a comment has
begun. -/
def skipLayout : (inComment : Bool) → List Token → List Token
  | true, .char c :: rest => skipLayout (c != '\n') rest
  | true, .escape _ :: rest => skipLayout true rest
  | false, .char c :: rest =>
    if isLayout c then skipLayout false rest
    else if c == '#' then skipLayout true rest
    else .char c :: rest
  | _, ts => ts

/-- Skip layout if the pattern is verbose. -/
def Context.skip (ctx : Context) (ts : List Token) : List Token :=
  if ctx.flags.verbose then skipLayout false ts else ts

/-- Skip a comment group up to its closing parenthesis. -/
def skipComment : List Token → Except Fault (List Token)
  | .char ')' :: rest => .ok rest
  | .dangling :: _ => .error .danglingEscape
  | _ :: rest => skipComment rest
  | [] => .error .unterminatedComment

/-! ### Groups -/

/-- Read the name of a group up to `terminator`. -/
def readName (terminator : Char) (ts : List Token) : Except Fault (String × List Token) :=
  match Token.spanName terminator ts with
  | some (name, rest) =>
    if Unicode.isIdentifier name then .ok (String.ofList name, rest) else .error .badGroupName
  | none => .error .badGroupName

/-- The group that a condition asks for, by its name or its number. -/
def Groups.ask (g : Groups) (name : List Char) : Except Fault (Nat × Groups) :=
  if Unicode.isIdentifier name then
    match Assoc.get? (String.ofList name) g.names with
    | some index => .ok (index, g)
    | none => .error .unknownGroup
  else
    match Text.readInteger name with
    | some (.ofNat (index + 1)) => .ok (index + 1, { g with asked := Nat.max g.asked (index + 1) })
    | _ => .error .badGroupName

/-- Read the condition of a group. In a look-behind it cannot ask for a group of the same one. -/
def readCondition (ctx : Context) (g : Groups) (ts : List Token) :
    Except Fault (Nat × Groups × List Token) :=
  match Token.spanName ')' ts with
  | none => .error .badGroupName
  | some (name, rest) => do
    let (index, g) ← g.ask name
    if ctx.lookbehindFrom.isSome then g.checkReference ctx index
    return (index, g, rest)

/-- Skip the parenthesis that closes a group. -/
def closeGroup : List Token → Except Fault (List Token)
  | .char ')' :: rest => .ok rest
  | _ => .error .unterminatedGroup

/-- The pieces of a sequence of items that is given backwards. -/
def piecesOf (done : List Item) : List Piece :=
  (done.reverse.map Item.pieces).flatten

/-- The item of a look-around; a look-behind needs a fixed width. -/
def lookItem (g : Groups) (behind positive : Bool) (body : Node) : Item × Groups :=
  if behind then
    let width := g.width body
    let fixed := width.max == some width.min && width.min ≤ maxLookbehind
    (.other (.look (some width.min) positive body), { g with unfixed := g.unfixed || !fixed })
  else (.other (.look none positive body), g)

mutual
/-- Read alternatives up to a closing parenthesis or the end; `done` are those read, backwards. -/
def parseAlternatives : (fuel : Nat) → Context → Groups → (done : List (List Piece)) →
    List Token → Except Fault (List Piece × Groups × List Token)
  | 0, _, _, _, _ => .error .unterminatedGroup
  | fuel + 1, ctx, g, done, ts =>
    match parseSequence fuel ctx g [] ts with
    | .error e => .error e
    | .ok (pieces, g, .char '|' :: rest) => parseAlternatives fuel ctx g (pieces :: done) rest
    | .ok (pieces, g, rest) => .ok (joinAlternatives ctx.flags (pieces :: done).reverse, g, rest)

/-- Read the items of a sequence; `done` are those read, backwards. -/
def parseSequence : (fuel : Nat) → Context → Groups → (done : List Item) → List Token →
    Except Fault (List Piece × Groups × List Token)
  | 0, _, _, _, _ => .error .unterminatedGroup
  | fuel + 1, ctx, g, done, ts =>
    match ctx.skip ts with
    | [] => .ok (piecesOf done, g, [])
    | .dangling :: _ => .error .danglingEscape
    | .escape c :: rest =>
      match readEscape ctx g c rest with
      | .error e => .error e
      | .ok (item, rest) => parseSequence fuel ctx g (item :: done) rest
    | .char '|' :: rest => .ok (piecesOf done, g, .char '|' :: rest)
    | .char ')' :: rest => .ok (piecesOf done, g, .char ')' :: rest)
    | .char '[' :: rest =>
      match readSet ctx.flags rest with
      | .error e => .error e
      | .ok (item, rest) => parseSequence fuel ctx g (item :: done) rest
    | .char '.' :: rest =>
      parseSequence fuel ctx g (.other (.any ctx.flags.dotAll) :: done) rest
    | .char '^' :: rest =>
      let a : Anchor := if ctx.flags.multiline then .lineStart else .start
      parseSequence fuel ctx g (.place a :: done) rest
    | .char '$' :: rest =>
      let a : Anchor := if ctx.flags.multiline then .lineEnd else .lastLineEnd
      parseSequence fuel ctx g (.place a :: done) rest
    | .char '(' :: rest =>
      match parseGroup fuel ctx g rest with
      | .error e => .error e
      | .ok (items, g, rest) => parseSequence fuel ctx g (items ++ done) rest
    | .char c :: rest =>
      match readCounts c rest with
      | .error e => .error e
      | .ok none => parseSequence fuel ctx g (literal ctx.flags c.toNat :: done) rest
      | .ok (some (counts, rest)) =>
        let (greed, rest) := readGreed rest
        match repeatLast done counts greed with
        | .error e => .error e
        | .ok done => parseSequence fuel ctx g done rest

/-- Read a group after its opening parenthesis: one item, or none for a comment. -/
def parseGroup : (fuel : Nat) → Context → Groups → List Token →
    Except Fault (List Item × Groups × List Token)
  | 0, _, _, _ => .error .unterminatedGroup
  | fuel + 1, ctx, g, ts =>
    match ts with
    | .char '?' :: .char 'P' :: .char '<' :: rest =>
      match readName '>' rest with
      | .error e => .error e
      | .ok (name, rest) => parseCapture fuel ctx g (some name) rest
    | .char '?' :: .char 'P' :: .char '=' :: rest => do
      let (name, rest) ← readName ')' rest
      match Assoc.get? name g.names with
      | none => .error .unknownGroup
      | some index =>
        g.checkReference ctx index
        return ([.other (.backref index ctx.flags.folding)], g, rest)
    | .char '?' :: .char ':' :: rest =>
      match parseBody fuel ctx g rest with
      | .error e => .error e
      | .ok (pieces, g, rest) => .ok ([⟨pieces, .yes⟩], g, rest)
    | .char '?' :: .char '#' :: rest => do return ([], g, ← skipComment rest)
    | .char '?' :: .char '=' :: rest => parseLook fuel ctx g false true rest
    | .char '?' :: .char '!' :: rest => parseLook fuel ctx g false false rest
    | .char '?' :: .char '<' :: .char '=' :: rest => parseLook fuel ctx g true true rest
    | .char '?' :: .char '<' :: .char '!' :: rest => parseLook fuel ctx g true false rest
    | .char '?' :: .char '>' :: rest =>
      match parseBody fuel ctx g rest with
      | .error e => .error e
      | .ok (pieces, g, rest) => .ok ([.other (.atomic (nodeOf pieces))], g, rest)
    | .char '?' :: .char '(' :: rest =>
      match readCondition ctx g rest with
      | .error e => .error e
      | .ok (index, g, rest) => parseBranches fuel ctx g index rest
    | .char '?' :: .char c :: rest =>
      if c == '-' || (Flags.ofLetter? c).isSome then
        match readFlags true {} (.char c :: rest) with
        | .error e => .error e
        | .ok (.whole _, _) => .error .misplacedFlags
        | .ok (.inside added removed, rest) =>
          let inner := { ctx with flags := ctx.flags.within added removed }
          match parseBody fuel inner g rest with
          | .error e => .error e
          | .ok (pieces, g, rest) => .ok ([.other (nodeOf pieces)], g, rest)
      else .error .unknownGroupKind
    | .char '?' :: _ => .error .unknownGroupKind
    | ts => parseCapture fuel ctx g none ts

/-- Read the rest of a group that notes what it has matched. -/
def parseCapture : (fuel : Nat) → Context → Groups → (name : Option String) → List Token →
    Except Fault (List Item × Groups × List Token)
  | 0, _, _, _, _ => .error .unterminatedGroup
  | fuel + 1, ctx, g, name, ts =>
    match g.opened name with
    | .error e => .error e
    | .ok g =>
      let index := g.count
      match parseBody fuel ctx g ts with
      | .error e => .error e
      | .ok (pieces, g, rest) =>
        let body := nodeOf pieces
        .ok ([.other (.group index body)], g.closed index body, rest)

/-- Read the rest of a look-around. -/
def parseLook : (fuel : Nat) → Context → Groups → (behind positive : Bool) → List Token →
    Except Fault (List Item × Groups × List Token)
  | 0, _, _, _, _, _ => .error .unterminatedGroup
  | fuel + 1, ctx, g, behind, positive, ts =>
    let inner :=
      if behind && ctx.lookbehindFrom.isNone then { ctx with lookbehindFrom := some (g.count + 1) }
      else ctx
    match parseBody fuel inner g ts with
    | .error e => .error e
    | .ok (pieces, g, rest) =>
      let (item, g) := lookItem g behind positive (nodeOf pieces)
      .ok ([item], g, rest)

/-- Read the one or two sequences that follow a condition, and the parenthesis after them. -/
def parseBranches : (fuel : Nat) → Context → Groups → (index : Nat) → List Token →
    Except Fault (List Item × Groups × List Token)
  | 0, _, _, _, _ => .error .unterminatedGroup
  | fuel + 1, ctx, g, index, ts =>
    match parseSequence fuel ctx g [] ts with
    | .error e => .error e
    | .ok (present, g, .char '|' :: rest) =>
      match parseSequence fuel ctx g [] rest with
      | .error e => .error e
      | .ok (absent, g, rest) => do
        return ([.other (.given index (nodeOf present) (nodeOf absent))], g, ← closeGroup rest)
    | .ok (present, g, rest) => do
      return ([.other (.given index (nodeOf present) .empty)], g, ← closeGroup rest)

/-- Read alternatives and the parenthesis that closes them. -/
def parseBody : (fuel : Nat) → Context → Groups → List Token →
    Except Fault (List Piece × Groups × List Token)
  | 0, _, _, _ => .error .unterminatedGroup
  | fuel + 1, ctx, g, ts =>
    match parseAlternatives fuel ctx g [] ts with
    | .error e => .error e
    | .ok (pieces, g, rest) => do return (pieces, g, ← closeGroup rest)
end

/-! ### Patterns -/

/-- Read the flags for the whole pattern, which stand before its first item. -/
def leadingFlags : (fuel : Nat) → Flags → List Token → Except Fault (Flags × List Token)
  | 0, flags, ts => .ok (flags, ts)
  | fuel + 1, flags, ts =>
    match (Context.mk flags none).skip ts with
    | .char '(' :: .char '?' :: .char '#' :: rest => do
      leadingFlags fuel flags (← skipComment rest)
    | .char '(' :: .char '?' :: .char c :: rest =>
      let unread := .char '(' :: .char '?' :: .char c :: rest
      if (Flags.ofLetter? c).isSome then
        match readFlags true {} (.char c :: rest) with
        | .error e => .error e
        | .ok (.whole added, rest) => leadingFlags fuel (flags.union added) rest
        | .ok (.inside .., _) => .ok (flags, unread)
      else .ok (flags, unread)
    | ts => .ok (flags, ts)

/-- The tree of a pattern with its flags and groups. -/
structure Tree where
  flags : Flags
  groupCount : Nat
  names : Assoc String Nat
  node : Node

/-- Read the body of a pattern under the given flags. -/
def parseTree (flags : Flags) (body : List Char) : Except Fault Tree := do
  let ts := Token.ofChars body
  let (flags, ts) ← leadingFlags ts.length flags ts
  -- Each item takes one token and at most four nested calls.
  match parseAlternatives (5 * ts.length + 5) ⟨flags, none⟩ {} [] ts with
  | .error e => .error e
  | .ok (pieces, g, rest) =>
    if flags.conflicting then .error .conflictingFlags
    else if !rest.isEmpty then .error .unbalancedParenthesis
    else if g.count < g.asked then .error .unknownGroup
    else if g.unfixed then .error .variableLookbehind
    else .ok ⟨flags, g.count, g.names, nodeOf pieces⟩

end UserAgent.Regex
