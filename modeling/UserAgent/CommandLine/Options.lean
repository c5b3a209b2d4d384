import UserAgent.Regex.Template

/-!
# Options and operands

The arguments of a command are options, their values and operands. An option is spelled with one dash
and a letter or with two dashes and a word, which may be abbreviated; letters may be joined, and a value
may follow its option in the same argument. Two dashes alone end the options.
-/

namespace UserAgent.CommandLine

/-! ### Grammars -/

/-- Why arguments are not read to their end. -/
inductive Stop where
  | help
  | version
  | misuse
deriving DecidableEq, Repr

/-- What an option does to the settings that have been read. -/
inductive Effect (σ : Type) where
  | flag (set : σ → Except Stop σ)
  | value (set : String → σ → Except Stop σ)

/-- An option. -/
structure Switch (σ : Type) where
  spellings : List String
  effect : Effect σ

/-- The arguments that are not options. -/
inductive Operands (σ : Type) where
  | none
  /-- One run of operands, which may be empty. -/
  | many (set : List String → σ → σ)
  /-- A command with all arguments that follow it. It tells whether some of them are unknown. -/
  | command (run : List String → σ → Except Stop (σ × Bool))

/-- The options and operands that a command has. -/
structure Grammar (σ : Type) where
  switches : List (Switch σ)
  operands : Operands σ

variable {σ : Type}

namespace Grammar

/-- The option with a spelling. -/
def switch? (g : Grammar σ) (spelling : List Char) : Option (Switch σ) :=
  g.switches.find? fun s => s.spellings.any (·.toList == spelling)

/-- The options whose spellings begin with some characters, once for every such spelling. -/
def abbreviated (g : Grammar σ) (start : List Char) : List (Switch σ) :=
  g.switches.flatMap fun s => (s.spellings.filter fun t => start.isPrefixOf t.toList).map fun _ => s

end Grammar

/-! ### Words -/

/-- A value in the argument of its option, perhaps after an equals sign. -/
structure Attached where
  equals : Bool
  text : List Char

/-- An argument by its form. An option may be unknown. -/
inductive Word (σ : Type) where
  | dashes
  | operand (text : String)
  | option (text : String) (switch : Option (Switch σ × Option Attached))

namespace Word

/-- The argument itself. -/
def text : Word σ → String
  | dashes => "--"
  | operand text | option text _ => text

/-- Whether an argument is no option. -/
def isOperand : Word σ → Bool
  | option .. => false
  | _ => true

/-- Whether characters are a negative number, perhaps before a line break. -/
def isNegativeNumber : List Char → Bool
  | '-' :: cs =>
    let cs := if cs.getLast? == some '\n' then cs.dropLast else cs
    match cs.takeWhile Template.isDigit, cs.dropWhile Template.isDigit with
    | _ :: _, [] => true
    | _, '.' :: fraction => !fraction.isEmpty && fraction.all Template.isDigit
    | _, _ => false
  | _ => false

/-- The characters before the first equals sign, and those after it if there is one. -/
def splitEquals (cs : List Char) : List Char × Option Attached :=
  match cs.dropWhile (· != '=') with
  | _ :: value => (cs.takeWhile (· != '='), some ⟨true, value⟩)
  | [] => (cs, none)

/-- The options that an argument may abbreviate, or whose value it may hold. -/
def candidates (g : Grammar σ) (cs : List Char) : List (Switch σ × Option Attached) :=
  match cs with
  | '-' :: '-' :: _ =>
    let (start, attached) := splitEquals cs
    (g.abbreviated start).map (·, attached)
  | '-' :: letter :: value => ((g.switch? ['-', letter]).map (·, some ⟨false, value⟩)).toList
  | _ => []

/-- The form of an argument before the end of the options. -/
def ofText (g : Grammar σ) (text : String) : Except Stop (Word σ) :=
  let cs := text.toList
  if cs.head? != some '-' || cs == ['-'] then .ok (.operand text)
  else
    let (spelling, attached) := splitEquals cs
    match g.switch? cs, g.switch? spelling with
    | some switch, _ => .ok (.option text (some (switch, none)))
    | none, some switch => .ok (.option text (some (switch, attached)))
    | none, none =>
      match candidates g cs with
      | [candidate] => .ok (.option text (some candidate))
      | [] =>
        if isNegativeNumber cs || cs.contains ' ' then .ok (.operand text)
        else .ok (.option text none)
      | _ => .error .misuse

/-- The forms of arguments. -/
def ofTexts (g : Grammar σ) : List String → Except Stop (List (Word σ))
  | [] => .ok []
  | text :: rest =>
    if text = "--" then .ok (.dashes :: rest.map .operand)
    else do return (← ofText g text) :: (← ofTexts g rest)

end Word

/-! ### Occurrences of options -/

/-- An option with the value that its argument holds. -/
structure Occurrence (σ : Type) where
  switch : Switch σ
  value : Option String

/-- The options that are joined in one argument, and whether what remains of it is unknown. Only an
option without a value can be followed by another letter. -/
def joined (g : Grammar σ) (switch : Switch σ) (equals : Bool) (cs : List Char) :
    Except Stop (List (Occurrence σ) × Bool) :=
  match switch.effect with
  | .value _ => .ok ([⟨switch, some (String.ofList cs)⟩], false)
  | .flag _ =>
    match cs with
    | [] => .error .misuse
    | letter :: rest =>
      if equals || letter == '-' then .error .misuse
      else
        match g.switch? ['-', letter] with
        | none => .ok ([⟨switch, none⟩], true)
        | some next =>
          if rest.isEmpty then .ok ([⟨switch, none⟩, ⟨next, none⟩], false)
          else do
            let (following, unknown) ←
              joined g next (rest.head? == some '=')
                (if rest.head? == some '=' then rest.tail else rest)
            return (⟨switch, none⟩ :: following, unknown)
termination_by cs.length
decreasing_by split <;> simp only [List.length_cons, List.length_tail] <;> omega

/-- The options of an argument. -/
def occurrences (g : Grammar σ) (switch : Switch σ) :
    Option Attached → Except Stop (List (Occurrence σ) × Bool)
  | none => .ok ([⟨switch, none⟩], false)
  | some attached => joined g switch attached.equals attached.text

/-- The changes that options make, with the words that remain when the last option has taken its value
from them. -/
def changes : List (Occurrence σ) → List (Word σ) →
    Except Stop (List (σ → Except Stop σ) × List (Word σ))
  | [], words => .ok ([], words)
  | ⟨switch, value⟩ :: rest, words =>
    match switch.effect, value with
    | .flag set, _ => do
      let (others, words) ← changes rest words
      return (set :: others, words)
    | .value set, some value => do
      let (others, words) ← changes rest words
      return (set value :: others, words)
    | .value set, none =>
      match words with
      | .operand value :: words => do
        let (others, words) ← changes rest words
        return (set value :: others, words)
      | _ => .error .misuse

/-- Options take words away and add none, which is why reading the words comes to an end. -/
theorem length_changes_le {os : List (Occurrence σ)} {words words' : List (Word σ)}
    {sets : List (σ → Except Stop σ)} (h : changes os words = .ok (sets, words')) :
    words'.length ≤ words.length := by
  induction os generalizing words sets words' with
  | nil => simp_all [changes]
  | cons o os ih =>
    obtain ⟨switch, value⟩ := o
    simp only [changes] at h
    split at h
    · cases hc : changes os words with
      | error e => simp [hc, bind, Except.bind] at h
      | ok r =>
        simp only [hc, bind, Except.bind, pure, Except.pure, Except.ok.injEq, Prod.mk.injEq] at h
        exact h.2 ▸ ih hc
    · cases hc : changes os words with
      | error e => simp [hc, bind, Except.bind] at h
      | ok r =>
        simp only [hc, bind, Except.bind, pure, Except.pure, Except.ok.injEq, Prod.mk.injEq] at h
        exact h.2 ▸ ih hc
    · split at h
      · rename_i text rest
        cases hc : changes os rest with
        | error e => simp [hc, bind, Except.bind] at h
        | ok r =>
          simp only [hc, bind, Except.bind, pure, Except.pure, Except.ok.injEq, Prod.mk.injEq] at h
          have := ih hc
          simp only [List.length_cons]
          exact h.2 ▸ Nat.le_succ_of_le this
      · simp at h

/-! ### Reading -/

/-- Make changes one after the other. -/
def applyAll (sets : List (σ → Except Stop σ)) (settings : σ) : Except Stop σ :=
  sets.foldlM (fun settings set => set settings) settings

/-- Read words, given the operands that are still expected. Tells whether some are unknown. -/
def readWords (g : Grammar σ) (operands : Operands σ) (settings : σ) :
    List (Word σ) → Except Stop (σ × Bool)
  | [] =>
    match operands with
    | .many set => .ok (set [] settings, false)
    | _ => .ok (settings, false)
  | .option _ none :: rest => do
    let (settings, _) ← readWords g operands settings rest
    return (settings, true)
  | .option _ (some (switch, attached)) :: rest => do
    let (os, unknown) ← occurrences g switch attached
    match h : changes os rest with
    | .error stop => .error stop
    | .ok (sets, rest') =>
      have := length_changes_le h
      let (settings, others) ← readWords g operands (← applyAll sets settings) rest'
      return (settings, unknown || others)
  | word :: rest =>
    match operands with
    | .none => do
      let (settings, _) ← readWords g .none settings rest
      return (settings, true)
    | .many set =>
      let taken := word :: rest.takeWhile Word.isOperand
      let texts := (taken.map Word.text).erase "--"
      have := (List.dropWhile_sublist (l := rest) Word.isOperand).length_le
      readWords g .none (set texts settings) (rest.dropWhile Word.isOperand)
    | .command run =>
      match word, rest with
      | .dashes, [] => .ok (settings, true)
      | word, rest => run ((word :: rest).map Word.text) settings
termination_by words => words.length
decreasing_by all_goals simp only [List.length_cons]; omega

/-- Read arguments. Tells whether some are unknown. -/
def Grammar.read (g : Grammar σ) (settings : σ) (arguments : List String) :
    Except Stop (σ × Bool) := do
  readWords g g.operands settings (← Word.ofTexts g arguments)

end UserAgent.CommandLine
