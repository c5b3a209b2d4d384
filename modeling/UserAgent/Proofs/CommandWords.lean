import Mathlib.Data.List.TakeWhile
import UserAgent.CommandLine.Invocation
import UserAgent.Proofs.Compiled

/-!
# Words of a command

What options and operands the arguments of a command hold is known word by word: each option changes
the settings, and the operands are kept as they stand. Two dashes let operands begin with a dash. So
every list of user agents, with or without the lines of the input and for any selection of categories,
can be asked for on the command line (`CommandLine.ofArguments_parse`).
-/

namespace UserAgent.CommandLine

open Compiled

/-! ### Forms of words -/

namespace Word

variable {σ : Type} {g : Grammar σ} {s : String} {texts rest : List String} {word : Word σ}
  {words : List (Word σ)}

lemma ofText_of_head?_ne (h : s.toList.head? ≠ some '-') : ofText g s = .ok (.operand s) := by
  simp [ofText, h]

lemma text_of_ofText (h : ofText g s = .ok word) : word.text = s := by
  simp only [ofText] at h
  split at h
  · cases h
    rfl
  · split at h
    · cases h
      rfl
    · cases h
      rfl
    · split at h
      · cases h
        rfl
      · split at h <;> cases h <;> rfl
      · cases h

/-- No word is changed when its form is found. -/
lemma map_text_of_ofTexts (h : ofTexts g texts = .ok words) : words.map text = texts := by
  induction texts generalizing words with
  | nil =>
    cases h
    rfl
  | cons s texts ih =>
    rw [ofTexts] at h
    split at h
    · rename_i hdashes
      cases h
      simp [hdashes, text, Function.comp_def]
    · obtain ⟨word, hword, h⟩ := bind_eq_ok.mp h
      obtain ⟨others, hothers, h⟩ := bind_eq_ok.mp h
      cases h
      simp [text_of_ofText hword, ih hothers]

/-- Texts that do not end the options have these forms. -/
def Forms (g : Grammar σ) (texts : List String) (words : List (Word σ)) : Prop :=
  List.Forall₂ (fun s word => s ≠ "--" ∧ ofText g s = .ok word) texts words

/-- Texts with known forms are read one after another, whatever stands behind them. -/
lemma Forms.ofTexts_append (h : Forms g texts words) {others : List (Word σ)}
    (hrest : ofTexts g rest = .ok others) : ofTexts g (texts ++ rest) = .ok (words ++ others) := by
  induction h with
  | nil => exact hrest
  | cons hword _ ih =>
    rw [List.cons_append, ofTexts, if_neg hword.1, hword.2, ih]
    rfl

lemma forms_operands (h : ∀ s ∈ texts, s.toList.head? ≠ some '-') :
    Forms g texts (texts.map .operand) := by
  induction texts with
  | nil => exact .nil
  | cons s texts ih =>
    obtain ⟨hs, htexts⟩ := List.forall_mem_cons.mp h
    refine .cons ⟨?_, ofText_of_head?_ne hs⟩ (ih htexts)
    rintro rfl
    exact hs rfl

end Word

/-! ### Reading words -/

section Reading

variable {σ : Type} {g : Grammar σ} {operands : Operands σ} {settings settings' : σ}
  {switch : Switch σ} {text : String} {rest rest' : List (Word σ)}

/-- An option alone in its argument makes its change. -/
lemma readWords_option {sets : List (σ → Except Stop σ)}
    (hchanges : changes [⟨switch, none⟩] rest = .ok (sets, rest'))
    (happly : applyAll sets settings = .ok settings') :
    readWords g operands settings (.option text (some (switch, none)) :: rest) =
      readWords g operands settings' rest' := by
  rw [readWords]
  simp only [occurrences, bind, Except.bind]
  split
  · rename_i hstop
    rw [hchanges] at hstop
    cases hstop
  · rename_i sets' words hsets
    rw [hchanges] at hsets
    cases hsets
    rw [happly]
    show (readWords g operands settings' rest' >>= fun r => .ok (r.1, false || r.2)) = _
    cases readWords g operands settings' rest' <;> rfl

/-- A switch without a value changes the settings, and reading goes on. -/
lemma readWords_flag {set : σ → Except Stop σ} (heffect : switch.effect = .flag set)
    (hset : set settings = .ok settings') :
    readWords g operands settings (.option text (some (switch, none)) :: rest) =
      readWords g operands settings' rest := by
  have hchanges : changes [⟨switch, none⟩] rest = .ok ([set], rest) := by
    simp [changes, heffect]
  have happly : applyAll [set] settings = .ok settings' := by
    simp [applyAll, hset]
  exact readWords_option hchanges happly

/-- A switch with a value takes the operand behind it. -/
lemma readWords_value {set : String → σ → Except Stop σ} {value : String}
    (heffect : switch.effect = .value set) (hset : set value settings = .ok settings') :
    readWords g operands settings (.option text (some (switch, none)) :: .operand value :: rest) =
      readWords g operands settings' rest := by
  have hchanges : changes [⟨switch, none⟩] (.operand value :: rest) = .ok ([set value], rest) := by
    simp [changes, heffect]
  have happly : applyAll [set value] settings = .ok settings' := by
    simp [applyAll, hset]
  exact readWords_option hchanges happly

/-- One run of operands ends the words; the dashes before it are not among them. -/
lemma readWords_many {set : List String → σ → σ} {words : List (Word σ)}
    (hwords : ∀ word ∈ words, word.isOperand = true) :
    readWords g (.many set) settings words =
      .ok (set ((words.map Word.text).erase "--") settings, false) := by
  cases words with
  | nil =>
    rw [readWords]
    rfl
  | cons word rest =>
    obtain ⟨hword, hrest⟩ := List.forall_mem_cons.mp hwords
    -- All words are operands, so they are taken together.
    have htake : rest.takeWhile Word.isOperand = rest := List.takeWhile_eq_self_iff.mpr hrest
    have hdrop : rest.dropWhile Word.isOperand = [] := List.dropWhile_eq_nil_iff.mpr hrest
    cases word with
    | option text switch => cases hword
    | dashes =>
      rw [readWords]
      · simp only [htake, hdrop]
        rw [readWords]
        simp
      all_goals simp
    | operand text =>
      rw [readWords]
      · simp only [htake, hdrop]
        rw [readWords]
        simp
      all_goals simp

/-- A command takes all words that follow it. -/
lemma readWords_command {run : List String → σ → Except Stop (σ × Bool)} :
    readWords g (.command run) settings (.operand text :: rest) =
      run (text :: rest.map Word.text) settings := by
  rw [readWords]
  all_goals simp [Word.text]

end Reading

/-! ### The command that classifies -/

/-- The option that asks for JSON. -/
def jsonSwitch : Switch ParseCommand :=
  flagSwitch ["--json"] fun s => { s with json := true }

/-- The option that asks for the lines of the input. -/
def inputSwitch : Switch ParseCommand :=
  flagSwitch ["--stdin"] fun s => { s with readsInput := true }

/-- The arguments that select categories. -/
def categoryTexts (categories : List Category) : List String :=
  categories.flatMap fun c => ["--category", c.name]

/-- The arguments that ask for JSON, perhaps for the lines of the input, and for some categories. -/
def optionTexts (readsInput : Bool) (categories : List Category) : List String :=
  "--json" :: (if readsInput then ["--stdin"] else []) ++ categoryTexts categories

/-- The words of the arguments that select categories. -/
def categoryWords (categories : List Category) : List (Word ParseCommand) :=
  categories.flatMap fun c => [.option "--category" (some (categorySwitch, none)), .operand c.name]

/-- The words of the arguments that are options. -/
def optionWords (readsInput : Bool) (categories : List Category) : List (Word ParseCommand) :=
  .option "--json" (some (jsonSwitch, none)) ::
    (if readsInput then [.option "--stdin" (some (inputSwitch, none))] else []) ++
      categoryWords categories

lemma ofText_name {σ : Type} (g : Grammar σ) (c : Category) :
    c.name ≠ "--" ∧ Word.ofText g c.name = .ok (.operand c.name) := by
  cases c <;> exact ⟨by decide, rfl⟩

lemma forms_categoryTexts (categories : List Category) :
    Word.Forms parseGrammar (categoryTexts categories) (categoryWords categories) := by
  induction categories with
  | nil => exact .nil
  | cons c categories ih => exact .cons ⟨by decide, rfl⟩ (.cons (ofText_name _ c) ih)

lemma forms_optionTexts (readsInput : Bool) (categories : List Category) :
    Word.Forms parseGrammar (optionTexts readsInput categories)
      (optionWords readsInput categories) := by
  refine .cons ⟨by decide, rfl⟩ ?_
  cases readsInput with
  | false => exact forms_categoryTexts categories
  | true => exact .cons ⟨by decide, rfl⟩ (forms_categoryTexts categories)

/-- Categories are selected in the order of their options, as often as they are named. -/
lemma readWords_categoryWords (operands : Operands ParseCommand) (categories : List Category)
    (settings : ParseCommand) (rest : List (Word ParseCommand)) :
    readWords parseGrammar operands settings (categoryWords categories ++ rest) =
      readWords parseGrammar operands
        { settings with categories := settings.categories ++ categories } rest := by
  induction categories generalizing settings with
  | nil => simp [categoryWords]
  | cons c categories ih =>
    have hread : readWords parseGrammar operands settings
        (.option "--category" (some (categorySwitch, none)) :: .operand c.name ::
          (categoryWords categories ++ rest)) =
        readWords parseGrammar operands { settings with categories := settings.categories ++ [c] }
          (categoryWords categories ++ rest) := by
      apply readWords_value
      · rfl
      · cases c <;> rfl
    refine hread.trans ?_
    rw [ih]
    simp

/-- The options that ask for a reading of the input, for categories and for JSON are read into the
settings. -/
lemma readWords_optionWords (operands : Operands ParseCommand) (readsInput : Bool)
    (categories : List Category) (rest : List (Word ParseCommand)) :
    readWords parseGrammar operands {} (optionWords readsInput categories ++ rest) =
      readWords parseGrammar operands { readsInput, categories, json := true } rest := by
  have hjson : jsonSwitch.effect = .flag fun s => .ok { s with json := true } := rfl
  have hinput : inputSwitch.effect = .flag fun s => .ok { s with readsInput := true } := rfl
  refine (readWords_flag hjson rfl).trans ?_
  cases readsInput with
  | false => exact readWords_categoryWords operands categories _ rest
  | true =>
    refine (readWords_flag hinput rfl).trans ?_
    exact readWords_categoryWords operands categories _ rest

/-- Operands stand as they are, or after two dashes if some of them begin with a dash. -/
def Presents (operands userAgents : List String) : Prop :=
  operands = "--" :: userAgents ∨
    operands = userAgents ∧ ∀ u ∈ userAgents, u.toList.head? ≠ some '-'

/-- Operands that present user agents are words, and without the mark for the end of options they
are these user agents. -/
lemma Presents.exists_words {σ : Type} (g : Grammar σ) {operands userAgents : List String}
    (h : Presents operands userAgents) : ∃ words : List (Word σ),
      Word.ofTexts g operands = .ok words ∧ (∀ word ∈ words, word.isOperand = true) ∧
        (words.map Word.text).erase "--" = userAgents := by
  rcases h with rfl | ⟨rfl, hplain⟩
  · refine ⟨.dashes :: userAgents.map .operand, ?_, ?_, ?_⟩
    · rw [Word.ofTexts, if_pos rfl]
    · simp [Word.isOperand]
    · simp [Word.text, Function.comp_def]
  · have hread : Word.ofTexts g (operands ++ []) = .ok (operands.map .operand ++ []) :=
      (Word.forms_operands hplain).ofTexts_append rfl
    refine ⟨operands.map .operand, by simpa using hread, by simp [Word.isOperand], ?_⟩
    rw [List.map_map]
    have hdashes : "--" ∉ operands := fun hmem => hplain _ hmem rfl
    simp [Word.text, Function.comp_def, List.erase_of_not_mem hdashes]

/-- The words of a command are read back as the command. -/
lemma readCommand_parse {operands userAgents : List String} (h : Presents operands userAgents)
    (readsInput : Bool) (categories : List Category) :
    readCommand ("parse" :: optionTexts readsInput categories ++ operands) =
      .ok (.parse { userAgents, readsInput, categories, json := true }, false) := by
  obtain ⟨words, hwords, hoperands, htexts⟩ := h.exists_words parseGrammar
  have hread : parseGrammar.read {} (optionTexts readsInput categories ++ operands) =
      .ok ({ userAgents, readsInput, categories, json := true }, false) := by
    rw [Grammar.read, (forms_optionTexts readsInput categories).ofTexts_append hwords]
    show readWords parseGrammar _ {} _ = _
    rw [readWords_optionWords]
    refine (readWords_many hoperands).trans ?_
    rw [htexts]
  rw [List.cons_append, readCommand, hread]
  rfl

/-! ### The program -/

lemma exists_forms_categoryTexts (categories : List Category) :
    ∃ words, Word.Forms programGrammar (categoryTexts categories) words := by
  induction categories with
  | nil => exact ⟨[], .nil⟩
  | cons c categories ih =>
    obtain ⟨words, hwords⟩ := ih
    exact ⟨_, .cons ⟨by decide, rfl⟩ (.cons (ofText_name _ c) hwords)⟩

/-- The options of the command are not options of the program, but no word is refused for that. -/
lemma exists_forms_optionTexts (readsInput : Bool) (categories : List Category) :
    ∃ words, Word.Forms programGrammar (optionTexts readsInput categories) words := by
  obtain ⟨words, hwords⟩ := exists_forms_categoryTexts categories
  cases readsInput with
  | false => exact ⟨_, .cons ⟨by decide, rfl⟩ hwords⟩
  | true => exact ⟨_, .cons ⟨by decide, rfl⟩ (.cons ⟨by decide, rfl⟩ hwords)⟩

/-- Any user agents can be asked for, with or without the lines of the input, and for any categories:
the command gets all of them in their order. -/
theorem ofArguments_parse {operands userAgents : List String} (h : Presents operands userAgents)
    (readsInput : Bool) (categories : List Category) :
    Invocation.ofArguments ("parse" :: optionTexts readsInput categories ++ operands) =
      .ok { command := some (.parse { userAgents, readsInput, categories, json := true }) } := by
  obtain ⟨options, hoptions⟩ := exists_forms_optionTexts readsInput categories
  obtain ⟨words, hwords, -, -⟩ := h.exists_words programGrammar
  -- The name of the command is an operand, and all behind it is read by the command.
  have hparse : Word.Forms programGrammar ("parse" :: optionTexts readsInput categories)
      (.operand "parse" :: options) := .cons ⟨by decide, rfl⟩ hoptions
  have hforms := hparse.ofTexts_append hwords
  have htexts := Word.map_text_of_ofTexts hforms
  have hcommand := readCommand_parse h readsInput categories
  rw [← htexts] at hcommand
  have hread : programGrammar.read {} ("parse" :: optionTexts readsInput categories ++ operands) =
      .ok ({ command := some (.parse { userAgents, readsInput, categories, json := true }) },
        false) := by
    rw [Grammar.read, hforms]
    refine readWords_command.trans ?_
    show (readCommand ((Word.operand "parse" :: options ++ words).map Word.text) >>= _) = _
    rw [hcommand]
    rfl
  rw [Invocation.ofArguments, hread]
  rfl

end UserAgent.CommandLine
