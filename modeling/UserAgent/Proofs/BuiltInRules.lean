import UserAgent.Proofs.Export
import UserAgent.RuleSet.BuiltIn

/-!
# The built-in rules, compiled

The built-in table compiles, and its rules can be evaluated. The evaluation starts from the characters
of the patterns: to take a text apart again that was given as a literal takes far longer than to
compile it.
-/

namespace UserAgent

open Compiled

/-! ### Characters of texts -/

/-- A text that is put together from literals, with their characters. -/
inductive Spelled : String → Type
  | append {s t : String} (first : Spelled s) (second : Spelled t) : Spelled (s ++ t)
  | literal (cs : List Char) : Spelled (String.ofList cs)

/-- One or more texts with their characters. -/
inductive SpelledTexts : List String → Type
  | one {s : String} (spelled : Spelled s) : SpelledTexts [s]
  | cons {s : String} {texts : List String} (first : Spelled s) (rest : SpelledTexts texts) :
    SpelledTexts (s :: texts)

/-- Rules with the characters of their patterns. -/
inductive SpelledRules : List Json → Type
  | nil : SpelledRules []
  | cons {patterns : List String} {rules : List Json} (spelled : SpelledTexts patterns)
    (specs : List Json) (rest : SpelledRules rules) :
    SpelledRules (RuleSet.BuiltIn.rule patterns specs :: rules)

/-! ### Compilation of what was spelled -/

/-- The characters of a text. -/
def Spelled.chars {s : String} : Spelled s → List Char
  | .append first second => first.chars ++ second.chars
  | .literal cs => cs

/-- The pattern of a text without delimiters. -/
def Spelled.compile {s : String} (spelled : Spelled s) : Option Pattern :=
  if (Pattern.delimited? spelled.chars).isSome then none
  else (Pattern.ofBody spelled.chars { ignoreCase := true }).toOption

/-- The patterns of texts without delimiters. -/
def SpelledTexts.compile {texts : List String} : SpelledTexts texts → Option (List Pattern)
  | .one spelled => do return [← spelled.compile]
  | .cons first rest => do return (← first.compile) :: (← rest.compile)

/-- The rules that were spelled. -/
def SpelledRules.compile {rules : List Json} : SpelledRules rules → Option RuleGroup
  | .nil => some []
  | .cons spelled specs rest => do
    let patterns ← spelled.compile
    let fields ← (specs.mapM (FieldSpec.decode {})).toOption
    return ⟨patterns, fields⟩ :: (← rest.compile)

lemma toOption_eq_some {ε α : Type} {x : Except ε α} {a : α} : x.toOption = some a ↔ x = .ok a := by
  cases x <;> simp [Except.toOption]

namespace Spelled

variable {s : String}

lemma chars_eq (spelled : Spelled s) : spelled.chars = s.toList := by
  induction spelled with
  | append first second ihFirst ihSecond =>
    rw [chars, ihFirst, ihSecond, String.toList_append]
  | literal cs => rw [chars, String.toList_ofList]

lemma compile_eq_some {spelled : Spelled s} {p : Pattern} (h : spelled.compile = some p) :
    Pattern.compile s = .ok p := by
  rw [compile, chars_eq] at h
  split at h
  · cases h
  · rename_i hplain
    rw [Pattern.compile, Option.not_isSome_iff_eq_none.mp hplain]
    exact toOption_eq_some.mp h

end Spelled

/-- Patterns that compile from their letters compile from their texts. -/
lemma SpelledTexts.compile_eq_some {texts : List String} {spelled : SpelledTexts texts}
    {ps : List Pattern} (h : spelled.compile = some ps) :
    texts ≠ [] ∧ List.Forall₂ (fun text p => Pattern.compile text = .ok p) texts ps := by
  induction spelled generalizing ps with
  | one spelled =>
    obtain ⟨p, hp, h⟩ := Option.bind_eq_some_iff.mp h
    obtain rfl : [p] = ps := by simpa using h
    exact ⟨List.cons_ne_nil _ _, .cons (Spelled.compile_eq_some hp) .nil⟩
  | cons first rest ih =>
    obtain ⟨p, hp, h⟩ := Option.bind_eq_some_iff.mp h
    obtain ⟨ps', hps, h⟩ := Option.bind_eq_some_iff.mp h
    obtain rfl : p :: ps' = ps := by simpa using h
    exact ⟨List.cons_ne_nil _ _, .cons (Spelled.compile_eq_some hp) (ih hps).2⟩

/-- A rule compiles to its patterns and specifications, given that each of them does. -/
lemma Rule.compile_of_patterns [CharacterNames] {v : Vocabulary} {texts : List String}
    {specs : List Json} {rule : Rule}
    (hne : texts ≠ []) (htexts : List.Forall₂ (fun text p => Pattern.compile text = .ok p) texts
      rule.patterns) (hspecs : specs.mapM (FieldSpec.decode v) = .ok rule.fields) :
    Rule.compile v (.ofTexts texts) (.arr specs) = .ok rule := by
  refine Rule.compile_eq_ok.mpr ⟨?_, ?_, specs, rfl, hspecs⟩
  · simpa [Json.ofTexts, patternList] using hne
  · rw [Json.ofTexts, patternList, mapM_eq_ok, List.forall₂_map_left_iff]
    exact htexts.imp fun text p hp => FieldSpec.compilePatternValue_eq_ok.mpr ⟨text, rfl, hp⟩

/-- Rules that compile from their letters are split into pairs that compile to the same rules. -/
lemma SpelledRules.exists_pairs {rules : List Json} {spelled : SpelledRules rules} {group : RuleGroup}
    (h : spelled.compile = some group) : ∃ pairs,
      (∀ category index, RuleGroup.splitPaired category index rules = .ok pairs) ∧
      List.Forall₂ (fun pair rule => Rule.compile {} pair.1 pair.2 = .ok rule) pairs group := by
  induction spelled generalizing group with
  | nil =>
    obtain rfl : [] = group := by simpa [compile] using h
    exact ⟨[], fun _ _ => rfl, .nil⟩
  | @cons texts rules spelled specs rest ih =>
    obtain ⟨ps, hps, h⟩ := Option.bind_eq_some_iff.mp h
    obtain ⟨fields, hfields, h⟩ := Option.bind_eq_some_iff.mp h
    obtain ⟨group', hgroup', h⟩ := Option.bind_eq_some_iff.mp h
    obtain rfl : ⟨ps, fields⟩ :: group' = group := by simpa using h
    obtain ⟨hne, htexts⟩ := SpelledTexts.compile_eq_some hps
    obtain ⟨pairs, hsplit, hpairs⟩ := ih hgroup'
    refine ⟨(.ofTexts texts, .arr specs) :: pairs, fun category index => ?_, .cons ?_ hpairs⟩
    · rw [RuleSet.BuiltIn.rule, RuleGroup.splitPaired, hsplit]
      rfl
    · exact Rule.compile_of_patterns hne htexts (toOption_eq_some.mp hfields)

/-- What was compiled from the characters is what the rules stand for. -/
theorem SpelledRules.compile_eq_some {rules : List Json} {spelled : SpelledRules rules}
    {group : RuleGroup} (h : spelled.compile = some group) (category : String) :
    RuleGroup.compile {} category (.arr rules) = .ok group := by
  obtain ⟨pairs, hsplit, hpairs⟩ := exists_pairs h
  refine RuleGroup.compile_eq_ok.mpr ⟨rules, pairs, rfl, ?_, hpairs⟩
  cases spelled with
  | nil => exact hsplit category 0
  | cons spelled specs rest => exact hsplit category 0

/-! ### The built-in table -/

namespace RuleSet.BuiltIn

/-- The rules of a category. -/
def rules : Category → List Json
  | .browser => browserRules
  | .engine => engineRules
  | .os => osRules
  | .cpu => cpuRules
  | .device => deviceRules

-- The characters are found when the type of a literal is compared with that of `Spelled.literal`.
def spelled : (c : Category) → SpelledRules (rules c)
  | .browser => by repeat constructor
  | .engine => by repeat constructor
  | .os => by repeat constructor
  | .cpu => by repeat constructor
  | .device => by repeat constructor

lemma isSome_compile (c : Category) : (spelled c).compile.isSome := by
  cases c <;> decide +kernel

lemma table_eq : table = .obj (("version", .str "2026.10") :: ("last_updated", .str "2026-10-19") ::
    Category.all.map fun c => (c.name, .arr (rules c))) := rfl

/-- The built-in table is accepted, and the built-in rule set is what it stands for. Its rules are those
that were compiled from the characters. -/
theorem value_ofTable : (ofTable {} table).value = .ok builtIn ∧
    ∀ c, (spelled c).compile = some (builtIn.group c) := by
  have hcompile : ∀ c, ∃ group, (spelled c).compile = some group := fun c =>
    Option.isSome_iff_exists.mp (isSome_compile c)
  choose compiled hcompiled using hcompile
  let groups : RuleGroups :=
    ⟨compiled .browser, compiled .engine, compiled .os, compiled .cpu, compiled .device⟩
  have hget : ∀ c, groups.get c = compiled c := by
    intro c
    cases c <;> rfl
  -- Each category compiles from its letters, and so from the table.
  have hrules : ∀ c, RuleGroup.compile {} c.name (.arr (rules c)) = .ok (groups.get c) := by
    intro c
    rw [hget]
    exact SpelledRules.compile_eq_some (hcompiled c) c.name
  have htable : ∃ r, (ofTable {} table).value = .ok r ∧ r.groups = groups :=
    ⟨⟨groups, _, _, none, none⟩,
      ofTable_eq_ok.mpr ⟨_, table_eq, compileMembers_all_eq_ok.mpr hrules, rfl, rfl, rfl, rfl⟩, rfl⟩
  obtain ⟨r, hr, hgroups⟩ := htable
  have hbuiltIn : builtIn = r := by
    rw [builtIn, toOption_eq_some.mpr hr, Option.getD_some]
  rw [hbuiltIn]
  refine ⟨hr, fun c => ?_⟩
  rw [hcompiled, RuleSet.group, hgroups, hget]

/-- What can be seen of the compiled rules of a category is so of the built-in rules. -/
lemma test_group (c : Category) (test : RuleGroup → Bool) (h : (spelled c).compile.all test = true) :
    test (builtIn.group c) = true := by
  rw [value_ofTable.2 c, Option.all_some] at h
  exact h

/-- What can be seen to hold of the compiled rules of a category holds of the built-in rules. -/
lemma forall_rules {c : Category} {test : Rule → Bool}
    (h : (spelled c).compile.all (·.all test) = true) : ∀ rule ∈ builtIn.group c, test rule :=
  List.all_eq_true.mp (test_group c (·.all test) h)

/-- The built-in rules apply none but the built-in transforms. -/
lemma exists_find?_of_mem {c : Category} {rule : Rule} (hrule : rule ∈ builtIn.group c)
    {spec : FieldSpec} (hspec : spec ∈ rule.fields) {t : Transform} (ht : spec.transform? = some t) :
    ∃ token, Transforms.builtIn.find? token = some t := by
  obtain ⟨_, _, hcompile⟩ := exists_compile value_ofTable.1 hrule
  exact Rule.exists_find?_of_compile hcompile hspec ht

end RuleSet.BuiltIn

end UserAgent
