import UserAgent.Proofs.Export
import UserAgent.Proofs.FirstMatch
import UserAgent.Proofs.KeptRules

/-!
# Canonical rule tables

A rule table can be written in more than one way. In a canonical table the keys of the categories are
in lower case, rules are pairs of a list of patterns and a list of specifications, and no pattern has
delimiters or a flag that needs them. A canonical table that was read is written as it was:
`RuleSet.toTable_of_canonical`.
-/

namespace UserAgent

open Compiled

/-! ### Patterns -/

namespace Pattern

variable [CharacterNames]

/-- A text that stands for a pattern as it is: it has no delimiters, and the pattern has none of the
flags that need them. -/
structure WrittenPlainly (text : String) : Prop where
  undelimited : delimited? text.toList = none
  flags : ∀ p, compile text = .ok p →
    p.flags.multiline = false ∧ p.flags.dotAll = false ∧ p.flags.verbose = false

omit [CharacterNames] in
/-- No letter has to be written for a pattern without the flags m, s and x. -/
lemma extraLetters_eq_nil_iff {p : Pattern} : p.extraLetters = [] ↔
    p.flags.multiline = false ∧ p.flags.dotAll = false ∧ p.flags.verbose = false := by
  unfold extraLetters
  cases p.flags.multiline <;> cases p.flags.dotAll <;> cases p.flags.verbose <;> simp

lemma writtenPlainly_iff {text : String} : WrittenPlainly text ↔ delimited? text.toList = none ∧
    (compile text).toOption.all (·.extraLetters.isEmpty) = true := by
  constructor
  · rintro ⟨hundelimited, hflags⟩
    refine ⟨hundelimited, ?_⟩
    cases hp : compile text with
    | error e => rfl
    | ok p => exact List.isEmpty_iff.mpr (extraLetters_eq_nil_iff.mpr (hflags p hp))
  · rintro ⟨hundelimited, hextra⟩
    refine ⟨hundelimited, fun p hp => ?_⟩
    rw [hp] at hextra
    exact extraLetters_eq_nil_iff.mp (List.isEmpty_iff.mp hextra)

instance (text : String) : Decidable (WrittenPlainly text) :=
  decidable_of_iff _ writtenPlainly_iff.symm

/-- A pattern that is written plainly is written back as it was. -/
lemma text_of_writtenPlainly {text : String} {p : Pattern} (hplain : WrittenPlainly text)
    (h : compile text = .ok p) : p.text = text := by
  have hextra : p.extraLetters = [] := extraLetters_eq_nil_iff.mpr (hplain.flags p h)
  rw [compile, hplain.undelimited] at h
  rw [Pattern.text, hextra, List.isEmpty_nil, if_pos rfl, ← String.toList_inj]
  exact body_of_ofBody h

end Pattern

/-! ### Specifications -/

namespace FieldSpec

/-- The text of the pattern that a specification searches for. The keyword of lookups is none. -/
def searchSource? : Json → Option String
  | .arr [.str _, .str second, .str _] => if second = mappingKeyword then none else some second
  | .arr [.str _, .str pattern, .str _, .str _] => some pattern
  | _ => none

/-- A specification whose search pattern, if it has one, is written plainly. -/
def Canonical [CharacterNames] (spec : Json) : Prop :=
  ∀ text, searchSource? spec = some text → Pattern.WrittenPlainly text

/-- A canonical specification is written back as it was. -/
lemma encode_of_decode [CharacterNames] {v : Vocabulary} (hv : v.OwnNames) {spec : Json}
    {f : FieldSpec} (hspec : Canonical spec) (h : decode v spec = .ok f) : f.encode = spec := by
  cases decode_eq_ok.mp h with
  | copy hname => rfl
  | literal hname htoken hnear => rfl
  | transform hname htoken => rw [encode, hv.name_of_transform htoken]
  | mapped hname hkey => rw [encode, hv.name_of_table hkey]
  | substitute hname hpattern hs =>
    obtain ⟨hcompile, -, hsource⟩ := compileSubstitution_eq_ok.mp hs
    rw [encode, hsource, Pattern.text_of_writtenPlainly (hspec _ (if_neg hpattern)) hcompile]
  | substituteTransform hname htoken hs =>
    obtain ⟨hcompile, -, hsource⟩ := compileSubstitution_eq_ok.mp hs
    rw [encode, hsource, hv.name_of_transform htoken,
      Pattern.text_of_writtenPlainly (hspec _ rfl) hcompile]

end FieldSpec

/-! ### Rules -/

namespace Rule

/-- A rule that is written as a list of patterns, all of them plain, and a list of specifications. -/
structure Canonical [CharacterNames] (patterns specs : List Json) : Prop where
  patterns : ∀ text, .str text ∈ patterns → Pattern.WrittenPlainly text
  specs : ∀ spec ∈ specs, FieldSpec.Canonical spec

/-- So is a canonical rule. -/
lemma encode_of_compile [CharacterNames] {v : Vocabulary} (hv : v.OwnNames)
    {patterns specs : List Json} {rule : Rule}
    (hcanonical : Canonical patterns specs) (h : compile v (.arr patterns) (.arr specs) = .ok rule) :
    rule.encode = .arr [.arr patterns, .arr specs] := by
  obtain ⟨-, hpatterns, _, ⟨⟩, hfields⟩ := compile_eq_ok.mp h
  have hwritten : rule.patterns.map (fun p => Json.str p.text) = patterns.map id := by
    refine map_eq_map_of_forall₂ (mapM_eq_ok.mp hpatterns) fun value hvalue p hp => ?_
    obtain ⟨text, rfl, hcompile⟩ := FieldSpec.compilePatternValue_eq_ok.mp hp
    rw [Pattern.text_of_writtenPlainly (hcanonical.patterns text hvalue) hcompile, id]
  have hspecs : rule.fields.map FieldSpec.encode = specs.map id :=
    map_eq_map_of_forall₂ (mapM_eq_ok.mp hfields) fun spec hspec f hf =>
      FieldSpec.encode_of_decode hv (hcanonical.specs spec hspec) hf
  rw [List.map_id] at hwritten hspecs
  rw [encode, Json.ofTexts, List.map_map, hspecs]
  exact congrArg (fun patterns => Json.arr [.arr patterns, .arr specs]) hwritten

end Rule

namespace RuleGroup

/-- The rules of a category in pairs, each of them canonical. -/
def Canonical [CharacterNames] (value : Json) : Prop :=
  ∃ rules : List (List Json × List Json), (∀ rule ∈ rules, Rule.Canonical rule.1 rule.2) ∧
    value = .arr (pairedEntries (rules.map fun rule => (.arr rule.1, .arr rule.2)))

/-- So are the rules of a category. -/
lemma encode_of_compile [CharacterNames] {v : Vocabulary} (hv : v.OwnNames) {category : String}
    {value : Json} {group : RuleGroup}
    (hcanonical : Canonical value) (h : compile v category value = .ok group) :
    group.encode = value := by
  obtain ⟨rules, hrules, rfl⟩ := hcanonical
  obtain ⟨_, pairs, ⟨⟩, hsplit, hgroup⟩ := compile_eq_ok.mp h
  have hpairs : ∀ pair ∈ rules.map fun rule => (Json.arr rule.1, Json.arr rule.2),
      isPair (.arr [pair.1, pair.2]) = true := by
    intro pair hpair
    obtain ⟨rule, -, rfl⟩ := List.mem_map.mp hpair
    rfl
  rw [split_pairedEntries hpairs] at hsplit
  cases hsplit
  rw [encode, pairedEntries]
  refine congrArg Json.arr (map_eq_map_of_forall₂ hgroup fun pair hpair rule hrule => ?_)
  obtain ⟨⟨patterns, specs⟩, hmem, rfl⟩ := List.mem_map.mp hpair
  exact Rule.encode_of_compile hv (hrules _ hmem) hrule

end RuleGroup

/-! ### Tables -/

namespace RuleSet

/-- A table whose keys name categories in lower case, and give them canonical rules. -/
structure Canonical [CharacterNames] (members : List (String × Json)) : Prop where
  keys : ∀ member ∈ members, ∀ c, Category.ofName? member.1 = some c → member.1 = c.name
  rules : ∀ member ∈ members, ∀ c, Category.ofName? member.1 = some c →
    RuleGroup.Canonical member.2

lemma Canonical.tail [CharacterNames] {member : String × Json} {rest : List (String × Json)}
    (h : Canonical (member :: rest)) : Canonical rest where
  keys m hm := h.keys m (List.mem_cons_of_mem _ hm)
  rules m hm := h.rules m (List.mem_cons_of_mem _ hm)

/-- Groups that were filled from a canonical table are written as the table has them. -/
lemma encode_of_compileMembers [CharacterNames] {v : Vocabulary} (hv : v.OwnNames)
    {groups groups' : RuleGroups} {members : List (String × Json)} (hcanonical : Canonical members)
    (h : (compileMembers v groups members).value = .ok groups') (c : Category) :
    (groups'.get c).encode = (Assoc.last? c.name members).getD (groups.get c).encode := by
  -- A member replaces the rules of its category, so what counts is the last one.
  induction members generalizing groups with
  | nil =>
    cases h
    rfl
  | cons member rest ih =>
    obtain ⟨key, value⟩ := member
    rw [value_compileMembers_cons] at h
    cases hkey : Category.ofName? key with
    | none =>
      rw [hkey] at h
      have hne : key ≠ c.name := by
        rintro rfl
        rw [Category.ofName?_name] at hkey
        cases hkey
      rw [ih hcanonical.tail h, Assoc.last?_cons, if_neg hne, Option.or_none]
    | some d =>
      rw [hkey] at h
      obtain ⟨rules, hrules, h⟩ := bind_eq_ok.mp h
      obtain rfl : key = d.name := hcanonical.keys _ List.mem_cons_self d hkey
      have hvalue := RuleGroup.encode_of_compile hv
        (hcanonical.rules _ List.mem_cons_self d hkey) hrules
      rw [ih hcanonical.tail h, Assoc.last?_cons]
      by_cases hd : d = c
      · subst hd
        rw [if_pos rfl, RuleGroups.get_set_self, hvalue]
        cases Assoc.last? d.name rest <;> rfl
      · rw [if_neg fun hname => hd (Category.name_injective hname), Option.or_none,
          RuleGroups.get_set_of_ne _ hd]

/-- A table that is written has every category, with its rules. -/
lemma get?_toTable (r : RuleSet) (c : Category) : r.toTable.get? c.name = some (r.group c).encode := by
  cases c <;> rfl

/-- A canonical table that was read is written as it was: for each category that it has, the rules as
they stand in the table, and none for the others. -/
theorem toTable_of_canonical [CharacterNames] {v : Vocabulary} (hv : v.OwnNames)
    {members : List (String × Json)}
    {source fileHash : Option String} {r : RuleSet} (hcanonical : Canonical members)
    (h : (ofTable v (.obj members) source fileHash).value = .ok r) (c : Category) :
    r.toTable.get? c.name = some ((Assoc.last? c.name members).getD (.arr [])) := by
  obtain ⟨_, ⟨⟩, hgroups, -⟩ := ofTable_eq_ok.mp h
  rw [get?_toTable, RuleSet.group, encode_of_compileMembers hv hcanonical hgroups c]
  cases c <;> rfl

/-- The patterns of a canonical rule. -/
def foxPatterns : List Json := [.str "(fox)", .str "owl"]

/-- The specifications of a canonical rule, one of each kind. The template of the first replacement
refers to groups in both notations, and the second replacement searches for the keyword of lookups. -/
def foxSpecs : List Json :=
  [.str "name", .ofTexts ["kind", "wild"], .ofTexts ["note", "capitals"],
    .ofTexts ["version", "(-)", "$1\\g<0>"], .ofTexts ["system", "mapping", "windows"],
    .ofTexts ["model", "mapping", "", "lowerize"]]

/-- A canonical table with one rule. -/
def plainFoxTable : List (String × Json) :=
  [("version", .str "7"), ("browser", .arr [.arr [.arr foxPatterns, .arr foxSpecs]])]

lemma canonical_foxRule : Rule.Canonical foxPatterns foxSpecs where
  patterns text htext := by
    have hcases : text = "(fox)" ∨ text = "owl" := by
      simpa [foxPatterns] using htext
    rcases hcases with rfl | rfl
    · decide
    · decide
  specs spec hspec text htext := by
    have hcases : text = "(-)" ∨ text = "mapping" := by
      simp only [foxSpecs, List.mem_cons, List.not_mem_nil, or_false] at hspec
      rcases hspec with rfl | rfl | rfl | rfl | rfl | rfl <;>
        simp [FieldSpec.searchSource?, Json.ofTexts, mappingKeyword] at htext <;> simp [htext]
    rcases hcases with rfl | rfl
    · decide
    · decide

lemma canonical_plainFoxTable : Canonical plainFoxTable := by
  have hmembers : ∀ member ∈ plainFoxTable, ∀ c, Category.ofName? member.1 = some c →
      member = (c.name, .arr [.arr [.arr foxPatterns, .arr foxSpecs]]) := by
    intro member hmember c hc
    rcases List.mem_pair.mp hmember with rfl | rfl
    · cases hc
    · cases hc
      rfl
  refine ⟨fun member hmember c hc => ?_, fun member hmember c hc => ?_⟩
  · rw [hmembers member hmember c hc]
  · rw [hmembers member hmember c hc]
    exact ⟨[(foxPatterns, foxSpecs)], by simpa using canonical_foxRule, rfl⟩

theorem toTable_plainFoxTable : capitalsVocabulary.OwnNames ∧
    ∃ r, (ofTable capitalsVocabulary (.obj plainFoxTable)).value = .ok r ∧
      r.toTable.get? "browser" = some (.arr [.arr [.arr foxPatterns, .arr foxSpecs]]) ∧
      r.toTable.get? "os" = some (.arr []) := by
  have hv : capitalsVocabulary.OwnNames := by decide
  have hload : ∃ r, (ofTable capitalsVocabulary (.obj plainFoxTable)).value = .ok r := ⟨_, rfl⟩
  obtain ⟨r, hr⟩ := hload
  exact ⟨hv, r, hr, toTable_of_canonical hv canonical_plainFoxTable hr .browser,
    toTable_of_canonical hv canonical_plainFoxTable hr .os⟩

end RuleSet

end UserAgent
