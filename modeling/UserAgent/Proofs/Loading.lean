import UserAgent.Proofs.Compiled
import UserAgent.RuleSet

/-!
# Loading rule tables

What it means that a part of a rule table is accepted, layer by layer: field specifications
(`FieldSpec.decode_eq_ok`), rules (`Rule.compile_eq_ok`), the rules of a category
(`RuleGroup.compile_eq_ok`) and whole tables (`RuleSet.ofTable_eq_ok`).
-/

namespace UserAgent

open Compiled

/-! ### Field specifications -/

namespace FieldSpec

variable [CharacterNames]

/-- The patterns that compile in a specification are those that compile. -/
lemma compilePattern_eq_ok {text : String} {p : Pattern} :
    compilePattern text = .ok p ↔ Pattern.compile text = .ok p := by
  unfold compilePattern
  split
  · simp_all
  · simp_all [refuse]
  · split <;> simp_all [refuse]

lemma compilePatternValue_eq_ok {value : Json} {p : Pattern} :
    compilePatternValue value = .ok p ↔ ∃ text, value = .str text ∧ Pattern.compile text = .ok p := by
  cases value with
  | str text => simp [compilePatternValue, compilePattern_eq_ok]
  | _ => simp [compilePatternValue, refuse]

/-- A replacement compiles if its pattern does, and if its template fits the groups of the pattern.
-/
lemma compileSubstitution_eq_ok {pattern source : String} {s : Substitution} :
    compileSubstitution pattern source = .ok s ↔ Pattern.compile pattern = .ok s.search ∧
      Template.check s.search (Template.fromDollar source) = .ok s.template ∧ s.source = source := by
  obtain ⟨search, template, written⟩ := s
  rw [compileSubstitution, bind_eq_ok]
  constructor
  · rintro ⟨p, hp, h⟩
    dsimp only at h
    split at h
    · rename_i pieces hpieces
      obtain ⟨rfl, rfl, rfl⟩ := Substitution.mk.inj (pure_eq_ok.mp h)
      exact ⟨compilePattern_eq_ok.mp hp, hpieces, rfl⟩
    · cases h
    · cases h
  · rintro ⟨hp, ht, rfl⟩
    exact ⟨search, compilePattern_eq_ok.mpr hp, by simp only [ht]; rfl⟩

omit [CharacterNames] in
/-- Items are texts exactly if they are the values of texts. -/
lemma requireTexts_eq_ok {spec items : List Json} {texts : List String} :
    requireTexts spec items = .ok texts ↔ items = texts.map .str := by
  induction items generalizing texts with
  | nil => cases texts <;> simp [requireTexts]
  | cons item items ih =>
    cases item with
    | str s =>
      rw [requireTexts, bind_eq_ok]
      constructor
      · rintro ⟨rest, hrest, h⟩
        rw [← pure_eq_ok.mp h, ih.mp hrest]
        rfl
      · intro h
        cases texts with
        | nil => cases h
        | cons t texts =>
          obtain ⟨hs, hitems⟩ := List.cons.inj h
          cases hs
          exact ⟨texts, ih.mpr hitems, rfl⟩
    | _ => cases texts <;> simp [requireTexts, refuse]

/-- The forms of a field specification in a rule table, with what each stands for. -/
inductive Decodes (v : Vocabulary) : Json → FieldSpec → Prop where
  | copy {name : String} (hname : name ≠ "") : Decodes v (.str name) (.copy name)
  | literal {name token : String} (hname : name ≠ "") (htoken : v.transforms.find? token = none)
      (hnear : v.strict = true → v.transforms.nearMiss? token = none) :
      Decodes v (.ofTexts [name, token]) (.literal name token)
  | transform {name token : String} {t : Transform} (hname : name ≠ "")
      (htoken : v.transforms.find? token = some t) :
      Decodes v (.ofTexts [name, token]) (.transform name t)
  | mapped {name key : String} {table : MappingTable} (hname : name ≠ "")
      (hkey : v.tables.find? key = some table) :
      Decodes v (.ofTexts [name, mappingKeyword, key]) (.mapped name table)
  | substitute {name pattern source : String} {s : Substitution} (hname : name ≠ "")
      (hpattern : pattern ≠ mappingKeyword) (hs : compileSubstitution pattern source = .ok s) :
      Decodes v (.ofTexts [name, pattern, source]) (.substitute name s)
  | substituteTransform {name pattern source token : String} {s : Substitution} {t : Transform}
      (hname : name ≠ "") (htoken : v.transforms.find? token = some t)
      (hs : compileSubstitution pattern source = .ok s) :
      Decodes v (.ofTexts [name, pattern, source, token]) (.substituteTransform name s t)

section Arity

variable (v : Vocabulary) {name : String}

lemma decode_two (hname : name ≠ "") (token : String) :
    decode v (.ofTexts [name, token]) = decodePair v name token := by
  simp [decode, Json.ofTexts, requireTexts, hname, bind, Except.bind, pure, Except.pure]

lemma decode_three (hname : name ≠ "") (second third : String) :
    decode v (.ofTexts [name, second, third]) = decodeTriple v name second third := by
  simp [decode, Json.ofTexts, requireTexts, hname, bind, Except.bind, pure, Except.pure]

lemma decode_four (hname : name ≠ "") (pattern template token : String) :
    decode v (.ofTexts [name, pattern, template, token]) =
      decodeQuadruple v name pattern template token := by
  simp [decode, Json.ofTexts, requireTexts, hname, bind, Except.bind, pure, Except.pure]

end Arity

/-- A specification of two texts is read in one of three ways. -/
lemma decodes_of_decodePair {v : Vocabulary} {name token : String} {f : FieldSpec}
    (hname : name ≠ "") (h : decodePair v name token = .ok f) :
    Decodes v (.ofTexts [name, token]) f := by
  unfold decodePair at h
  split at h
  · rename_i t ht
    cases h
    exact .transform hname ht
  · rename_i ht
    split at h
    · cases h
    · rename_i hnear
      cases h
      exact .literal hname ht fun hstrict => by simpa [hstrict] using hnear

/-- One of three texts is a replacement, or a lookup in a table if it has the keyword. -/
lemma decodes_of_decodeTriple {v : Vocabulary} {name second third : String} {f : FieldSpec}
    (hname : name ≠ "") (h : decodeTriple v name second third = .ok f) :
    Decodes v (.ofTexts [name, second, third]) f := by
  unfold decodeTriple at h
  split_ifs at h with hkeyword
  · subst hkeyword
    split at h
    · rename_i table htable
      cases h
      exact .mapped hname htable
    · cases h
  · obtain ⟨s, hs, h⟩ := bind_eq_ok.mp h
    rw [← pure_eq_ok.mp h]
    exact .substitute hname hkeyword hs

/-- One of four texts is a replacement with a transform. -/
lemma decodes_of_decodeQuadruple {v : Vocabulary} {name pattern template token : String}
    {f : FieldSpec} (hname : name ≠ "")
    (h : decodeQuadruple v name pattern template token = .ok f) :
    Decodes v (.ofTexts [name, pattern, template, token]) f := by
  unfold decodeQuadruple at h
  split at h
  · rename_i t ht
    obtain ⟨s, hs, h⟩ := bind_eq_ok.mp h
    rw [← pure_eq_ok.mp h]
    exact .substituteTransform hname ht hs
  · cases h

lemma decodes_of_decode {v : Vocabulary} {spec : Json} {f : FieldSpec}
    (h : decode v spec = .ok f) : Decodes v spec f := by
  cases spec with
  | str name =>
    rw [decode] at h
    split_ifs at h with hname
    · cases h
    · cases h
      exact .copy (by simpa using hname)
  | arr items =>
    rw [decode] at h
    split_ifs at h with hlength
    · cases h
    · obtain ⟨texts, htexts, h⟩ := bind_eq_ok.mp h
      obtain rfl := requireTexts_eq_ok.mp htexts
      split_ifs at h with hhead
      · cases h
      · split at h
        · exact decodes_of_decodePair (by simpa using hhead) h
        · exact decodes_of_decodeTriple (by simpa using hhead) h
        · exact decodes_of_decodeQuadruple (by simpa using hhead) h
        · cases h
  | _ => cases h

/-- A specification is read as a field exactly if one of the six forms gives it. -/
theorem decode_eq_ok {v : Vocabulary} {spec : Json} {f : FieldSpec} :
    decode v spec = .ok f ↔ Decodes v spec f := by
  refine ⟨decodes_of_decode, fun h => ?_⟩
  cases h with
  | copy hname => simp [decode, hname]
  | literal hname htoken hnear =>
    rw [decode_two v hname, decodePair, htoken]
    by_cases hstrict : v.strict = true
    · simp [hstrict, hnear hstrict]
    · simp [hstrict]
  | transform hname htoken => rw [decode_two v hname, decodePair, htoken]
  | mapped hname hkey => rw [decode_three v hname, decodeTriple, if_pos rfl, hkey]
  | substitute hname hpattern hs =>
    rw [decode_three v hname, decodeTriple, if_neg hpattern]
    exact bind_eq_ok.mpr ⟨_, hs, rfl⟩
  | substituteTransform hname htoken hs =>
    rw [decode_four v hname, decodeQuadruple, htoken]
    exact bind_eq_ok.mpr ⟨_, hs, rfl⟩

/-! ### Transforms of specifications -/

/-- The transform that a specification applies, if it has one. -/
def transform? : FieldSpec → Option Transform
  | transform _ t | substituteTransform _ _ t => some t
  | copy _ | literal .. | substitute .. | mapped .. => none

/-- What a specification applies was registered when it was read. -/
lemma exists_find?_of_decode {v : Vocabulary} {spec : Json} {f : FieldSpec} {t : Transform}
    (h : decode v spec = .ok f) (ht : f.transform? = some t) :
    ∃ token, v.transforms.find? token = some t := by
  cases decode_eq_ok.mp h with
  | transform hname htoken | substituteTransform hname htoken hs =>
    obtain rfl := Option.some_inj.mp ht
    exact ⟨_, htoken⟩
  | copy _ | literal _ _ _ | mapped _ _ | substitute _ _ _ => cases ht

end FieldSpec

/-- What holds of the two built-in transforms holds of each transform that is found among them. -/
lemma Transforms.forall_find?_builtIn {P : Transform → Prop}
    (hlower : P { name := "lowerize", function := .lower })
    (htrim : P { name := "trim", function := .trim }) {token : String} {t : Transform}
    (h : builtIn.find? token = some t) : P t := by
  have hmem : (token, t) ∈ builtIn := Assoc.mem_of_get?_eq_some h
  simp only [builtIn, List.mem_cons, List.not_mem_nil, or_false, Prod.mk.injEq] at hmem
  rcases hmem with ⟨-, rfl⟩ | ⟨-, rfl⟩
  · exact hlower
  · exact htrim

/-! ### Rules -/

namespace Rule

/-- A rule is accepted if it has patterns, all of them compile, and all specifications decode. -/
theorem compile_eq_ok [CharacterNames] {v : Vocabulary} {patterns specs : Json} {rule : Rule} :
    compile v patterns specs = .ok rule ↔ patternList patterns ≠ [] ∧
      (patternList patterns).mapM FieldSpec.compilePatternValue = .ok rule.patterns ∧
      ∃ items, specs = .arr items ∧ items.mapM (FieldSpec.decode v) = .ok rule.fields := by
  obtain ⟨ps, fs⟩ := rule
  unfold compile
  split
  · rename_i hnil
    simp [hnil, refuse]
  · rename_i items hne
    have hpatterns : patternList patterns ≠ [] := fun h => hne h
    rw [bind_eq_ok]
    constructor
    · rintro ⟨ps', hps, h⟩
      obtain ⟨fs', hfs, h⟩ := bind_eq_ok.mp h
      obtain ⟨rfl, rfl⟩ := Rule.mk.inj (pure_eq_ok.mp h)
      exact ⟨hpatterns, hps, items, rfl, hfs⟩
    · rintro ⟨_, hps, items', hitems, hfs⟩
      cases hitems
      exact ⟨ps, hps, bind_eq_ok.mpr ⟨fs, hfs, rfl⟩⟩
  · rename_i hspecs _
    constructor
    · rintro ⟨⟩
    · rintro ⟨_, _, items, rfl, _⟩
      exact absurd rfl (hspecs items)

/-- What the specifications of a rule apply was registered when the rule was compiled. -/
lemma exists_find?_of_compile [CharacterNames] {v : Vocabulary} {patterns specs : Json}
    {rule : Rule}
    (h : compile v patterns specs = .ok rule) {spec : FieldSpec} (hspec : spec ∈ rule.fields)
    {t : Transform} (ht : spec.transform? = some t) :
    ∃ token, v.transforms.find? token = some t := by
  obtain ⟨-, -, items, -, hfields⟩ := compile_eq_ok.mp h
  obtain ⟨item, -, hitem⟩ := exists_of_mem_mapM hfields hspec
  exact FieldSpec.exists_find?_of_decode hitem ht

end Rule

namespace RuleGroup

/-- Pairs compile exactly if each of them does, to rules in the same order. -/
lemma compilePairs_eq_ok [CharacterNames] {v : Vocabulary} {category : String} {index : Nat}
    {pairs : List (Json × Json)} {rules : RuleGroup} :
    compilePairs v category index pairs = .ok rules ↔
      List.Forall₂ (fun pair rule => Rule.compile v pair.1 pair.2 = .ok rule) pairs rules := by
  induction pairs generalizing index rules with
  | nil => simp [compilePairs, eq_comm]
  | cons pair pairs ih =>
    obtain ⟨patterns, specs⟩ := pair
    rw [compilePairs, List.forall₂_cons_left_iff]
    split
    · rename_i rule hrule
      rw [bind_eq_ok]
      constructor
      · rintro ⟨rest, hrest, h⟩
        exact ⟨rule, rest, hrule, ih.mp hrest, (pure_eq_ok.mp h).symm⟩
      · rintro ⟨rule', rest, hrule', hrest, rfl⟩
        rw [hrule] at hrule'
        cases hrule'
        exact ⟨rest, ih.mpr hrest, rfl⟩
    · rename_i failure hfailure
      simp [hfailure]

/-- The rules of a category are accepted if they are a list of one of the two layouts, and each rule
is accepted. -/
theorem compile_eq_ok [CharacterNames] {v : Vocabulary} {category : String} {value : Json}
    {rules : RuleGroup} :
    compile v category value = .ok rules ↔ ∃ entries pairs, value = .arr entries ∧
      split category entries = .ok pairs ∧
      List.Forall₂ (fun pair rule => Rule.compile v pair.1 pair.2 = .ok rule) pairs rules := by
  cases value with
  | arr entries => simp [compile, bind_eq_ok, compilePairs_eq_ok]
  | _ => simp [compile, refuse]

end RuleGroup

/-! ### Tables -/

namespace Logged

@[simp] lemma value_map {α β : Type} (f : α → β) (x : Logged α) :
    (x.map f).value = f x.value := rfl

@[simp] lemma value_functor_map {α β : Type} (f : α → β) (x : Logged α) :
    (f <$> x).value = f x.value := rfl

@[simp] lemma value_bind {α β : Type} (x : Logged α) (f : α → Logged β) :
    (x >>= f).value = (f x.value).value := rfl

@[simp] lemma value_pure {α : Type} (a : α) : (pure a : Logged α).value = a := rfl

end Logged

@[simp] lemma Category.ofName?_name (c : Category) : Category.ofName? c.name = some c := by
  cases c <;> rfl

/-- Different categories have different names. -/
lemma Category.name_injective : Function.Injective Category.name := by
  intro c d h
  have hname := congrArg Category.ofName? h
  rw [ofName?_name, ofName?_name] at hname
  exact Option.some_inj.mp hname

lemma Category.mem_all (c : Category) : c ∈ Category.all := by
  cases c <;> decide

namespace RuleSet

variable [CharacterNames]

omit [CharacterNames] in
lemma ofName?_of_mem_metadataKeys {key : String} (h : key ∈ metadataKeys) :
    Category.ofName? key = none := by
  simp only [metadataKeys, List.mem_cons, List.not_mem_nil, or_false] at h
  rcases h with rfl | rfl | rfl <;> rfl

/-- A member of a table counts only if its key names a category. -/
lemma value_compileMembers_cons (v : Vocabulary) (groups : RuleGroups) (key : String)
    (entries : Json) (rest : List (String × Json)) :
    (compileMembers v groups ((key, entries) :: rest)).value =
      match Category.ofName? key with
      | none => (compileMembers v groups rest).value
      | some c =>
        RuleGroup.compile v c.name entries >>= fun rules =>
          (compileMembers v (groups.set c rules) rest).value := by
  rw [compileMembers]
  by_cases hkey : key ∈ metadataKeys
  · simp [hkey, ofName?_of_mem_metadataKeys hkey]
  · rw [if_neg (by simpa using hkey)]
    cases Category.ofName? key with
    | none => rfl
    | some c => cases h : RuleGroup.compile v c.name entries <;> simp [h, bind, Except.bind]

/-- A table is accepted if it is an object whose members are. -/
theorem ofTable_eq_ok {v : Vocabulary} {table : Json} {source fileHash : Option String}
    {r : RuleSet} :
    (ofTable v table source fileHash).value = .ok r ↔ ∃ members, table = .obj members ∧
      (compileMembers v {} members).value = .ok r.groups ∧
      r.version = metadataText "version" members ∧
      r.lastUpdated = metadataText "last_updated" members ∧
      r.source = source ∧ r.fileHash = fileHash := by
  obtain ⟨groups, version, lastUpdated, source', fileHash'⟩ := r
  cases table with
  | obj members =>
    simp only [ofTable, Logged.value_map, bind_eq_ok, pure_eq_ok, RuleSet.mk.injEq,
      Json.obj.injEq]
    constructor
    · rintro ⟨groups', h, rfl, rfl, rfl, rfl, rfl⟩
      exact ⟨members, rfl, h, rfl, rfl, rfl, rfl⟩
    · rintro ⟨_, rfl, h, rfl, rfl, rfl, rfl⟩
      exact ⟨groups, h, rfl, rfl, rfl, rfl, rfl⟩
  | _ => simp [ofTable, refuse]

/-! ### What the rules of a table have in common -/

/-- What holds of all compiled rules is kept when members are compiled. -/
lemma forall_rules_of_compileMembers {v : Vocabulary} {P : Rule → Prop}
    (hP : ∀ patterns specs rule, Rule.compile v patterns specs = .ok rule → P rule)
    {groups groups' : RuleGroups} {members : List (String × Json)}
    (h : (compileMembers v groups members).value = .ok groups')
    (hgroups : ∀ c, ∀ rule ∈ groups.get c, P rule) : ∀ c, ∀ rule ∈ groups'.get c, P rule := by
  induction members generalizing groups with
  | nil => cases h; exact hgroups
  | cons member rest ih =>
    obtain ⟨key, entries⟩ := member
    rw [value_compileMembers_cons] at h
    split at h
    · exact ih h hgroups
    · -- The rules of this category are new, and those of the others are left.
      rename_i c _
      obtain ⟨rules, hrules, h⟩ := bind_eq_ok.mp h
      refine ih h fun d rule hrule => ?_
      by_cases hcd : c = d
      · subst hcd
        rw [RuleGroups.get_set_self] at hrule
        obtain ⟨_, pairs, _, _, hpairs⟩ := RuleGroup.compile_eq_ok.mp hrules
        obtain ⟨pair, _, hpair⟩ := exists_of_forall₂ hpairs hrule
        exact hP _ _ rule hpair
      · rw [RuleGroups.get_set_of_ne _ hcd] at hrule
        exact hgroups d rule hrule

/-- Every rule of an accepted table was compiled. -/
theorem exists_compile {v : Vocabulary} {table : Json} {source fileHash : Option String}
    {r : RuleSet} (h : (ofTable v table source fileHash).value = .ok r) {c : Category} {rule : Rule}
    (hrule : rule ∈ r.group c) : ∃ patterns specs, Rule.compile v patterns specs = .ok rule := by
  obtain ⟨members, _, hgroups, _⟩ := ofTable_eq_ok.mp h
  refine forall_rules_of_compileMembers
    (P := fun rule => ∃ patterns specs, Rule.compile v patterns specs = .ok rule)
    (fun patterns specs rule h => ⟨patterns, specs, h⟩) hgroups ?_ c rule hrule
  intro d rule hrule
  cases d <;> cases hrule

end RuleSet

end UserAgent
