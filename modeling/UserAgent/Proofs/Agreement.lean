import UserAgent.Host.Machine
import UserAgent.Proofs.Loading
import UserAgent.RuleSet.File
import UserAgent.Validation.Files

/-!
# Validation and loading agree

The validator and the strict loader walk over the same tables, one to collect all faults and one to
stop at the first. Layer by layer, the validator finds nothing if the loader accepts and no rule sets a
field twice; for a whole file it asks for a version and for exact keys besides.
-/

namespace UserAgent

open Compiled

/-- No field is set twice. -/
def Rule.DistinctFields (rule : Rule) : Prop :=
  (rule.fields.map FieldSpec.name).Nodup

namespace Validation

variable [CharacterNames]

/-- The vocabulary of the validator. -/
abbrev strictVocabulary : Vocabulary := { strict := true }

variable {category : String}

omit [CharacterNames] in
/-- An attempt notes no failure exactly if what is attempted succeeds. -/
lemma attempt_eq_ok {α : Type} {x : Compiled α} {a : α} :
    attempt x = .ok (.ok a) ↔ x = .ok a := by
  unfold attempt
  split <;> simp

/-! ### Rules -/

/-- Nothing is found in patterns exactly if each of them compiles. -/
lemma patternFindings_eq_nil {index : Nat} {patterns : List Json} :
    patternFindings category index patterns = .ok [] ↔
      ∃ ps, patterns.mapM FieldSpec.compilePatternValue = .ok ps := by
  induction patterns with
  | nil => exact ⟨fun _ => ⟨[], rfl⟩, fun _ => rfl⟩
  | cons pattern rest ih =>
    rw [patternFindings, bind_eq_ok]
    constructor
    · rintro ⟨result, hresult, h⟩
      cases result with
      | ok p =>
        obtain ⟨ps, hps⟩ := ih.mp h
        exact ⟨p :: ps, mapM_eq_ok.mpr (.cons (attempt_eq_ok.mp hresult) (mapM_eq_ok.mp hps))⟩
      | error error =>
        obtain ⟨findings, _, h⟩ := bind_eq_ok.mp h
        cases h
    · rintro ⟨ps, hps⟩
      obtain ⟨p, ps', hp, hrest, rfl⟩ := List.forall₂_cons_left_iff.mp (mapM_eq_ok.mp hps)
      exact ⟨.ok p, attempt_eq_ok.mpr hp, ih.mpr ⟨ps', mapM_eq_ok.mpr hrest⟩⟩

/-- Specifications have no faults if they decode to different fields, of which none was seen. -/
lemma specFindings_eq_nil {index position : Nat} {seen : List String} {specs : List Json} :
    specFindings category index position seen specs = .ok [] ↔
      ∃ fields, specs.mapM (FieldSpec.decode strictVocabulary) = .ok fields ∧
        (fields.map FieldSpec.name).Nodup ∧ ∀ f ∈ fields, f.name ∉ seen := by
  induction specs generalizing position seen with
  | nil =>
    refine ⟨fun _ => ⟨[], rfl, List.nodup_nil, ?_⟩, fun _ => rfl⟩
    intro f hf
    cases hf
  | cons spec rest ih =>
    rw [specFindings, bind_eq_ok]
    constructor
    · rintro ⟨result, hresult, h⟩
      cases result with
      | error error =>
        obtain ⟨findings, _, h⟩ := bind_eq_ok.mp h
        cases h
      | ok f =>
        obtain ⟨findings, hfindings, h⟩ := bind_eq_ok.mp h
        split_ifs at h with hseen
        · cases h
        · cases h
          obtain ⟨fields, hfields, hnodup, hfresh⟩ := ih.mp hfindings
          -- The field that was seen here is none of those that follow.
          have hf : ∀ g ∈ fields, g.name ≠ f.name := fun g hg heq =>
            hfresh g hg (heq ▸ List.mem_cons_self)
          refine ⟨f :: fields, mapM_eq_ok.mpr (.cons (attempt_eq_ok.mp hresult)
            (mapM_eq_ok.mp hfields)), ?_, ?_⟩
          · rw [List.map_cons, List.nodup_cons, List.mem_map]
            exact ⟨fun ⟨g, hg, heq⟩ => hf g hg heq, hnodup⟩
          · rw [List.forall_mem_cons]
            exact ⟨by simpa using hseen, fun g hg hmem => hfresh g hg (List.mem_cons_of_mem _ hmem)⟩
    · rintro ⟨fields, hfields, hnodup, hfresh⟩
      obtain ⟨f, fields', hf, hrest, rfl⟩ := List.forall₂_cons_left_iff.mp (mapM_eq_ok.mp hfields)
      rw [List.map_cons, List.nodup_cons, List.mem_map] at hnodup
      obtain ⟨hfseen, hrestseen⟩ := List.forall_mem_cons.mp hfresh
      have hfindings : specFindings category index (position + 1) (f.name :: seen) rest = .ok [] := by
        refine ih.mpr ⟨fields', mapM_eq_ok.mpr hrest, hnodup.2, fun g hg hmem => ?_⟩
        rcases List.mem_cons.mp hmem with heq | hmem
        · exact hnodup.1 ⟨g, hg, heq⟩
        · exact hrestseen g hg hmem
      refine ⟨.ok f, attempt_eq_ok.mpr hf, bind_eq_ok.mpr ⟨[], hfindings, ?_⟩⟩
      rw [if_neg (by simpa using hfseen)]
      rfl

/-- Nothing is found in the patterns of a rule exactly if there is one and all of them compile. -/
lemma patternsFindings_eq_nil {index : Nat} {patterns : Json} :
    patternsFindings category index patterns = .ok [] ↔ Rule.patternList patterns ≠ [] ∧
      ∃ ps, (Rule.patternList patterns).mapM FieldSpec.compilePatternValue = .ok ps := by
  unfold patternsFindings
  split
  · rename_i hnil
    simp [hnil]
  · rename_i hne
    rw [patternFindings_eq_nil]
    exact ⟨fun h => ⟨hne, h⟩, fun h => h.2⟩

/-- Nothing is found in the specifications of a rule exactly if all of them are read and set
different fields. -/
lemma specsFindings_eq_nil {index : Nat} {specs : Json} :
    specsFindings category index specs = .ok [] ↔ ∃ items fields, specs = .arr items ∧
      items.mapM (FieldSpec.decode strictVocabulary) = .ok fields ∧
      (fields.map FieldSpec.name).Nodup := by
  cases specs with
  | arr items => simp [specsFindings, specFindings_eq_nil]
  | _ => simp [specsFindings]

/-- A rule has no faults if it compiles and sets no field twice. -/
lemma ruleFindings_eq_nil {index : Nat} {patterns specs : Json} :
    ruleFindings category index patterns specs = .ok [] ↔
      ∃ rule, Rule.compile strictVocabulary patterns specs = .ok rule ∧ rule.DistinctFields := by
  rw [ruleFindings, bind_eq_ok]
  constructor
  · rintro ⟨patternFaults, hpatterns, h⟩
    obtain ⟨specFaults, hspecs, h⟩ := bind_eq_ok.mp h
    obtain ⟨rfl, rfl⟩ := List.append_eq_nil_iff.mp (pure_eq_ok.mp h)
    obtain ⟨hne, ps, hps⟩ := patternsFindings_eq_nil.mp hpatterns
    obtain ⟨items, fields, hitems, hfields, hdistinct⟩ := specsFindings_eq_nil.mp hspecs
    exact ⟨⟨ps, fields⟩, Rule.compile_eq_ok.mpr ⟨hne, hps, items, hitems, hfields⟩, hdistinct⟩
  · rintro ⟨rule, hcompile, hdistinct⟩
    obtain ⟨hne, hps, items, hitems, hfields⟩ := Rule.compile_eq_ok.mp hcompile
    have hspecs : specsFindings category index specs = .ok [] :=
      specsFindings_eq_nil.mpr ⟨items, rule.fields, hitems, hfields, hdistinct⟩
    exact ⟨[], patternsFindings_eq_nil.mpr ⟨hne, rule.patterns, hps⟩,
      bind_eq_ok.mpr ⟨[], hspecs, rfl⟩⟩

/-- Nothing is found in rules exactly if each of them compiles, with different fields. -/
lemma rulesFindings_eq_nil {index : Nat} {pairs : List (Json × Json)} :
    rulesFindings category index pairs = .ok [] ↔ ∃ rules,
      List.Forall₂ (fun pair rule => Rule.compile strictVocabulary pair.1 pair.2 = .ok rule)
        pairs rules ∧ ∀ rule ∈ rules, rule.DistinctFields := by
  induction pairs generalizing index with
  | nil =>
    refine ⟨fun _ => ⟨[], .nil, ?_⟩, fun _ => rfl⟩
    intro rule hrule
    cases hrule
  | cons pair rest ih =>
    obtain ⟨patterns, specs⟩ := pair
    rw [rulesFindings, bind_eq_ok]
    constructor
    · rintro ⟨findings, hrule, h⟩
      obtain ⟨others, hrest, h⟩ := bind_eq_ok.mp h
      obtain ⟨rfl, rfl⟩ := List.append_eq_nil_iff.mp (pure_eq_ok.mp h)
      obtain ⟨rule, hcompile, hdistinct⟩ := ruleFindings_eq_nil.mp hrule
      obtain ⟨rules, hrules, hall⟩ := ih.mp hrest
      exact ⟨rule :: rules, .cons hcompile hrules, List.forall_mem_cons.mpr ⟨hdistinct, hall⟩⟩
    · rintro ⟨rules, hrules, hall⟩
      obtain ⟨rule, rules', hcompile, hrest, rfl⟩ := List.forall₂_cons_left_iff.mp hrules
      obtain ⟨hdistinct, hall⟩ := List.forall_mem_cons.mp hall
      exact ⟨[], ruleFindings_eq_nil.mpr ⟨rule, hcompile, hdistinct⟩,
        bind_eq_ok.mpr ⟨[], ih.mpr ⟨rules', hrest, hall⟩, rfl⟩⟩

/-! ### Categories -/

/-- A category has a clean report if its rules compile; the report counts them. -/
lemma categoryReport_eq_clean {value : Json} {n : Nat} :
    categoryReport category value = .ok ⟨n, []⟩ ↔
      ∃ rules, RuleGroup.compile strictVocabulary category value = .ok rules ∧
        (∀ rule ∈ rules, rule.DistinctFields) ∧ n = rules.length := by
  cases value with
  | arr entries =>
    rw [categoryReport, bind_eq_ok]
    constructor
    · rintro ⟨result, hsplit, h⟩
      cases result with
      | error error => cases h
      | ok pairs =>
        obtain ⟨findings, hfindings, h⟩ := bind_eq_ok.mp h
        obtain ⟨rfl, rfl⟩ := ValidationReport.mk.inj (pure_eq_ok.mp h)
        -- The layout was accepted, and so was each rule.
        obtain ⟨rules, hrules, hdistinct⟩ := rulesFindings_eq_nil.mp hfindings
        exact ⟨rules, RuleGroup.compile_eq_ok.mpr ⟨entries, pairs, rfl, attempt_eq_ok.mp hsplit,
          hrules⟩, hdistinct, hrules.length_eq⟩
    · rintro ⟨rules, hcompile, hdistinct, rfl⟩
      obtain ⟨entries', pairs, hentries, hsplit, hrules⟩ := RuleGroup.compile_eq_ok.mp hcompile
      cases hentries
      have hfindings : rulesFindings category 0 pairs = .ok [] :=
        rulesFindings_eq_nil.mpr ⟨rules, hrules, hdistinct⟩
      refine ⟨.ok pairs, attempt_eq_ok.mpr hsplit, bind_eq_ok.mpr ⟨[], hfindings, ?_⟩⟩
      rw [hrules.length_eq]
      rfl
  | _ => simp [categoryReport, RuleGroup.compile, refuse]

/-! ### Members -/

/-- A key that is metadata or the exact name of a category. -/
def KnownKey (key : String) : Prop :=
  key ∈ RuleSet.metadataKeys ∨ ∃ c : Category, key = c.name

omit [CharacterNames] in
lemma not_mem_metadataKeys (c : Category) : c.name ∉ RuleSet.metadataKeys := by
  intro h
  have hnone := RuleSet.ofName?_of_mem_metadataKeys h
  rw [Category.ofName?_name] at hnone
  cases hnone

/-- A member has a clean report if it is metadata, or if it holds the clean rules of a category. -/
lemma memberReport_eq_clean {key : String} {value : Json} {n : Nat} :
    memberReport key value = .ok ⟨n, []⟩ ↔
      (key ∈ RuleSet.metadataKeys ∧ n = 0) ∨
        ∃ c : Category, key = c.name ∧ categoryReport c.name value = .ok ⟨n, []⟩ := by
  have hnames : key ∈ Category.all.map Category.name ↔ ∃ c : Category, key = c.name := by
    rw [List.mem_map]
    exact ⟨fun ⟨c, _, h⟩ => ⟨c, h.symm⟩, fun ⟨c, h⟩ => ⟨c, Category.mem_all c, h.symm⟩⟩
  simp only [memberReport, List.contains_iff_mem]
  split_ifs with hmeta hname
  · have hkey : ¬∃ c : Category, key = c.name ∧ categoryReport c.name value = .ok ⟨n, []⟩ := by
      rintro ⟨c, rfl, _⟩
      exact not_mem_metadataKeys c hmeta
    simp [hmeta, hkey, eq_comm]
  · obtain ⟨c, rfl⟩ := hnames.mp hname
    simp only [hmeta, false_and, false_or]
    refine ⟨fun h => ⟨c, rfl, h⟩, ?_⟩
    rintro ⟨d, hd, h⟩
    rwa [hd]
  · have hkey : ∀ c : Category, key ≠ c.name := fun c h => hname (hnames.mpr ⟨c, h⟩)
    simp [hmeta, hkey]

end Validation

/-! ### Groups -/

namespace RuleGroups

/-- The number of rules of all categories. -/
def count (g : RuleGroups) : Nat :=
  Category.all.foldl (fun total c => total + (g.get c).length) 0

/-- Rules that replace those of a category are counted in their place. -/
lemma count_set_add (g : RuleGroups) (c : Category) (rules : RuleGroup) :
    (g.set c rules).count + (g.get c).length = g.count + rules.length := by
  cases c <;> simp only [count, Category.all, List.foldl_cons, List.foldl_nil, get, set] <;> omega

lemma count_set {g : RuleGroups} {c : Category} (h : g.get c = []) (rules : RuleGroup) :
    (g.set c rules).count = g.count + rules.length := by
  simpa [h] using count_set_add g c rules

end RuleGroups

namespace Validation

/-- The groups of the categories that no member names stay as they are. -/
lemma get_of_compileMembers [CharacterNames] {v : Vocabulary} {groups groups' : RuleGroups}
    {members : List (String × Json)} {c : Category}
    (h : (RuleSet.compileMembers v groups members).value = .ok groups')
    (hkeys : ∀ key ∈ Assoc.keys members, Category.ofName? key ≠ some c) :
    groups'.get c = groups.get c := by
  induction members generalizing groups with
  | nil => cases h; rfl
  | cons member rest ih =>
    obtain ⟨key, value⟩ := member
    obtain ⟨hkey, hrest⟩ := List.forall_mem_cons.mp hkeys
    rw [RuleSet.value_compileMembers_cons] at h
    split at h
    · exact ih h hrest
    · rename_i d hd
      obtain ⟨rules, _, h⟩ := bind_eq_ok.mp h
      rw [ih h hrest, RuleGroups.get_set_of_ne]
      rintro rfl
      exact hkey hd

lemma ofName?_ne_of_knownKey {key : String} {c : Category} (h : KnownKey key)
    (hkey : key ≠ c.name) : Category.ofName? key ≠ some c := by
  intro hc
  rcases h with hmeta | ⟨d, rfl⟩
  · rw [RuleSet.ofName?_of_mem_metadataKeys hmeta] at hc
    cases hc
  · rw [Category.ofName?_name] at hc
    cases hc
    exact hkey rfl

/-- The report on members is clean exactly if it is so for the first one and for the others, whose
counts add up. -/
lemma membersReport_cons_eq_clean [CharacterNames] {key : String} {value : Json}
    {rest : List (String × Json)} {n : Nat} : membersReport ((key, value) :: rest) = .ok ⟨n, []⟩ ↔
      ∃ a b, memberReport key value = .ok ⟨a, []⟩ ∧ membersReport rest = .ok ⟨b, []⟩ ∧
        n = a + b := by
  rw [membersReport, bind_eq_ok]
  constructor
  · rintro ⟨⟨a, findings⟩, hfirst, h⟩
    obtain ⟨⟨b, others⟩, hrest, h⟩ := bind_eq_ok.mp h
    obtain ⟨hcount, hfindings⟩ := ValidationReport.mk.inj (pure_eq_ok.mp h)
    obtain ⟨rfl, rfl⟩ := List.append_eq_nil_iff.mp hfindings
    exact ⟨a, b, hfirst, hrest, hcount.symm⟩
  · rintro ⟨a, b, hfirst, hrest, rfl⟩
    exact ⟨⟨a, []⟩, hfirst, bind_eq_ok.mpr ⟨⟨b, []⟩, hrest, rfl⟩⟩

/-- The members of a table, together with groups that have no rules for their categories yet. -/
structure Unread (groups : RuleGroups) (members : List (String × Json)) : Prop where
  nodup : (Assoc.keys members).Nodup
  empty : ∀ c : Category, c.name ∈ Assoc.keys members → groups.get c = []

namespace Unread

variable {groups : RuleGroups} {key : String} {value : Json} {rest : List (String × Json)}

lemma tail (h : Unread groups ((key, value) :: rest)) : Unread groups rest :=
  ⟨(List.nodup_cons.mp h.nodup).2, fun c hc => h.empty c (List.mem_cons_of_mem _ hc)⟩

lemma set {c : Category} (h : Unread groups ((c.name, value) :: rest)) (rules : RuleGroup) :
    Unread (groups.set c rules) rest := by
  refine ⟨h.tail.nodup, fun d hd => ?_⟩
  have hne : c ≠ d := by
    rintro rfl
    exact (List.nodup_cons.mp h.nodup).1 hd
  rw [RuleGroups.get_set_of_ne groups hne]
  exact h.tail.empty d hd

/-- The rules of a category are those of the one member that has its name. -/
lemma get_eq [CharacterNames] {c : Category} (h : Unread groups ((c.name, value) :: rest))
    {v : Vocabulary} {rules : RuleGroup} {groups' : RuleGroups}
    (hcompile : (RuleSet.compileMembers v (groups.set c rules) rest).value = .ok groups')
    (hknown : ∀ key ∈ Assoc.keys rest, KnownKey key) : groups'.get c = rules := by
  rw [get_of_compileMembers hcompile, RuleGroups.get_set_self]
  intro key hkey
  refine ofName?_ne_of_knownKey (hknown key hkey) ?_
  rintro rfl
  exact (List.nodup_cons.mp h.nodup).1 hkey

end Unread

section

variable [CharacterNames]

/-- A clean report means that the members are known and compile, and that no rule among them sets a
field twice. It counts the rules that they add. -/
lemma compile_of_membersReport {groups : RuleGroups} {members : List (String × Json)} {n : Nat}
    (hunread : Unread groups members) (hgroups : ∀ c, ∀ rule ∈ groups.get c, rule.DistinctFields)
    (h : membersReport members = .ok ⟨n, []⟩) :
    (∀ key ∈ Assoc.keys members, KnownKey key) ∧ ∃ groups',
      (RuleSet.compileMembers strictVocabulary groups members).value = .ok groups' ∧
      (∀ c, ∀ rule ∈ groups'.get c, rule.DistinctFields) ∧ groups'.count = groups.count + n := by
  induction members generalizing groups n with
  | nil =>
    cases h
    refine ⟨?_, groups, rfl, hgroups, rfl⟩
    intro key hkey
    cases hkey
  | cons member rest ih =>
    obtain ⟨key, value⟩ := member
    obtain ⟨a, b, hfirst, hrest, rfl⟩ := membersReport_cons_eq_clean.mp h
    rcases memberReport_eq_clean.mp hfirst with ⟨hmeta, rfl⟩ | ⟨c, rfl, hreport⟩
    · -- A key for notes on the table has no rules.
      obtain ⟨hknown, groups', hcompile, hdistinct, hcount⟩ := ih hunread.tail hgroups hrest
      refine ⟨List.forall_mem_cons.mpr ⟨.inl hmeta, hknown⟩, groups', ?_, hdistinct, ?_⟩
      · rw [RuleSet.value_compileMembers_cons, RuleSet.ofName?_of_mem_metadataKeys hmeta]
        exact hcompile
      · rw [hcount, Nat.zero_add]
    · -- No key is repeated, so the category had no rules yet and the counts add up.
      obtain ⟨rules, hrules, hclean, rfl⟩ := categoryReport_eq_clean.mp hreport
      have hset : ∀ d, ∀ rule ∈ (groups.set c rules).get d, rule.DistinctFields := by
        intro d
        by_cases hcd : c = d
        · rw [← hcd, RuleGroups.get_set_self]
          exact hclean
        · rw [RuleGroups.get_set_of_ne groups hcd]
          exact hgroups d
      obtain ⟨hknown, groups', hcompile, hdistinct, hcount⟩ := ih (hunread.set rules) hset hrest
      refine ⟨List.forall_mem_cons.mpr ⟨.inr ⟨c, rfl⟩, hknown⟩, groups', ?_, hdistinct, ?_⟩
      · rw [RuleSet.value_compileMembers_cons, Category.ofName?_name]
        exact bind_eq_ok.mpr ⟨rules, hrules, hcompile⟩
      · rw [hcount, RuleGroups.count_set (hunread.empty c List.mem_cons_self), Nat.add_assoc]

/-- Known members that compile have a clean report, unless a rule sets a field twice. -/
lemma exists_membersReport {groups groups' : RuleGroups} {members : List (String × Json)}
    (hunread : Unread groups members) (hknown : ∀ key ∈ Assoc.keys members, KnownKey key)
    (hcompile : (RuleSet.compileMembers strictVocabulary groups members).value = .ok groups')
    (hdistinct : ∀ c, ∀ rule ∈ groups'.get c, rule.DistinctFields) :
    ∃ n, membersReport members = .ok ⟨n, []⟩ := by
  induction members generalizing groups with
  | nil => exact ⟨0, rfl⟩
  | cons member rest ih =>
    obtain ⟨key, value⟩ := member
    obtain ⟨hkey, hothers⟩ := List.forall_mem_cons.mp hknown
    rw [RuleSet.value_compileMembers_cons] at hcompile
    rcases hkey with hmeta | ⟨c, rfl⟩
    · rw [RuleSet.ofName?_of_mem_metadataKeys hmeta] at hcompile
      obtain ⟨n, hrest⟩ := ih hunread.tail hothers hcompile
      have hfirst : memberReport key value = .ok ⟨0, []⟩ :=
        memberReport_eq_clean.mpr (.inl ⟨hmeta, rfl⟩)
      exact ⟨_, membersReport_cons_eq_clean.mpr ⟨0, n, hfirst, hrest, rfl⟩⟩
    · rw [Category.ofName?_name] at hcompile
      obtain ⟨rules, hrules, hcompile⟩ := bind_eq_ok.mp hcompile
      obtain ⟨n, hrest⟩ := ih (hunread.set rules) hothers hcompile
      -- No later key names this category, so its rules are those that the table ends with.
      have hclean : ∀ rule ∈ rules, rule.DistinctFields := by
        rw [← hunread.get_eq hcompile hothers]
        exact hdistinct c
      have hreport := categoryReport_eq_clean.mpr ⟨rules, hrules, hclean, rfl⟩
      have hfirst : memberReport c.name value = .ok ⟨rules.length, []⟩ :=
        memberReport_eq_clean.mpr (.inr ⟨c, rfl, hreport⟩)
      exact ⟨_, membersReport_cons_eq_clean.mpr ⟨_, n, hfirst, hrest, rfl⟩⟩

/-! ### Tables -/

/-- An object whose keys are given once each has a clean report if it has a version, its keys are
known, it is accepted, and no rule sets a field twice. The report counts the rules. -/
theorem tableReport_eq_clean {members : List (String × Json)} (hnodup : (Assoc.keys members).Nodup)
    {source fileHash : Option String} {n : Nat} :
    tableReport (.obj members) = .ok ⟨n, []⟩ ↔ Assoc.contains "version" members = true ∧
      (∀ key ∈ Assoc.keys members, KnownKey key) ∧ ∃ r,
        (RuleSet.ofTable strictVocabulary (.obj members) source fileHash).value = .ok r ∧
        (∀ c, ∀ rule ∈ r.group c, rule.DistinctFields) ∧ n = r.count := by
  have hunread : Unread {} members := ⟨hnodup, fun c _ => by cases c <;> rfl⟩
  have hempty : ∀ c, ∀ rule ∈ ({} : RuleGroups).get c, rule.DistinctFields := by
    intro c rule hrule
    cases c <;> cases hrule
  -- The version is asked for apart from the other members.
  have hreport : tableReport (.obj members) = .ok ⟨n, []⟩ ↔
      Assoc.contains "version" members = true ∧ membersReport members = .ok ⟨n, []⟩ := by
    rw [tableReport, bind_eq_ok]
    constructor
    · rintro ⟨report, hmembers, h⟩
      split_ifs at h with hversion
      · cases h
        exact ⟨hversion, hmembers⟩
      · cases h
    · rintro ⟨hversion, hmembers⟩
      exact ⟨_, hmembers, by rw [if_pos hversion]; rfl⟩
  rw [hreport]
  refine and_congr_right fun _ => ?_
  constructor
  · intro h
    obtain ⟨hknown, groups, hcompile, hdistinct, hcount⟩ :=
      compile_of_membersReport hunread hempty h
    exact ⟨hknown, ⟨groups, _, _, source, fileHash⟩, RuleSet.ofTable_eq_ok.mpr ⟨members, rfl,
      hcompile, rfl, rfl, rfl, rfl⟩, hdistinct, (hcount.trans (Nat.zero_add n)).symm⟩
  · rintro ⟨hknown, r, hr, hdistinct, rfl⟩
    obtain ⟨_, hmembers, hcompile, _⟩ := RuleSet.ofTable_eq_ok.mp hr
    cases hmembers
    -- A clean report exists, and its count is that of the rules, as shown before.
    obtain ⟨n, hclean⟩ := exists_membersReport hunread hknown hcompile hdistinct
    obtain ⟨_, groups, hcompile', _, hcount⟩ := compile_of_membersReport hunread hempty hclean
    rw [hcompile] at hcompile'
    cases hcompile'
    have hn : n = r.count := (hcount.trans (Nat.zero_add n)).symm
    rw [← hn]
    exact hclean

lemma textReport_eq_clean {text : String} {n : Nat} : textReport text = .ok ⟨n, []⟩ ↔
    ∃ members, Json.parse text = .ok (.obj members) ∧ tableReport (.obj members) = .ok ⟨n, []⟩ := by
  rw [textReport]
  cases Json.parse text with
  | error e => cases e <;> simp
  | ok table => cases table <;> simp [tableReport]

end

end Validation

/-! ### Files -/

namespace Machine

open Host

/-- The text of the file at a path, or why it cannot be read. -/
def textAt (machine : Machine) (path : Path) : Except TextError String :=
  match machine.files.read path with
  | .error e => .error (.file e)
  | .ok content => (textOf content).mapError .encoding

variable (machine : Machine) (path : Path)

/-- One step before another one. -/
lemma bind_eq {α β : Type} {machine machine' : Machine} {x : StateM Machine α} {a : α}
    (h : x machine = (a, machine')) (f : α → StateM Machine β) :
    (x >>= f) machine = f a machine' := by
  show f (x machine).1 (x machine).2 = _
  rw [h]

/-- A step that only looks at the machine, before another one. -/
lemma bind_run {α β : Type} {machine : Machine} {x : StateM Machine α} {a : α}
    (h : x machine = (a, machine)) (f : α → StateM Machine β) : (x >>= f) machine = f a machine :=
  bind_eq h f

lemma pure_run {α : Type} (a : α) (machine : Machine) :
    (pure a : StateM Machine α) machine = (a, machine) := rfl

lemma pathExists_run : (pathExists path : StateM Machine Bool) machine =
    ((machine.files.lookup? path).isSome, machine) := rfl

lemma lookupVariable_run (name : String) :
    (lookupVariable name : StateM Machine (Option String)) machine =
      (Assoc.get? name machine.environment, machine) := rfl

/-- Reading a text gives the text at the path and leaves the machine. -/
lemma readText_run : (readText path : ExceptT TextError (StateM Machine) String).run machine =
    (machine.textAt path, machine) := by
  have hbytes : (ExceptT.lift (readBytes path) :
      ExceptT TextError (StateM Machine) (Except FileError (List UInt8))).run machine =
      (.ok (machine.files.read path), machine) := rfl
  unfold readText
  rw [ExceptT.run_bind]
  refine (bind_run hbytes _).trans ?_
  dsimp only
  rw [textAt]
  cases machine.files.read path with
  | error e => rfl
  | ok content =>
    dsimp only
    cases textOf content <;> rfl

/-- A file whose text can be read exists. -/
lemma isSome_lookup?_of_textAt {text : String} (h : machine.textAt path = .ok text) :
    (machine.files.lookup? path).isSome = true := by
  rw [textAt] at h
  split at h
  · cases h
  · rename_i content hread
    obtain ⟨location, hlocate, hread⟩ := bind_eq_ok.mp hread
    rw [FileTree.lookup?, hlocate]
    dsimp only
    split at hread
    · rename_i hentry
      rw [hentry]
      rfl
    · cases hread
    · cases hread

end Machine

namespace Validation

variable {machine : Machine} {path : Path}

/-- A report is made exactly of a text that can be read and reported on. -/
lemma fileReport_eq_ok [CharacterNames] {report : ValidationReport} :
    (fileReport (m := StateM Machine) path machine).1 = .ok report ↔
      ∃ text, machine.textAt path = .ok text ∧ textReport text = .ok report := by
  rw [fileReport, Machine.bind_run (machine.readText_run path)]
  cases machine.textAt path with
  | error e => cases e <;> simp [Machine.pure_run]
  | ok text => cases h : textReport text <;> simp [Machine.pure_run, Except.mapError, h]

end Validation

namespace RuleSet

variable [CharacterNames] {machine : Machine} {path : Path}

lemma load_of_textAt {text : String} (options : LoadOptions) (h : machine.textAt path = .ok text) :
    load (m := StateM Machine) options path machine = (ofText options path text, machine) := by
  rw [load, Machine.bind_run (machine.pathExists_run path), machine.isSome_lookup?_of_textAt path h,
    if_pos rfl, Machine.bind_run (machine.readText_run path), h]
  rfl

/-- Why a text cannot be read does not depend on what would be done with it. -/
lemma load_of_textAt_error {e : Host.TextError} (h : machine.textAt path = .error e) :
    ∃ failure, ∀ options,
      load (m := StateM Machine) options path machine = (⟨.error failure, []⟩, machine) := by
  simp only [load, Machine.bind_run (machine.pathExists_run path)]
  cases (machine.files.lookup? path).isSome with
  | false => exact ⟨.missing path, fun _ => rfl⟩
  | true =>
    simp only [if_true, Machine.bind_run (machine.readText_run path), h]
    cases e with
    | file e => exact ⟨.unreadable e, fun _ => rfl⟩
    | encoding fault => exact ⟨.encoding fault, fun _ => rfl⟩

/-- A rule set is loaded exactly from a text that can be read and gives it. -/
lemma load_eq_ok {options : LoadOptions} {r : RuleSet} :
    (load (m := StateM Machine) options path machine).1.value = .ok r ↔
      ∃ text, machine.textAt path = .ok text ∧ (ofText options path text).value = .ok r := by
  cases htext : machine.textAt path with
  | error e =>
    obtain ⟨failure, hload⟩ := load_of_textAt_error htext
    simp [hload]
  | ok text => simp [load_of_textAt options htext]

/-- First the hash of a text is checked, then it is read as JSON, and then the table is compiled. -/
lemma value_ofText (options : LoadOptions) (path : Path) (text : String) :
    (ofText options path text).value = (do
      let fileHash ← checkHash options text
      let table ← readTable text
      (ofTable options.vocabulary table (some path.toText) fileHash).value.mapError LoadError.failed) := by
  rw [ofText]
  cases checkHash options text with
  | error e => rfl
  | ok fileHash =>
    cases readTable text with
    | error e => rfl
    | ok table =>
      simp only [Logged.value_bind]
      show _ = (ofTable options.vocabulary table (some path.toText) fileHash).value.mapError _
      cases (ofTable options.vocabulary table (some path.toText) fileHash).value <;> rfl

omit [CharacterNames] in
lemma readTable_eq_ok {text : String} {table : Json} :
    readTable text = .ok table ↔ Json.parse text = .ok table := by
  rw [readTable]
  cases Json.parse text with
  | error e => cases e <;> simp
  | ok table => simp

/-- Without a hash to check, a text is accepted if it is JSON and the table that it holds is. -/
lemma ofText_eq_ok {v : Vocabulary} {text : String} {r : RuleSet} :
    (ofText { vocabulary := v } path text).value = .ok r ↔ ∃ table, Json.parse text = .ok table ∧
      (ofTable v table (some path.toText)).value = .ok r := by
  have hhash : checkHash { vocabulary := v } text = .ok none := rfl
  simp only [value_ofText, hhash, bind_eq_ok, readTable_eq_ok, mapError_eq_ok, Except.ok.injEq,
    exists_eq_left']

end RuleSet

namespace Validation

/-- The validator and the strict loader agree on every file. A report is clean exactly if the file
loads, its text is a JSON object that has a version and whose other keys are exact names of
categories, and no rule sets a field twice; and then it counts the rules that are loaded. -/
theorem fileReport_eq_clean [CharacterNames] (machine : Machine) (path : Path) (n : Nat) :
    (fileReport (m := StateM Machine) path machine).1 = .ok ⟨n, []⟩ ↔
      ∃ text members r, machine.textAt path = .ok text ∧ Json.parse text = .ok (.obj members) ∧
        (RuleSet.load (m := StateM Machine) { vocabulary := strictVocabulary } path
          machine).1.value = .ok r ∧
        Assoc.contains "version" members = true ∧ (∀ key ∈ Assoc.keys members, KnownKey key) ∧
        (∀ c, ∀ rule ∈ r.group c, rule.DistinctFields) ∧ n = r.count := by
  rw [fileReport_eq_ok]
  constructor
  · rintro ⟨text, htext, hreport⟩
    obtain ⟨members, hparse, htable⟩ := textReport_eq_clean.mp hreport
    have hnodup := Json.nodup_keys_of_parse hparse
    obtain ⟨hversion, hknown, r, hr, hdistinct, hn⟩ := (tableReport_eq_clean hnodup).mp htable
    have hload := RuleSet.load_eq_ok.mpr ⟨text, htext, RuleSet.ofText_eq_ok.mpr ⟨_, hparse, hr⟩⟩
    exact ⟨text, members, r, htext, hparse, hload, hversion, hknown, hdistinct, hn⟩
  · rintro ⟨text, members, r, htext, hparse, hload, hversion, hknown, hdistinct, hn⟩
    obtain ⟨text', htext', hr⟩ := RuleSet.load_eq_ok.mp hload
    rw [htext] at htext'
    cases htext'
    obtain ⟨table, hparse', hr⟩ := RuleSet.ofText_eq_ok.mp hr
    rw [hparse] at hparse'
    cases hparse'
    have hnodup := Json.nodup_keys_of_parse hparse
    have htable := (tableReport_eq_clean hnodup).mpr ⟨hversion, hknown, r, hr, hdistinct, hn⟩
    exact ⟨text, htext, textReport_eq_clean.mpr ⟨members, hparse, htable⟩⟩

end Validation

end UserAgent
