import UserAgent.Proofs.Loading
import UserAgent.Proofs.PatternText
import UserAgent.Proofs.RuleLayouts

/-!
# Exported rule tables

A rule set that was read from a table is written as a table again. The main result says when reading
what was written restores the rule set: `RuleSet.ofTable_toTable_iff`. What stands in the way is the
text of a pattern that looks delimited although it is not, and a replacement whose pattern is the
keyword of mapping tables.
-/

namespace UserAgent

open Compiled

/-! ### Field specifications -/

/-- Every transform and every mapping table is registered under its own name. -/
structure Vocabulary.OwnNames (v : Vocabulary) : Prop where
  transforms : ∀ entry ∈ v.transforms, entry.2.name = entry.1
  tables : ∀ entry ∈ v.tables, entry.2.name = entry.1

instance : DecidablePred Vocabulary.OwnNames := fun v =>
  decidable_of_iff ((∀ entry ∈ v.transforms, entry.2.name = entry.1) ∧
    ∀ entry ∈ v.tables, entry.2.name = entry.1)
    ⟨fun h => ⟨h.1, h.2⟩, fun h => ⟨h.transforms, h.tables⟩⟩

namespace Vocabulary.OwnNames

variable {v : Vocabulary} (hv : v.OwnNames) {name : String}

include hv

lemma name_of_transform {t : Transform} (h : v.transforms.find? name = some t) : t.name = name :=
  hv.transforms _ (Assoc.mem_of_get?_eq_some h)

lemma name_of_table {table : MappingTable} (h : v.tables.find? name = some table) :
    table.name = name :=
  hv.tables _ (Assoc.mem_of_get?_eq_some h)

end Vocabulary.OwnNames

namespace FieldSpec

variable [CharacterNames]

/-- What a rule table writes for a specification stands for the specification. -/
def Exportable : FieldSpec → Prop
  | substitute _ s => s.search.Exportable ∧ s.search.text ≠ mappingKeyword
  | substituteTransform _ s _ => s.search.Exportable
  | copy _ | literal .. | transform .. | mapped .. => True

instance : DecidablePred Exportable
  | substitute _ s => inferInstanceAs (Decidable (s.search.Exportable ∧ _))
  | substituteTransform _ s _ => inferInstanceAs (Decidable s.search.Exportable)
  | copy _ | literal .. | transform .. | mapped .. => .isTrue trivial

/-- A replacement that is written and read again is the same exactly if its search pattern is
exportable. -/
lemma compileSubstitution_text_iff {pattern source : String} {s : Substitution}
    (h : compileSubstitution pattern source = .ok s) :
    compileSubstitution s.search.text s.source = .ok s ↔ s.search.Exportable := by
  obtain ⟨hpattern, htemplate, rfl⟩ := compileSubstitution_eq_ok.mp h
  rw [compileSubstitution_eq_ok, Pattern.compile_text_iff hpattern]
  exact ⟨fun h => h.1, fun h => ⟨h, htemplate, rfl⟩⟩

/-- A replacement that is written with the keyword of lookups is not read as a replacement. -/
lemma decodeTriple_mappingKeyword_ne {v : Vocabulary} {name key : String} {name' : String}
    {s : Substitution} : decodeTriple v name mappingKeyword key ≠ .ok (.substitute name' s) := by
  rw [decodeTriple, if_pos rfl]
  cases v.tables.find? key <;> rintro ⟨⟩

/-- A specification that is written and read again is the same exactly if it is exportable. -/
theorem decode_encode_iff {v : Vocabulary} (hv : v.OwnNames) {spec : Json} {f : FieldSpec}
    (h : decode v spec = .ok f) : decode v f.encode = .ok f ↔ f.Exportable := by
  cases decode_eq_ok.mp h with
  | copy hname => exact iff_of_true h trivial
  | literal hname htoken hnear => exact iff_of_true h trivial
  | transform hname htoken =>
    rw [encode, hv.name_of_transform htoken]
    exact iff_of_true h trivial
  | mapped hname hkey =>
    rw [encode, hv.name_of_table hkey]
    exact iff_of_true h trivial
  | @substitute name pattern source s hname hpattern hs =>
    rw [encode, decode_three v hname, Exportable, ← compileSubstitution_text_iff hs]
    -- Written back as the keyword, the pattern would ask for a table.
    by_cases hkeyword : s.search.text = mappingKeyword
    · rw [hkeyword]
      exact iff_of_false decodeTriple_mappingKeyword_ne fun h => h.2 rfl
    · rw [decodeTriple, if_neg hkeyword, bind_eq_ok]
      constructor
      · rintro ⟨s', hs', h⟩
        cases pure_eq_ok.mp h
        exact ⟨hs', hkeyword⟩
      · rintro ⟨hs', _⟩
        exact ⟨s, hs', rfl⟩
  | @substituteTransform name pattern source token s t hname htoken hs =>
    rw [encode, hv.name_of_transform htoken, decode_four v hname, decodeQuadruple, htoken,
      Exportable, ← compileSubstitution_text_iff hs]
    dsimp only
    rw [bind_eq_ok]
    constructor
    · rintro ⟨s', hs', h⟩
      cases pure_eq_ok.mp h
      exact hs'
    · intro hs'
      exact ⟨s, hs', rfl⟩

end FieldSpec

/-! ### Rules -/

namespace Rule

/-- What a rule table writes for a rule stands for the rule. -/
def Exportable (r : Rule) : Prop :=
  (∀ p ∈ r.patterns, p.Exportable) ∧ ∀ f ∈ r.fields, f.Exportable

instance : DecidablePred Exportable := fun r =>
  inferInstanceAs (Decidable ((∀ p ∈ r.patterns, p.Exportable) ∧ _))

/-- The patterns of a rule as a rule table writes them. -/
def encodedPatterns (r : Rule) : Json := .ofTexts (r.patterns.map Pattern.text)

/-- The specifications of a rule as a rule table writes them. -/
def encodedFields (r : Rule) : Json := .arr (r.fields.map FieldSpec.encode)

lemma patterns_ne_nil [CharacterNames] {v : Vocabulary} {patterns specs : Json} {r : Rule}
    (h : compile v patterns specs = .ok r) : r.patterns ≠ [] := by
  obtain ⟨hne, hpatterns, _⟩ := compile_eq_ok.mp h
  have hlength := (mapM_eq_ok.mp hpatterns).length_eq
  intro hnil
  rw [hnil] at hlength
  exact hne (List.length_eq_zero_iff.mp hlength)

/-- A rule that is written and read again is the same exactly if it is exportable. -/
theorem compile_encoded_iff [CharacterNames] {v : Vocabulary} (hv : v.OwnNames)
    {patterns specs : Json} {r : Rule} (h : compile v patterns specs = .ok r) :
    compile v r.encodedPatterns r.encodedFields = .ok r ↔ r.Exportable := by
  have hne : patternList r.encodedPatterns ≠ [] := by
    simpa [encodedPatterns, Json.ofTexts, patternList] using patterns_ne_nil h
  have hlist : patternList r.encodedPatterns = r.patterns.map fun p => .str p.text := by
    simp [encodedPatterns, Json.ofTexts, patternList]
  obtain ⟨_, hpatterns, items, _, hfields⟩ := compile_eq_ok.mp h
  have hp : ∀ p ∈ r.patterns,
      (FieldSpec.compilePatternValue (.str p.text) = .ok p ↔ p.Exportable) := by
    intro p hp
    obtain ⟨value, _, hvalue⟩ := exists_of_mem_mapM hpatterns hp
    obtain ⟨text, _, htext⟩ := FieldSpec.compilePatternValue_eq_ok.mp hvalue
    rw [FieldSpec.compilePatternValue, FieldSpec.compilePattern_eq_ok,
      Pattern.compile_text_iff htext]
  have hf : ∀ f ∈ r.fields, (FieldSpec.decode v f.encode = .ok f ↔ f.Exportable) := by
    intro f hf
    obtain ⟨spec, _, hspec⟩ := exists_of_mem_mapM hfields hf
    exact FieldSpec.decode_encode_iff hv hspec
  rw [compile_eq_ok, Exportable, hlist, mapM_map_eq_ok_self]
  constructor
  · rintro ⟨_, hps, items', hitems, hfs⟩
    cases hitems
    rw [mapM_map_eq_ok_self] at hfs
    exact ⟨fun p h => (hp p h).mp (hps p h), fun f h => (hf f h).mp (hfs f h)⟩
  · rintro ⟨hps, hfs⟩
    refine ⟨hlist ▸ hne, fun p h => (hp p h).mpr (hps p h), _, rfl, ?_⟩
    exact mapM_map_eq_ok_self.mpr fun f h => (hf f h).mpr (hfs f h)

end Rule

/-! ### Rules of a category -/

namespace RuleGroup

/-- Rules are written as pairs. -/
lemma split_encode (category : String) (group : RuleGroup) :
    split category (group.map Rule.encode) =
      .ok (group.map fun r => (r.encodedPatterns, r.encodedFields)) := by
  have hsplit : split category (pairedEntries (group.map fun r =>
      (r.encodedPatterns, r.encodedFields))) =
      .ok (group.map fun r => (r.encodedPatterns, r.encodedFields)) := by
    refine split_pairedEntries fun pair hpair => ?_
    obtain ⟨r, -, rfl⟩ := List.mem_map.mp hpair
    rfl
  rw [pairedEntries, List.map_map] at hsplit
  exact hsplit

/-- The rules of a category are the same again exactly if each of them is exportable. -/
theorem compile_encode_iff [CharacterNames] {v : Vocabulary} (hv : v.OwnNames) {category : String}
    {group : RuleGroup} (h : ∀ r ∈ group, ∃ patterns specs, Rule.compile v patterns specs = .ok r) :
    compile v category group.encode = .ok group ↔ ∀ r ∈ group, r.Exportable := by
  have hr : ∀ r ∈ group,
      (Rule.compile v r.encodedPatterns r.encodedFields = .ok r ↔ r.Exportable) := by
    intro r hmem
    obtain ⟨patterns, specs, hcompile⟩ := h r hmem
    exact Rule.compile_encoded_iff hv hcompile
  rw [compile_eq_ok]
  constructor
  · rintro ⟨entries, pairs, hentries, hpairs, hrules⟩ r hmem
    cases hentries
    rw [split_encode] at hpairs
    cases hpairs
    rw [List.forall₂_map_left_iff, List.forall₂_same] at hrules
    exact (hr r hmem).mp (hrules r hmem)
  · intro hall
    refine ⟨_, _, rfl, split_encode category group, ?_⟩
    rw [List.forall₂_map_left_iff, List.forall₂_same]
    exact fun r hmem => (hr r hmem).mpr (hall r hmem)

end RuleGroup

/-- Rules are equal if they are equal for each category. -/
lemma RuleGroups.ext_get {g h : RuleGroups} (hget : ∀ c, g.get c = h.get c) : g = h := by
  cases g
  cases h
  have hb := hget .browser
  have he := hget .engine
  have ho := hget .os
  have hc := hget .cpu
  have hd := hget .device
  simp only [RuleGroups.get] at hb he ho hc hd
  subst hb he ho hc hd
  rfl

/-! ### Rule sets -/

namespace RuleSet

/-- Members that are named after different categories fill just the groups of these. -/
lemma compileMembers_named_eq_ok [CharacterNames] {v : Vocabulary} {written : Category → Json}
    {cs : List Category} (hcs : cs.Nodup) {g g' : RuleGroups} :
    (compileMembers v g (cs.map fun c => (c.name, written c))).value = .ok g' ↔
      (∀ c ∈ cs, RuleGroup.compile v c.name (written c) = .ok (g'.get c)) ∧
        ∀ c, c ∉ cs → g'.get c = g.get c := by
  induction cs generalizing g with
  | nil =>
    rw [List.map_nil, compileMembers, Except.ok.injEq]
    constructor
    · rintro rfl
      exact ⟨by simp, fun _ _ => rfl⟩
    · rintro ⟨_, h⟩
      exact RuleGroups.ext_get fun c => (h c List.not_mem_nil).symm
  | cons c cs ih =>
    obtain ⟨hc, hcs⟩ := List.nodup_cons.mp hcs
    rw [List.map_cons, value_compileMembers_cons, Category.ofName?_name]
    dsimp only
    rw [bind_eq_ok]
    constructor
    · rintro ⟨rules, hrules, h⟩
      obtain ⟨hmem, hrest⟩ := (ih hcs).mp h
      -- No later key names this category, so its rules are left.
      have hget : g'.get c = rules := by rw [hrest c hc, RuleGroups.get_set_self]
      refine ⟨?_, fun d hd => ?_⟩
      · intro d hd
        rcases List.mem_cons.mp hd with rfl | hd
        · rw [hget, hrules]
        · exact hmem d hd
      · obtain ⟨hne, hd⟩ := not_or.mp (fun h => hd (List.mem_cons.mpr h))
        rw [hrest d hd, RuleGroups.get_set_of_ne _ (Ne.symm hne)]
    · rintro ⟨hmem, hrest⟩
      refine ⟨g'.get c, hmem c List.mem_cons_self, (ih hcs).mpr ⟨?_, fun d hd => ?_⟩⟩
      · exact fun d hd => hmem d (List.mem_cons_of_mem _ hd)
      · by_cases hdc : c = d
        · rw [← hdc, RuleGroups.get_set_self]
        · rw [RuleGroups.get_set_of_ne _ hdc]
          exact hrest d fun h => (List.mem_cons.mp h).elim (fun h => hdc h.symm) hd

/-- Members that give a version, a date and the rules of all categories are accepted if these rules
are. -/
lemma compileMembers_all_eq_ok [CharacterNames] {v : Vocabulary} {version date : Json}
    {written : Category → Json} {g : RuleGroups} :
    (compileMembers v {} (("version", version) :: ("last_updated", date) ::
        Category.all.map fun c => (c.name, written c))).value = .ok g ↔
      ∀ c, RuleGroup.compile v c.name (written c) = .ok (g.get c) := by
  have hversion : Category.ofName? "version" = none := rfl
  have hdate : Category.ofName? "last_updated" = none := rfl
  rw [value_compileMembers_cons, hversion]
  dsimp only
  rw [value_compileMembers_cons, hdate]
  dsimp only
  rw [compileMembers_named_eq_ok (by decide)]
  exact ⟨fun h c => h.1 c c.mem_all,
    fun h => ⟨fun c _ => h c, fun c hc => absurd c.mem_all hc⟩⟩

/-- A table that was written is accepted if the rules of each category are. -/
lemma ofTable_toTable_groups [CharacterNames] {v : Vocabulary} {r : RuleSet} {g : RuleGroups} :
    (compileMembers v {} r.toMembers).value = .ok g ↔
      ∀ c, RuleGroup.compile v c.name (r.group c).encode = .ok (g.get c) :=
  compileMembers_all_eq_ok

/-- The table that is written for a rule set stands for the rule set. -/
def Exportable (r : RuleSet) : Prop :=
  ∀ c, ∀ rule ∈ r.group c, rule.Exportable

instance : DecidablePred Exportable := fun r =>
  decidable_of_iff (∀ c ∈ Category.all, ∀ rule ∈ r.group c, rule.Exportable)
    ⟨fun h c => h c c.mem_all, fun h c _ => h c⟩

/-- The records of a rule set are a matter of its rules alone. -/
lemma record_eq_of_groups_eq {r r' : RuleSet} (h : r'.groups = r.groups) (userAgent : String)
    (c : Category) : r'.record userAgent c = r.record userAgent c := by
  have hraw : ∀ d, r'.rawRecord userAgent d = r.rawRecord userAgent d := by
    intro d
    simp only [rawRecord, group, h]
  cases c <;> simp only [record, hraw]

/-- A rule set that was read from a table and is written as a table is read back, with all records
that it gives, if and only if its patterns and replacements are exportable. The functions of the
transforms may be any. -/
theorem ofTable_toTable_iff [CharacterNames] {v : Vocabulary} (hv : v.OwnNames) {table : Json}
    {source fileHash : Option String} {r : RuleSet}
    (h : (ofTable v table source fileHash).value = .ok r) :
    r.Exportable ↔ ∃ r', (ofTable v r.toTable).value = .ok r' ∧ r'.groups = r.groups ∧
      ∀ userAgent c, r'.record userAgent c = r.record userAgent c := by
  have hgroup : ∀ c, RuleGroup.compile v c.name (r.group c).encode = .ok (r.group c) ↔
      ∀ rule ∈ r.group c, rule.Exportable :=
    fun c => RuleGroup.compile_encode_iff hv fun rule hrule => exists_compile h hrule
  constructor
  · intro hexport
    have hg : (compileMembers v {} r.toMembers).value = .ok r.groups :=
      ofTable_toTable_groups.mpr fun c => (hgroup c).mpr (hexport c)
    let r' : RuleSet := { r with source := none, fileHash := none }
    have hr' : (ofTable v r.toTable).value = .ok r' :=
      ofTable_eq_ok.mpr ⟨r.toMembers, rfl, hg, rfl, rfl, rfl, rfl⟩
    exact ⟨r', hr', rfl, record_eq_of_groups_eq rfl⟩
  · rintro ⟨r', hr', hgroups, _⟩ c
    obtain ⟨members, hmembers, hg, _⟩ := ofTable_eq_ok.mp hr'
    cases hmembers
    rw [hgroups] at hg
    exact (hgroup c).mp (ofTable_toTable_groups.mp hg c)

/-- The built-in transforms and one more, which gives capitals. -/
def capitalsVocabulary : Vocabulary where
  transforms := Transforms.builtIn ++ .ofList [{ name := "capitals", function := .upper }]

/-- A table with every kind of field specification, and with flags in both places. -/
def sixKinds : Json :=
  .obj [("os", .arr [.arr [
    .ofTexts ["/(win)(dows)?\\/(\\d+)/gs", "(?m)^(mac)"],
    .arr [.str "name", .ofTexts ["family", "desktop"], .ofTexts ["kernel", "capitals"],
      .ofTexts ["version", "(?P<digit>\\d)", "<$1\\g<digit>>"],
      .ofTexts ["label", "mapping", "windows"],
      .ofTexts ["short", "/mapping/", "${0}", "trim"]]]])]

theorem ofTable_toTable_sixKinds : capitalsVocabulary.OwnNames ∧
    ∃ r, (ofTable capitalsVocabulary sixKinds).value = .ok r ∧ r.Exportable ∧
      ∃ r', (ofTable capitalsVocabulary r.toTable).value = .ok r' ∧ r'.groups = r.groups ∧
        ∀ userAgent c, r'.record userAgent c = r.record userAgent c := by
  have hv : capitalsVocabulary.OwnNames := by decide
  have hany : (ofTable capitalsVocabulary sixKinds).value.toOption.any
      (fun r => decide r.Exportable) = true := by
    decide +kernel
  obtain ⟨r, hr, hexport⟩ := exists_ok_of_any hany
  have hexport : r.Exportable := of_decide_eq_true hexport
  exact ⟨hv, r, hr, hexport, (ofTable_toTable_iff hv hr).mp hexport⟩

/-- A table whose pattern has slashes around it inside of its delimiters. -/
def doubledSlashes : Json :=
  .obj [("browser", .arr [.arr [.ofTexts ["//(mobile)//"], .ofTexts ["name"]]])]

/-- The slashes around a pattern are lost when it is written without the delimiters that kept them,
and a user agent is described in another way. -/
theorem slashes_lost_by_export : ∃ r r', (ofTable {} doubledSlashes).value = .ok r ∧
    (ofTable {} r.toTable).value = .ok r' ∧ r'.groups ≠ r.groups ∧
    (r'.record "mobile" .browser).value ≠ (r.record "mobile" .browser).value := by
  have hany : (ofTable {} doubledSlashes).value.toOption.any (fun r =>
      (ofTable {} r.toTable).value.toOption.any fun r' =>
        decide ((r'.record "mobile" .browser).value ≠ (r.record "mobile" .browser).value)) = true := by
    decide +kernel
  obtain ⟨r, hr, h⟩ := exists_ok_of_any hany
  obtain ⟨r', hr', h⟩ := exists_ok_of_any h
  have hrecord := of_decide_eq_true h
  refine ⟨r, r', hr, hr', fun hgroups => hrecord ?_, hrecord⟩
  rw [record_eq_of_groups_eq hgroups]

end RuleSet

end UserAgent
