import UserAgent.Proofs.KeptRules
import UserAgent.Proofs.Overruns

/-!
# The refusal of a table

A table is compiled member by member, and a member rule by rule. Where all lists of rules can be split,
the table is accepted exactly if each of its rules is, compiled by itself; else the first rule that is
not accepted decides, and its error names it by its category and its index (`RuleSet.ofTable_located`).
-/

namespace UserAgent

open Compiled

/-! ### Rules in their places -/

/-- A rule of a table, with its category and its index among the rules of a member. -/
structure PlacedRule where
  category : Category
  index : Nat
  patterns : Json
  specs : Json
deriving DecidableEq

namespace PlacedRule

variable [CharacterNames] (v : Vocabulary)

/-- Compile a rule by itself. -/
def compile (r : PlacedRule) : Compiled Rule :=
  Rule.compile v r.patterns r.specs

/-- A rule is accepted by itself. -/
def Accepted (r : PlacedRule) : Prop :=
  ∃ rule, r.compile v = .ok rule

/-- Compile a rule as a part of its table: an error names the rule. -/
def compileInPlace (r : PlacedRule) : Compiled Rule :=
  (r.compile v).mapError (Failure.atRule r.category.name r.index)

variable {v}

lemma compileInPlace_eq_ok {r : PlacedRule} {rule : Rule} :
    r.compileInPlace v = .ok rule ↔ r.compile v = .ok rule :=
  mapError_eq_ok

/-- The fault of a rule is told with the place of the rule. -/
lemma compileInPlace_eq_refuse {r : PlacedRule} {e : RuleError} (h : r.compile v = refuse e) :
    r.compileInPlace v = refuse (.atRule r.category.name r.index e) := by
  rw [compileInPlace, h]
  rfl

omit [CharacterNames] in
/-- The words for the error of a rule are those of the rule by itself, after its place. -/
lemma message_atRule (r : PlacedRule) (e : RuleError) :
    (RuleError.atRule r.category.name r.index e).message =
      r.category.name ++ "[" ++ toString r.index ++ "]: " ++ e.message := by
  show RuleError.location r.category.name r.index ++ ": " ++ e.message = _
  simp [RuleError.location, ← String.toList_inj]

end PlacedRule

namespace RuleGroup

/-- The list of a member can be split into rules. -/
def Splits (category : String) (value : Json) : Prop :=
  ∃ entries pairs, value = .arr entries ∧ split category entries = .ok pairs

/-- The rules of a category, of which the first one has an index. -/
def placed (c : Category) (index : Nat) : List (Json × Json) → List PlacedRule
  | [] => []
  | (patterns, specs) :: rest => ⟨c, index, patterns, specs⟩ :: placed c (index + 1) rest

/-- Pairs are compiled one by one, each in its place. -/
lemma compilePairs_eq_mapM [CharacterNames] (v : Vocabulary) (c : Category) (index : Nat)
    (pairs : List (Json × Json)) :
    compilePairs v c.name index pairs = (placed c index pairs).mapM (PlacedRule.compileInPlace v) := by
  induction pairs generalizing index with
  | nil => rfl
  | cons pair rest ih =>
    obtain ⟨patterns, specs⟩ := pair
    rw [compilePairs, placed, List.mapM_cons, ih, PlacedRule.compileInPlace, PlacedRule.compile]
    cases Rule.compile v patterns specs <;> rfl

end RuleGroup

namespace RuleSet

variable {v : Vocabulary}

/-- The rules of a member, with their places. -/
def placedRules (member : Category × Json) : List PlacedRule :=
  RuleGroup.placed member.1 0 (memberRules member)

/-- The rules of a table in the order of its members, and in each member in the order of its rules. -/
def tableRules (members : List (String × Json)) : List PlacedRule :=
  (categoryMembers members).flatMap placedRules

/-! ### Compiling rules in their places -/

section

variable [CharacterNames]

/-- So are the rules of a category that can be split. -/
lemma compile_eq_mapM {member : Category × Json}
    (h : RuleGroup.Splits member.1.name member.2) :
    RuleGroup.compile v member.1.name member.2 =
      (placedRules member).mapM (PlacedRule.compileInPlace v) := by
  obtain ⟨c, value⟩ := member
  obtain ⟨entries, pairs, rfl, hpairs⟩ := h
  rw [placedRules, memberRules, RuleGroup.written_of_split hpairs, RuleGroup.compile, hpairs,
    ← RuleGroup.compilePairs_eq_mapM]
  rfl

/-- If all members can be split, a table fails as the run over its rules does. -/
lemma compileMembers_eq_error {groups : RuleGroups} {members : List (String × Json)} {f : Failure}
    (hsplits : ∀ member ∈ categoryMembers members, RuleGroup.Splits member.1.name member.2) :
    (compileMembers v groups members).value = .error f ↔
      (tableRules members).mapM (PlacedRule.compileInPlace v) = .error f := by
  induction members generalizing groups with
  | nil => simp [compileMembers, tableRules, categoryMembers, pure, Except.pure]
  | cons member rest ih =>
    obtain ⟨key, value⟩ := member
    rw [value_compileMembers_cons]
    split
    · rename_i hkey
      rw [categoryMembers_cons_of_none hkey] at hsplits
      rw [tableRules, categoryMembers_cons_of_none hkey]
      exact ih hsplits
    · rename_i c hkey
      rw [categoryMembers_cons_of_some hkey] at hsplits
      obtain ⟨hfirst, hrest⟩ := List.forall_mem_cons.mp hsplits
      rw [tableRules, categoryMembers_cons_of_some hkey, List.flatMap_cons, List.mapM_append,
        compile_eq_mapM hfirst, ← tableRules, bind_eq_error, bind_eq_error]
      refine or_congr_right (exists_congr fun rules => and_congr_right fun _ => ?_)
      rw [ih hrest, bind_pure_eq_error]

/-- If all members can be split, a table fails as the first of its rules does that is not accepted. -/
lemma ofTable_eq_error {members : List (String × Json)} {source fileHash : Option String} {f : Failure}
    (hsplits : ∀ member ∈ categoryMembers members, RuleGroup.Splits member.1.name member.2) :
    (ofTable v (.obj members) source fileHash).value = .error f ↔
      Reaches (PlacedRule.Accepted v) (fun r => r.compileInPlace v = .error f)
        (tableRules members) := by
  have hmembers : (ofTable v (.obj members) source fileHash).value = .error f ↔
      (compileMembers v {} members).value = .error f := by
    rw [ofTable, Logged.value_map, bind_pure_eq_error]
  rw [hmembers, compileMembers_eq_error hsplits, mapM_eq_error]
  simp only [PlacedRule.compileInPlace_eq_ok]
  rfl

/-- A table whose members can all be split, and whose rules each are accepted or refused by themselves,
is accepted exactly if all its rules are. Else one of them is the first that is not accepted, and the
table is refused with the words for this rule by itself after its category and index. -/
theorem ofTable_located {members : List (String × Json)} (source fileHash : Option String)
    (hsplits : ∀ member ∈ categoryMembers members, RuleGroup.Splits member.1.name member.2)
    (hdecided : ∀ r ∈ tableRules members, r.Accepted v ∨ ∃ e, r.compile v = refuse e) :
    ((∃ s, (ofTable v (.obj members) source fileHash).value = .ok s) ↔
        ∀ r ∈ tableRules members, r.Accepted v) ∧
      ((∀ r ∈ tableRules members, r.Accepted v) ∨
        Reaches (PlacedRule.Accepted v) (fun r => ∃ e error, r.compile v = refuse e ∧
          (ofTable v (.obj members) source fileHash).value = refuse error ∧
          error.message = r.category.name ++ "[" ++ toString r.index ++ "]: " ++ e.message)
          (tableRules members)) := by
  rcases Reaches.forall_or_reaches (PlacedRule.Accepted v) (tableRules members) with hall | hreaches
  · refine ⟨iff_of_true ?_ hall, .inl hall⟩
    cases hvalue : (ofTable v (.obj members) source fileHash).value with
    | ok s => exact ⟨s, rfl⟩
    | error f =>
      obtain ⟨r, hr, hfailed, -⟩ := ((ofTable_eq_error hsplits).mp hvalue).exists_eq
      obtain ⟨rule, hrule⟩ := hall r hr
      rw [PlacedRule.compileInPlace_eq_ok.mpr hrule] at hfailed
      cases hfailed
  · -- Compilation ends at the first rule that is not accepted, and that one is refused.
    obtain ⟨r, hr, hnot, hfirst⟩ := hreaches.exists_eq
    obtain ⟨e, he⟩ := (hdecided r hr).resolve_left hnot
    have hvalue : (ofTable v (.obj members) source fileHash).value =
        refuse (.atRule r.category.name r.index e) := by
      refine (ofTable_eq_error hsplits).mpr (hfirst.imp fun r' _ h => ?_)
      rw [h, PlacedRule.compileInPlace_eq_refuse he]
      rfl
    refine ⟨iff_of_false ?_ fun hall => hnot (hall r hr), .inr (hfirst.imp fun r' _ h => ?_)⟩
    · rintro ⟨s, hs⟩
      rw [hvalue] at hs
      cases hs
    · rw [h]
      exact ⟨e, _, he, hvalue, r.message_atRule e⟩

end

/-- A table with a key that is passed over, a rule for browsers, and three rules for systems that are
written in turn: the second one has no patterns, and the pattern of the third one is malformed. -/
def owlsInTurn : List (String × Json) :=
  [("birds", .null),
    ("Browser", .arr [.arr [.str "robin", .ofTexts ["name"]]]),
    ("OS", .arr [.str "owl", .ofTexts ["name"], .arr [], .ofTexts ["name"], .str "(", .arr []])]

lemma owlsInTurn_read :
    categoryMembers owlsInTurn =
        [(.browser, .arr [.arr [.str "robin", .ofTexts ["name"]]]),
          (.os, .arr [.str "owl", .ofTexts ["name"], .arr [], .ofTexts ["name"], .str "(", .arr []])] ∧
      tableRules owlsInTurn =
        [⟨.browser, 0, .str "robin", .ofTexts ["name"]⟩, ⟨.os, 0, .str "owl", .ofTexts ["name"]⟩,
          ⟨.os, 1, .arr [], .ofTexts ["name"]⟩, ⟨.os, 2, .str "(", .arr []⟩] ∧
      (∀ bird ∈ ["robin", "owl"],
        (Rule.compile {} (.str bird) (.ofTexts ["name"])).toOption.any (fun _ => true) = true) ∧
      Rule.compile {} (.arr []) (.ofTexts ["name"]) = refuse .noPatterns ∧
      Rule.compile {} (.str "(") (.arr []) = refuse (.malformedPattern "(") := by
  decide +kernel

theorem ofTable_located_owlsInTurn :
    (∀ member ∈ categoryMembers owlsInTurn, RuleGroup.Splits member.1.name member.2) ∧
      (∀ r ∈ tableRules owlsInTurn, r.Accepted {} ∨ ∃ e, r.compile {} = refuse e) ∧
      Reaches (PlacedRule.Accepted {}) (fun r => ∃ e error, r.compile {} = refuse e ∧
        (ofTable {} (.obj owlsInTurn)).value = refuse error ∧
        error.message = r.category.name ++ "[" ++ toString r.index ++ "]: " ++ e.message)
        (tableRules owlsInTurn) := by
  obtain ⟨hmembers, hrules, hbirds, hnothing, hopening⟩ := owlsInTurn_read
  have hsplits : ∀ member ∈ categoryMembers owlsInTurn,
      RuleGroup.Splits member.1.name member.2 := by
    rw [hmembers, List.forall_mem_cons, List.forall_mem_cons]
    exact ⟨⟨_, _, rfl, rfl⟩, ⟨_, _, rfl, rfl⟩, by simp⟩
  have haccepted : ∀ bird ∈ ["robin", "owl"], ∃ rule,
      Rule.compile {} (.str bird) (.ofTexts ["name"]) = .ok rule := by
    intro bird hbird
    obtain ⟨rule, hrule, -⟩ := exists_ok_of_any (hbirds bird hbird)
    exact ⟨rule, hrule⟩
  have hdecided : ∀ r ∈ tableRules owlsInTurn, r.Accepted {} ∨ ∃ e, r.compile {} = refuse e := by
    simp only [hrules, List.forall_mem_cons]
    exact ⟨.inl (haccepted "robin" (by simp)), .inl (haccepted "owl" (by simp)),
      .inr ⟨_, hnothing⟩, .inr ⟨_, hopening⟩, by simp⟩
  refine ⟨hsplits, hdecided, (ofTable_located none none hsplits hdecided).2.resolve_left ?_⟩
  intro hall
  obtain ⟨rule, hrule⟩ := hall ⟨.os, 1, .arr [], .ofTexts ["name"]⟩ (by simp [hrules])
  rw [PlacedRule.compile, hnothing] at hrule
  cases hrule

end RuleSet

end UserAgent
