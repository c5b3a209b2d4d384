import UserAgent.Proofs.Agreement

/-!
# Which rules of a table are kept

Keys of a table name categories in any case, so two keys may name one category. The rules of the later
key then take the place of the earlier ones. `RuleSet.keepsAll_iff` says exactly when an accepted table
loses no rule in this way.
-/

namespace UserAgent

open Compiled

namespace RuleGroup

variable [CharacterNames]

/-! ### The rules that a table holds -/

/-- The rules that a category has in a table, as pairs of patterns and specifications. -/
def written (category : String) : Json → List (Json × Json)
  | .arr entries => (split category entries).toOption.getD []
  | _ => []

/-- A group that was compiled from pairs of patterns and specifications, pair by pair. -/
def CompiledFrom (v : Vocabulary) (pairs : List (Json × Json)) (rules : RuleGroup) : Prop :=
  List.Forall₂ (fun pair rule => Rule.compile v pair.1 pair.2 = .ok rule) pairs rules

omit [CharacterNames] in
lemma written_of_split {category : String} {entries : List Json} {pairs : List (Json × Json)}
    (h : split category entries = .ok pairs) : written category (.arr entries) = pairs := by
  simp [written, h, Except.toOption]

/-- The rules of a category are compiled from those that are written for it. -/
lemma compiledFrom_written {v : Vocabulary} {category : String} {value : Json} {rules : RuleGroup}
    (h : compile v category value = .ok rules) : CompiledFrom v (written category value) rules := by
  obtain ⟨entries, pairs, rfl, hsplit, hrules⟩ := compile_eq_ok.mp h
  rw [written_of_split hsplit]
  exact hrules

/-- There are as many of them as are written. -/
lemma length_written {v : Vocabulary} {category : String} {value : Json} {rules : RuleGroup}
    (h : compile v category value = .ok rules) : (written category value).length = rules.length :=
  (compiledFrom_written h).length_eq

lemma written_eq_nil_iff {v : Vocabulary} {category : String} {value : Json} {rules : RuleGroup}
    (h : compile v category value = .ok rules) : written category value = [] ↔ rules = [] := by
  rw [← List.length_eq_zero_iff, length_written h, List.length_eq_zero_iff]

end RuleGroup

namespace RuleSet

/-- The members of a table whose keys name categories, each with its category. -/
def categoryMembers (members : List (String × Json)) : List (Category × Json) :=
  members.filterMap fun member => (Category.ofName? member.1).map (·, member.2)

/-- The rules that a member of a table holds for its category. -/
def memberRules (member : Category × Json) : List (Json × Json) :=
  RuleGroup.written member.1.name member.2

/-- The number of rules that the members hold together. -/
def writtenCount (members : List (String × Json)) : Nat :=
  ((categoryMembers members).flatMap memberRules).length

/-- The rules that the last member for a category holds. -/
def lastRules (members : List (String × Json)) (c : Category) : List (Json × Json) :=
  (((categoryMembers members).filter (·.1 = c)).getLast?.map memberRules).getD []

/-- Where two keys name one category, the earlier one holds no rules. -/
def KeepsAll (members : List (String × Json)) : Prop :=
  (categoryMembers members).Pairwise fun a b => a.1 = b.1 → memberRules a = []

instance : DecidablePred KeepsAll := fun members =>
  inferInstanceAs (Decidable (List.Pairwise _ (categoryMembers members)))

section Cons

variable {key : String} {value : Json} {rest : List (String × Json)}

lemma categoryMembers_cons_of_none (h : Category.ofName? key = none) :
    categoryMembers ((key, value) :: rest) = categoryMembers rest := by
  simp [categoryMembers, h]

lemma categoryMembers_cons_of_some {c : Category} (h : Category.ofName? key = some c) :
    categoryMembers ((key, value) :: rest) = (c, value) :: categoryMembers rest := by
  simp [categoryMembers, h]

end Cons

/-! ### What happens to the rules -/

/-- Of each category that members name, the groups hold the rules of the last member. -/
lemma compiledFrom_last [CharacterNames] {v : Vocabulary} {groups groups' : RuleGroups}
    {members : List (String × Json)} {before : Category → List (Json × Json)}
    (h : (compileMembers v groups members).value = .ok groups')
    (hgroups : ∀ c, RuleGroup.CompiledFrom v (before c) (groups.get c)) (c : Category) :
    RuleGroup.CompiledFrom v
      ((((categoryMembers members).filter (·.1 = c)).getLast?.map memberRules).getD (before c))
      (groups'.get c) := by
  induction members generalizing groups before with
  | nil =>
    cases h
    exact hgroups c
  | cons member rest ih =>
    obtain ⟨key, value⟩ := member
    rw [value_compileMembers_cons] at h
    split at h
    · rename_i hkey
      rw [categoryMembers_cons_of_none hkey]
      exact ih h hgroups
    · rename_i d hkey
      obtain ⟨rules, hrules, h⟩ := bind_eq_ok.mp h
      rw [categoryMembers_cons_of_some hkey, List.filter_cons]
      -- The rules before the rest of the table are those that were there, with the new ones for
      -- their category.
      have hset : ∀ e, RuleGroup.CompiledFrom v
          (if d = e then memberRules (d, value) else before e) ((groups.set d rules).get e) := by
        intro e
        by_cases hde : d = e
        · subst hde
          rw [if_pos rfl, RuleGroups.get_set_self]
          exact RuleGroup.compiledFrom_written hrules
        · rw [if_neg hde, RuleGroups.get_set_of_ne _ hde]
          exact hgroups e
      have hlast := ih h hset
      by_cases hdc : d = c
      · rw [if_pos (by simpa using hdc), List.getLast?_cons]
        rw [if_pos hdc] at hlast
        cases hfilter : ((categoryMembers rest).filter (·.1 = c)).getLast? with
        | none => simpa [hfilter] using hlast
        | some last => simpa [hfilter] using hlast
      · simpa [hdc] using hlast

/-- Whether rules are lost while members are added to groups: a member loses those that its category
has at that time. -/
lemma count_of_compileMembers [CharacterNames] {v : Vocabulary} {groups groups' : RuleGroups}
    {members : List (String × Json)} (h : (compileMembers v groups members).value = .ok groups') :
    groups'.count ≤ groups.count + writtenCount members ∧
      (groups'.count = groups.count + writtenCount members ↔
        (∀ member ∈ categoryMembers members, groups.get member.1 = []) ∧ KeepsAll members) := by
  induction members generalizing groups with
  | nil =>
    cases h
    simp [writtenCount, categoryMembers, KeepsAll]
  | cons member rest ih =>
    obtain ⟨key, value⟩ := member
    rw [value_compileMembers_cons] at h
    split at h
    · rename_i hkey
      simpa only [writtenCount, KeepsAll, categoryMembers_cons_of_none hkey] using ih h
    · rename_i c hkey
      obtain ⟨rules, hrules, h⟩ := bind_eq_ok.mp h
      obtain ⟨hle, hiff⟩ := ih h
      have hstep := groups.count_set_add c rules
      have hlength : (memberRules (c, value)).length = rules.length :=
        RuleGroup.length_written hrules
      have hempty : memberRules (c, value) = [] ↔ rules = [] := RuleGroup.written_eq_nil_iff hrules
      have htotal : writtenCount ((key, value) :: rest) = rules.length + writtenCount rest := by
        rw [writtenCount, categoryMembers_cons_of_some hkey, List.flatMap_cons, List.length_append,
          hlength, writtenCount]
      -- What a later member loses is what it would have lost before, or the rules of this one.
      have hlater : (groups.get c).length = 0 →
          ((∀ member ∈ categoryMembers rest, (groups.set c rules).get member.1 = []) ↔
            (∀ member ∈ categoryMembers rest, groups.get member.1 = []) ∧
              ∀ member ∈ categoryMembers rest, c = member.1 → memberRules (c, value) = []) := by
        intro hnone
        refine (forall₂_congr fun member _ => ?_).trans forall₂_and
        by_cases hc : c = member.1
        · rw [← hc, RuleGroups.get_set_self, hempty]
          simp [List.length_eq_zero_iff.mp hnone]
        · rw [RuleGroups.get_set_of_ne _ hc]
          simp [hc]
      rw [htotal, KeepsAll, categoryMembers_cons_of_some hkey, List.forall_mem_cons,
        List.pairwise_cons, ← List.length_eq_zero_iff]
      refine ⟨by omega, ?_⟩
      constructor
      · intro hcount
        have hnone : (groups.get c).length = 0 := by omega
        obtain ⟨hrest, hkeeps⟩ := hiff.mp (by omega)
        obtain ⟨hbefore, hthis⟩ := (hlater hnone).mp hrest
        exact ⟨⟨hnone, hbefore⟩, hthis, hkeeps⟩
      · rintro ⟨⟨hnone, hbefore⟩, hthis, hkeeps⟩
        replace hnone : (groups.get c).length = 0 := hnone
        have hcount := hiff.mpr ⟨(hlater hnone).mpr ⟨hbefore, hthis⟩, hkeeps⟩
        omega

/-- Where no rule is lost, the rules of a member are those of the last member for its category. -/
lemma memberRules_subset_lastRules {members : List (String × Json)} (hkeeps : KeepsAll members)
    {member : Category × Json} (hmember : member ∈ categoryMembers members) :
    memberRules member ⊆ lastRules members member.1 := by
  have hfiltered : member ∈ (categoryMembers members).filter (·.1 = member.1) := by
    simpa using hmember
  have hordered := List.Pairwise.filter (fun m => decide (m.1 = member.1)) hkeeps
  rw [lastRules]
  rcases List.eq_nil_or_concat' ((categoryMembers members).filter (·.1 = member.1)) with
    hnil | ⟨earlier, last, hsplit⟩
  · simp [hnil] at hfiltered
  · rw [hsplit] at hfiltered hordered ⊢
    rw [List.getLast?_concat, Option.map_some, Option.getD_some]
    rcases List.mem_append.mp hfiltered with hearlier | hlast
    · -- An earlier member for the same category holds nothing.
      have hcategory : last.1 = member.1 := by
        have : last ∈ (categoryMembers members).filter (·.1 = member.1) := by simp [hsplit]
        simpa using (List.mem_filter.mp this).2
      have hempty := (List.pairwise_append.mp hordered).2.2 member hearlier last
        List.mem_cons_self hcategory.symm
      simp [hempty]
    · simp [List.mem_singleton.mp hlast]

/-- The keys of an accepted table may name one category more than once, and then the rules of the last
one count. Every rule of the table is counted, and is among the rules of its category, exactly if the
earlier ones hold no rules. -/
theorem keepsAll_iff [CharacterNames] {v : Vocabulary} {members : List (String × Json)}
    {source fileHash : Option String} {r : RuleSet}
    (h : (ofTable v (.obj members) source fileHash).value = .ok r) :
    (∀ c, RuleGroup.CompiledFrom v (lastRules members c) (r.group c)) ∧
      (r.count = writtenCount members ∧
          (∀ member ∈ categoryMembers members, ∀ pair ∈ memberRules member,
            ∃ rule ∈ r.group member.1, Rule.compile v pair.1 pair.2 = .ok rule) ↔
        KeepsAll members) := by
  obtain ⟨members', heq, hgroups, -⟩ := ofTable_eq_ok.mp h
  obtain rfl : members = members' := by simpa using heq
  have hempty : ∀ c, RuleGroups.get {} c = [] := by
    intro c
    cases c <;> rfl
  have hstart : ∀ c, RuleGroup.CompiledFrom v [] (RuleGroups.get {} c) := by
    intro c
    rw [hempty]
    exact List.Forall₂.nil
  have hlast : ∀ c, RuleGroup.CompiledFrom v (lastRules members c) (r.group c) :=
    compiledFrom_last hgroups hstart
  obtain ⟨-, hcount⟩ := count_of_compileMembers hgroups
  -- All rules are counted exactly if none is replaced.
  have htotal : r.count = writtenCount members ↔ KeepsAll members := by
    rw [show RuleGroups.count {} = 0 from rfl, Nat.zero_add] at hcount
    rw [show r.count = r.groups.count from rfl, hcount]
    simp [hempty]
  refine ⟨hlast, ?_⟩
  constructor
  · rintro ⟨hall, -⟩
    exact htotal.mp hall
  · intro hkeeps
    refine ⟨htotal.mpr hkeeps, fun member hmember pair hpair => ?_⟩
    exact exists_of_forall₂ (hlast member.1).flip (memberRules_subset_lastRules hkeeps hmember hpair)

/-- A table that names a category twice. The first of these members holds no rules. -/
def emptyThenOwl : List (String × Json) :=
  [("OS", .arr []),
    ("Browser", .arr [.arr [.ofTexts ["fox"], .ofTexts ["name"]]]),
    ("os", .arr [.arr [.ofTexts ["owl"], .ofTexts ["name"]]])]

theorem keepsAll_emptyThenOwl : ∃ r, (ofTable {} (.obj emptyThenOwl)).value = .ok r ∧
    KeepsAll emptyThenOwl ∧ r.count = writtenCount emptyThenOwl := by
  have hany : (ofTable {} (.obj emptyThenOwl)).value.toOption.any (fun _ => true) = true := by
    decide +kernel
  obtain ⟨r, hr, -⟩ := exists_ok_of_any hany
  have hkeeps : KeepsAll emptyThenOwl := by
    decide +kernel
  exact ⟨r, hr, hkeeps, ((keepsAll_iff hr).2.mpr hkeeps).1⟩

/-- A table that names a category twice, each time with a rule. -/
def foxThenOwl : List (String × Json) :=
  [("browser", .arr [.arr [.ofTexts ["fox"], .ofTexts ["name"]]]),
    ("Browser", .arr [.arr [.ofTexts ["owl"], .ofTexts ["name"]]])]

/-- The rule for foxes is lost, and a fox is not known. -/
theorem fox_lost : ∃ r, (ofTable {} (.obj foxThenOwl)).value = .ok r ∧
    r.count = 1 ∧ writtenCount foxThenOwl = 2 ∧
    (r.record "fox" .browser).value = [("name", ""), ("version", ""), ("major", "")] := by
  have hany : (ofTable {} (.obj foxThenOwl)).value.toOption.any (fun r =>
      decide (r.count = 1 ∧ writtenCount foxThenOwl = 2 ∧
        (r.record "fox" .browser).value = [("name", ""), ("version", ""), ("major", "")])) =
      true := by
    decide +kernel
  obtain ⟨r, hr, h⟩ := exists_ok_of_any hany
  exact ⟨r, hr, of_decide_eq_true h⟩

end RuleSet

end UserAgent
