import Mathlib.Data.List.Forall2
import Mathlib.Tactic.Common
import UserAgent.Rule

/-!
# Layouts of rules

The rules of a category are written as pairs of patterns and specifications, or with patterns and
specifications in turn, and a pattern that is the only one of its rule may stand without a list around
it. The same rules give the same result in every layout, be it the compiled rules or the error of the
first one that is refused: `RuleGroup.compile_layouts`.
-/

namespace UserAgent

namespace RuleGroup

variable {category : String} {pairs : List (Json × Json)}

/-! ### Entries -/

/-- Entries that each hold a rule. -/
def pairedEntries (pairs : List (Json × Json)) : List Json :=
  pairs.map fun pair => .arr [pair.1, pair.2]

/-- Entries that hold patterns and specifications in turn. -/
def flatEntries (pairs : List (Json × Json)) : List Json :=
  pairs.flatMap fun pair => [pair.1, pair.2]

lemma flatEntries_cons (pair : Json × Json) (pairs : List (Json × Json)) :
    flatEntries (pair :: pairs) = pair.1 :: pair.2 :: flatEntries pairs := rfl

lemma length_flatEntries (pairs : List (Json × Json)) :
    (flatEntries pairs).length = 2 * pairs.length := by
  induction pairs with
  | nil => rfl
  | cons pair pairs ih =>
    rw [flatEntries_cons, List.length_cons, List.length_cons, ih, List.length_cons]
    omega

/-! ### Splitting -/

/-- Rules that are written as pairs are split as pairs. -/
lemma splitPaired_pairedEntries (category : String) (index : Nat) (pairs : List (Json × Json)) :
    splitPaired category index (pairedEntries pairs) = .ok pairs := by
  induction pairs generalizing index with
  | nil => rfl
  | cons pair pairs ih =>
    rw [pairedEntries, List.map_cons, ← pairedEntries, splitPaired, ih]
    rfl

/-- Rules that are written in turn are split in turn. -/
lemma splitFlat_flatEntries (pairs : List (Json × Json)) : splitFlat (flatEntries pairs) = pairs := by
  induction pairs with
  | nil => rfl
  | cons pair pairs ih => rw [flatEntries_cons, splitFlat, ih]

/-- Pairs are recognised if the first entry looks like one. -/
lemma split_pairedEntries (h : ∀ pair ∈ pairs, isPair (.arr [pair.1, pair.2]) = true) :
    split category (pairedEntries pairs) = .ok pairs := by
  cases pairs with
  | nil => rfl
  | cons pair pairs =>
    refine (if_pos (h pair List.mem_cons_self)).trans ?_
    exact splitPaired_pairedEntries category 0 (pair :: pairs)

/-- A list in turn is recognised if its patterns do not look like a pair. -/
lemma split_flatEntries (h : ∀ pair ∈ pairs, isPair pair.1 = false) :
    split category (flatEntries pairs) = .ok pairs := by
  cases pairs with
  | nil => rfl
  | cons pair pairs =>
    have hflat : ¬ isPair pair.1 = true := by
      simp [h pair List.mem_cons_self]
    have heven : ¬ ((flatEntries (pair :: pairs)).length % 2 == 1) = true := by
      rw [length_flatEntries, beq_iff_eq]
      omega
    refine (if_neg hflat).trans ((if_neg heven).trans ?_)
    exact congrArg Except.ok (splitFlat_flatEntries (pair :: pairs))

end RuleGroup

/-! ### Written rules -/

/-- The patterns of a rule as they are written: one text, or a list. -/
inductive WrittenPatterns where
  | one (pattern : String)
  | many (patterns : List String)

/-- The patterns as a JSON value. -/
def WrittenPatterns.toJson : WrittenPatterns → Json
  | one pattern => .str pattern
  | many patterns => .ofTexts patterns

/-- A rule as it is written. -/
structure WrittenRule where
  patterns : WrittenPatterns
  specs : List Json

namespace WrittenRule

/-- The patterns and the specifications as JSON values. -/
def toPair (r : WrittenRule) : Json × Json :=
  (r.patterns.toJson, .arr r.specs)

/-- Rules as pairs of patterns and specifications. -/
def paired (rules : List WrittenRule) : Json :=
  .arr (RuleGroup.pairedEntries (rules.map toPair))

/-- Rules with patterns and specifications in turn. -/
def flat (rules : List WrittenRule) : Json :=
  .arr (RuleGroup.flatEntries (rules.map toPair))

/-- The second rule is the first one, perhaps with a list put around its single pattern. -/
inductive Bracketed : WrittenRule → WrittenRule → Prop where
  | same (r : WrittenRule) : Bracketed r r
  | single (pattern : String) (specs : List Json) :
    Bracketed ⟨.one pattern, specs⟩ ⟨.many [pattern], specs⟩

/-! ### Recognizing the layout -/

lemma isPair_toPair (r : WrittenRule) :
    RuleGroup.isPair (.arr [r.toPair.1, r.toPair.2]) = true := by
  obtain ⟨patterns, specs⟩ := r
  cases patterns <;> rfl

/-- Patterns are not taken for a rule: even two of them are texts, and the second one is no list of
specifications. -/
lemma isPair_patterns (r : WrittenRule) : RuleGroup.isPair r.toPair.1 = false := by
  obtain ⟨patterns, specs⟩ := r
  cases patterns with
  | one p => rfl
  | many ps => rcases ps with _ | ⟨p, _ | ⟨q, _ | ⟨r, ps⟩⟩⟩ <;> rfl

/-- Written rules are read from pairs. -/
lemma split_paired (category : String) (rules : List WrittenRule) :
    RuleGroup.split category (RuleGroup.pairedEntries (rules.map toPair)) =
      .ok (rules.map toPair) := by
  refine RuleGroup.split_pairedEntries fun pair hpair => ?_
  obtain ⟨r, -, rfl⟩ := List.mem_map.mp hpair
  exact isPair_toPair r

/-- They are read from a list in turn as well. -/
lemma split_flat (category : String) (rules : List WrittenRule) :
    RuleGroup.split category (RuleGroup.flatEntries (rules.map toPair)) =
      .ok (rules.map toPair) := by
  refine RuleGroup.split_flatEntries fun pair hpair => ?_
  obtain ⟨r, -, rfl⟩ := List.mem_map.mp hpair
  exact isPair_patterns r

/-! ### Compiling -/

/-- A list around a single pattern makes no difference to its rule. -/
lemma Bracketed.compile_eq [CharacterNames] {r r' : WrittenRule} (h : Bracketed r r')
    (v : Vocabulary) :
    Rule.compile v r'.toPair.1 r'.toPair.2 = Rule.compile v r.toPair.1 r.toPair.2 := by
  cases h with
  | same => rfl
  | single pattern specs => rfl

/-- Brackets around patterns change nothing, rule by rule. -/
lemma compilePairs_bracketed [CharacterNames] {rules rules' : List WrittenRule}
    (h : List.Forall₂ Bracketed rules rules') (v : Vocabulary) (category : String) (index : Nat) :
    RuleGroup.compilePairs v category index (rules'.map toPair) =
      RuleGroup.compilePairs v category index (rules.map toPair) := by
  induction h generalizing index with
  | nil => rfl
  | @cons r r' rules rules' hr _ ih =>
    rw [List.map_cons, List.map_cons, RuleGroup.compilePairs, RuleGroup.compilePairs,
      hr.compile_eq v, ih]

end WrittenRule

namespace RuleGroup

open WrittenRule

/-- Rules in any layout, with or without lists around single patterns, give what they give one after
the other: the same compiled rules, or the same error at the same index. -/
theorem compile_layouts [CharacterNames] (v : Vocabulary) (category : String)
    {rules rules' : List WrittenRule} (h : List.Forall₂ Bracketed rules rules') :
    ∀ written ∈ [paired rules, flat rules, paired rules', flat rules'],
      compile v category written = compilePairs v category 0 (rules.map toPair) := by
  have hlayouts : ∀ rules : List WrittenRule, ∀ written ∈ [paired rules, flat rules],
      compile v category written = compilePairs v category 0 (rules.map toPair) := by
    intro rules written hwritten
    rcases List.mem_pair.mp hwritten with rfl | rfl
    · rw [paired, compile, split_paired]
      rfl
    · rw [flat, compile, split_flat]
      rfl
  intro written hwritten
  rcases List.mem_append.mp (show written ∈ [paired rules, flat rules] ++ [paired rules', flat rules']
    from hwritten) with hwritten | hwritten
  · exact hlayouts rules written hwritten
  · rw [hlayouts rules' written hwritten, compilePairs_bracketed h]

/-- Two rules, of which the second one has no pattern. -/
def foxThenNothing : List WrittenRule :=
  [⟨.one "fox", [.str "name"]⟩, ⟨.many [], [.str "name"]⟩]

/-- The same rules, with a list around the pattern of the first one. -/
def foxThenNothingListed : List WrittenRule :=
  [⟨.many ["fox"], [.str "name"]⟩, ⟨.many [], [.str "name"]⟩]

theorem compile_layouts_foxThenNothing :
    List.Forall₂ Bracketed foxThenNothing foxThenNothingListed ∧
      ∀ written ∈ [paired foxThenNothing, flat foxThenNothing, paired foxThenNothingListed,
          flat foxThenNothingListed],
        compile {} "browser" written = refuse (.atRule "browser" 1 .noPatterns) := by
  have h : List.Forall₂ Bracketed foxThenNothing foxThenNothingListed :=
    .cons (.single _ _) (.cons (.same _) .nil)
  refine ⟨h, fun written hwritten => ?_⟩
  rw [compile_layouts {} "browser" h written hwritten]
  rfl

end RuleGroup

end UserAgent
