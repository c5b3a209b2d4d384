import UserAgent.Proofs.ProductToken
import UserAgent.Proofs.SpelledWords

/-!
# Patterns for operating systems

Two of the built-in rules for operating systems are looked at more closely: the one for Mac OS, and the
one for Unix with its pattern for AIX. `RuleSet.BuiltIn.systems_seen` says what the trees of their
patterns are and where their fields come from.
-/

namespace UserAgent

open Regex

/-! ### Patterns that a search comes to -/

namespace RuleGroup

variable {group : RuleGroup} {text : Array Char} {body : String}

/-- The patterns of a group, tried in turn, come to one with a given body: none before it matches. -/
def ComesTo (group : RuleGroup) (text : Array Char) (body : String) : Prop :=
  ∃ (i j : Nat) (rule : Rule) (p : Pattern),
    group[i]? = some rule ∧ rule.patterns[j]? = some p ∧ p.body = body ∧
      ∀ (i' j' : Nat) (rule' : Rule) (p' : Pattern), group[i']? = some rule' →
        rule'.patterns[j']? = some p' → i' < i ∨ i' = i ∧ j' < j → p'.search? text = none

/-- Whether alternative `j` of rule `i` has a given body, and no pattern before it matches. -/
def comesTo (group : RuleGroup) (text : Array Char) (body : String) (i j : Nat) : Bool :=
  (group.take i).all (fun r => r.patterns.all fun p => (p.search? text).isNone) &&
    group[i]?.any fun r => (r.patterns.take j).all (fun p => (p.search? text).isNone) &&
      r.patterns[j]?.any fun p => decide (p.body = body)

lemma comesTo_of_test {i j : Nat} (h : group.comesTo text body i j = true) :
    group.ComesTo text body := by
  simp only [comesTo, Bool.and_eq_true, Option.any_eq_true, List.all_eq_true, Option.isNone_iff_eq_none,
    decide_eq_true_eq] at h
  obtain ⟨hearlier, rule, hrule, hbefore, p, hp, hbody⟩ := h
  refine ⟨i, j, rule, p, hrule, hp, hbody, ?_⟩
  rintro i' j' rule' p' hrule' hp' (hi | ⟨rfl, hj⟩)
  · have hmem : rule' ∈ group.take i := by
      rw [← List.getElem?_take_of_lt hi] at hrule'
      exact List.mem_of_getElem? hrule'
    exact hearlier rule' hmem p' (List.mem_of_getElem? hp')
  · obtain rfl : rule' = rule := Option.some_inj.mp (hrule'.symm.trans hrule)
    rw [← List.getElem?_take_of_lt hj] at hp'
    exact hbefore p' (List.mem_of_getElem? hp')

end RuleGroup

namespace RuleSet

/-! ### Mac OS -/

/-- The body of the pattern for Mac OS X, which is the first one of its rule. -/
def macOsXPattern : String := "(mac\\sos\\sx)\\s?([\\w\\s\\.]*)"

/-- The body of the pattern for a Macintosh, which is the second one of the rule. Its other alternative
looks ahead to an underscore and then reads white space. -/
def macintoshPattern : String := "(macintosh|mac(?=_powerpc)\\s)(?!.+haiku)"

/-- The tests for the name of Mac OS X. -/
def macOsXName : List Symbol :=
  Symbol.word "mac" ++ .blank :: Symbol.word "os" ++ .blank :: Symbol.word "x"

/-- The tree of `macOsXPattern`. -/
def macOsXNode : Node :=
  .cat (.group 1 (.ofSymbols macOsXName)) (.cat (.repeated 0 (some 1) .greedy Symbol.blank.node)
    (.group 2 (.repeated 0 none .greedy (.set ⟨false, [.ofClass ⟨.word, false, false⟩,
      .ofClass ⟨.blank, false, false⟩, .code '.'.toNat]⟩ .exact))))

/-- Haiku named on the same line, after some character. -/
def haikuNode : Node :=
  .cat (.repeated 1 none .greedy (.any false)) (.ofSymbols (Symbol.word "haiku"))

/-- The name that a Mac with the processor Power PC has in other user agents. -/
def powerPcNode : Node :=
  .ofSequence ((Symbol.word "mac").map Symbol.node ++
    [.look none true (.ofSymbols (Symbol.word "_powerpc")), Symbol.blank.node])

/-- The tree of `macintoshPattern`. -/
def macintoshNode : Node :=
  .cat (.group 1 (.alt (.ofSymbols (Symbol.word "macintosh")) powerPcNode)) (.look none false haikuNode)

/-- Whether a rule has the patterns for Mac OS and gives its name. -/
def BuiltIn.isMacOs (rule : Rule) : Bool :=
  decide (rule.patterns.map (fun p => (p.body, p.node)) =
      [(macOsXPattern, macOsXNode), (macintoshPattern, macintoshNode)]) &&
    decide (rule.source? "name" = some (.literal "name" "Mac OS", 0))

/-! ### AIX -/

/-- The body of the pattern for AIX. Its second group is inside of a repetition. -/
def aixPattern : String := "(aix)\\s((\\d)(?=\\.|\\)|\\s)[\\w\\.])*"

/-- What a digit of a version has to be followed by. -/
def stop : Symbol :=
  .set ⟨false, [.code '.'.toNat, .code ')'.toNat, .ofClass ⟨.blank, false, false⟩]⟩ .exact

/-- What is read after a digit of a version. -/
def mark : Symbol :=
  .set ⟨false, [.ofClass ⟨.word, false, false⟩, .code '.'.toNat]⟩ .exact

/-- What one iteration of the repetition for the version reads. -/
def releaseBody : Node :=
  .cat (.group 3 (Symbol.ofKind .digit).node) (.cat (.look none true stop.node) mark.node)

/-- One iteration of the repetition for the version. -/
def releaseNode : Node :=
  .group 2 releaseBody

/-- The tree of `aixPattern`. -/
def aixNode : Node :=
  .cat (.group 1 (.ofSymbols (Symbol.word "aix")))
    (.cat Symbol.blank.node (.repeated 0 none .greedy releaseNode))

/-- Whether a rule takes name and version from the first two groups of the pattern for AIX. -/
def BuiltIn.takesAix (rule : Rule) (p : Pattern) : Bool :=
  decide (p.node = aixNode) && decide (p.groupCount = 3) &&
    decide (rule.source? "name" = some (.copy "name", 0)) &&
    decide (rule.source? "version" = some (.copy "version", 1))

/-! ### The compiled rules -/

/-- Refinement leaves the fields of a system as they are. -/
lemma get?_record_os (r : RuleSet) (u : String) {field : String}
    (hfield : field ∈ Category.os.fields) : Assoc.get? field (r.record u .os).value =
      some ((r.rawRecord u .os).value.value field) := by
  have hfields := (r.hasFields_rawRecord u .os).insert "version"
    ((r.rawRecord u .os).value.value "version")
  have hrefined : (r.rawRecord u .os).value.refineOs.HasFields Category.os.fields := hfields
  rw [record_os, hrefined.get?_eq hfield, Record.value_refineOs]

/-- A user agent that names the processor and not the system. -/
def powerPcAgent : String := "Mac_PowerPC"

/-- A user agent that names both. -/
def macintoshAgent : String := "Mac_PowerPC; Macintosh"

/-- A user agent of AIX. -/
def aixAgent (before release : String) : String := before ++ "AIX " ++ release ++ ")"

/-- What the rules for systems are, and what they make of some user agents. -/
structure BuiltIn.SystemsSeen (r : RuleSet) : Prop where
  macOs : ∀ rule ∈ r.group .os, isMacOs rule ||
    rule.patterns.all fun p => rule.avoids "Mac OS" "name" p && p.body != macOsXPattern
  aix : ∀ rule ∈ r.group .os, rule.patterns.all fun p => p.body != aixPattern || takesAix rule p
  comesTo_powerPc : (r.group .os).ComesTo powerPcAgent.toList.toArray macOsXPattern
  comesTo_macintosh : (r.group .os).ComesTo macintoshAgent.toList.toArray macOsXPattern
  comesTo_aix : (r.group .os).ComesTo (aixAgent "" "7.1").toList.toArray aixPattern
  comesTo_aix_inParentheses :
    (r.group .os).ComesTo (aixAgent "Server (" "7.1.2").toList.toArray aixPattern
  name_powerPc : (r.rawRecord powerPcAgent .os).value.value "name" = ""
  version_aix : (r.rawRecord (aixAgent "" "7.1") .os).value.value "version" = "7."

/-- The rules are compiled once for all of it. -/
lemma BuiltIn.systems_seen : SystemsSeen builtIn := by
  have hseen := test_group .os (fun group =>
    (group.all (fun rule => isMacOs rule ||
        rule.patterns.all fun p => rule.avoids "Mac OS" "name" p && p.body != macOsXPattern) &&
      group.all fun rule => rule.patterns.all fun p => p.body != aixPattern || takesAix rule p) &&
    (group.comesTo powerPcAgent.toList.toArray macOsXPattern 4 0 &&
    (group.comesTo macintoshAgent.toList.toArray macOsXPattern 4 0 &&
    (group.comesTo (aixAgent "" "7.1").toList.toArray aixPattern 15 1 &&
    (group.comesTo (aixAgent "Server (" "7.1.2").toList.toArray aixPattern 15 1 &&
    (decide ((group.classify Category.os.fields powerPcAgent).value.value "name" = "") &&
    decide ((group.classify Category.os.fields (aixAgent "" "7.1")).value.value "version" = "7.")))))))
    (by decide +kernel)
  simp only [Bool.and_eq_true, decide_eq_true_eq] at hseen
  obtain ⟨⟨hmac, haix⟩, hpowerPc, hmacintosh, hrelease, hlonger, hname, hversion⟩ := hseen
  exact ⟨List.all_eq_true.mp hmac, List.all_eq_true.mp haix, RuleGroup.comesTo_of_test hpowerPc,
    RuleGroup.comesTo_of_test hmacintosh, RuleGroup.comesTo_of_test hrelease,
    RuleGroup.comesTo_of_test hlonger, hname, hversion⟩

end RuleSet

end UserAgent
