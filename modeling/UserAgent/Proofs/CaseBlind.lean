import UserAgent.Proofs.BuiltInRules
import UserAgent.Proofs.FirstMatch
import UserAgent.Proofs.LetterCase
import UserAgent.Proofs.Loading

/-!
# Patterns that ignore case

A pattern whose tree compares no letter exactly finds the same match in texts with the same letters
(`Regex.Node.run_eq`). Rules with such patterns give them records that agree up to case
(`RuleSet.same_record`), and the built-in rules are such rules (`RuleSet.record_builtIn_of_lower_eq`).
-/

namespace UserAgent

open Unicode Text

/-! ### Tests of characters -/

namespace Regex

lemma caseBlind_comp {β γ : Type} {f : Nat → β} (hf : CaseBlind f) (g : β → γ) :
    CaseBlind fun n => g (f n) :=
  fun n hn => congrArg g (hf n hn)

/-- Folding is blind to the case of ASCII letters. -/
lemma caseBlind_lower {f : Folding} (hf : f ≠ .exact) : CaseBlind f.lower := by
  intro n hn
  cases f with
  | exact => exact absurd rfl hf
  | ascii => exact asciiLower_asciiLower n
  | full =>
    rw [Folding.lower, Folding.lower, lowerCode_of_lt (asciiLower_lt hn), lowerCode_of_lt hn,
      asciiLower_asciiLower]

/-- So is the comparison with a character, unless it is an exact one with a letter. -/
lemma caseBlind_matchesCode {f : Folding} {code : Nat}
    (h : f ≠ .exact ∨ isAsciiLetter code = false) : CaseBlind (matchesCode f code) := by
  by_cases hf : f = .exact
  · subst hf
    have hexact : matchesCode .exact code = fun n => n == code := by
      funext n
      simp only [matchesCode, Folding.variants, Folding.lower, List.contains_cons,
        List.contains_nil, Bool.or_false]
    rw [hexact]
    exact caseBlind_beq (h.resolve_left fun hne => hne rfl)
  · exact caseBlind_comp (caseBlind_lower hf) fun n => (f.variants (f.lower code)).contains n

/-- So are the classes of characters. -/
lemma caseBlind_class (c : CharClass) : CaseBlind c.contains := by
  obtain ⟨kind, negated, ascii⟩ := c
  cases kind with
  | digit =>
    cases ascii with
    | true => exact caseBlind_comp caseBlind_isAsciiDigit (· != negated)
    | false => exact caseBlind_comp caseBlind_isDigit (· != negated)
  | blank =>
    cases ascii with
    | true => exact caseBlind_comp caseBlind_isAsciiBlank (· != negated)
    | false => exact caseBlind_comp caseBlind_isBlank (· != negated)
  | word =>
    cases ascii with
    | true => exact caseBlind_comp caseBlind_isAsciiWord (· != negated)
    | false => exact caseBlind_comp caseBlind_isWord (· != negated)

/-- An item that has no letters is compared exactly without looking at case. -/
lemma caseBlind_item {item : SetItem} (h : item.isCased .ascii = false) :
    CaseBlind fun n => item.contains .exact n := by
  cases item with
  | code member =>
    have hmember : isAsciiLetter member = false := by
      simp only [SetItem.isCased, Folding.cases] at h
      simp_all
    exact caseBlind_beq hmember
  | range low high =>
    intro n hn
    have hrange : ¬(low ≤ 0x5a ∧ 0x41 ≤ high) ∧ ¬(low ≤ 0x7a ∧ 0x61 ≤ high) := by
      simp [SetItem.isCased, Folding.casesRange] at h
      omega
    simp only [SetItem.contains, beq_self_eq_true, if_true, asciiLower, Bool.and_eq_true,
      decide_eq_true_eq]
    split
    · rw [Bool.eq_iff_iff]
      simp only [Bool.and_eq_true, decide_eq_true_eq]
      omega
    · rfl
  | ofClass c => exact caseBlind_class c

/-- So is a set of characters that ignores case, or names no letters. -/
lemma caseBlind_set {f : Folding} {s : CharSet}
    (h : f ≠ .exact ∨ ∀ item ∈ s.items, item.isCased .ascii = false) : CaseBlind (s.contains f) := by
  by_cases hf : f = .exact
  · subst hf
    have hitems := h.resolve_left fun hne => hne rfl
    intro n hn
    have hall : ∀ items : List SetItem, (∀ item ∈ items, item.isCased .ascii = false) →
        items.any (·.contains .exact (asciiLower n)) = items.any (·.contains .exact n) := by
      intro items hitems
      induction items with
      | nil => rfl
      | cons item items ih =>
        obtain ⟨hitem, hitems⟩ := List.forall_mem_cons.mp hitems
        have hhead : item.contains .exact (asciiLower n) = item.contains .exact n :=
          caseBlind_item hitem n hn
        rw [List.any_cons, List.any_cons, ih hitems, hhead]
    exact congrArg (· != s.negated) (hall s.items hitems)
  · exact caseBlind_comp (caseBlind_lower hf) fun n => s.items.any (·.contains f n) != s.negated

/-! ### Nodes -/

/-- Whether no letter is compared exactly. -/
def Node.ignoresCase : Node → Bool
  | .empty | .any _ | .anchor _ => true
  | .char code _ folding => folding != .exact || !isAsciiLetter code
  | .set s folding => folding != .exact || s.items.all fun item => !item.isCased .ascii
  | .cat first second | .alt first second => first.ignoresCase && second.ignoresCase
  | .given _ present absent => present.ignoresCase && absent.ignoresCase
  | .group _ body | .look _ _ body | .repeated _ _ _ body | .atomic body => body.ignoresCase
  | .backref _ folding => folding != .exact

/-- Arrays of characters that agree up to the case of ASCII letters. -/
def SameArray (u v : Array Char) : Prop :=
  List.Forall₂ SameLetter u.toList v.toList

section SameArray

variable {u v : Array Char} (h : SameArray u v)

include h

lemma SameArray.size_eq : u.size = v.size :=
  h.length_eq

/-- At each place both arrays have characters that agree, or none. -/
lemma SameArray.cases_at (i : Nat) : (u[i]? = none ∧ v[i]? = none) ∨
    ∃ c d, u[i]? = some c ∧ v[i]? = some d ∧ SameLetter c d := by
  simpa using rel_cases (forall₂_getElem? h i)

/-- A step that reads one character goes the same way in both texts. -/
lemma step_eq {test : Nat → Bool} (htest : CaseBlind test) (rest : Rest) (s : State) :
    s.step u test rest = s.step v test rest := by
  rcases h.cases_at s.pos with ⟨hu, hv⟩ | ⟨c, d, hu, hv, hcd⟩
  · simp only [State.step, hu, hv]
  · simp only [State.step, hu, hv, hcd.congr htest]

lemma isWordAt_eq (ascii : Bool) (pos : Nat) : isWordAt ascii u pos = isWordAt ascii v pos := by
  rcases h.cases_at pos with ⟨hu, hv⟩ | ⟨c, d, hu, hv, hcd⟩
  · simp only [isWordAt, hu, hv]
  · simp only [isWordAt, hu, hv, hcd.congr caseBlind_isAsciiWord, hcd.congr caseBlind_isWord]

lemma lineBreak_eq (pos : Nat) : (u[pos]? == some '\n') = (v[pos]? == some '\n') := by
  rcases h.cases_at pos with ⟨hu, hv⟩ | ⟨c, d, hu, hv, hcd⟩
  · rw [hu, hv]
  · rw [hu, hv]
    exact hcd.beq_eq (by decide)

/-- An anchor holds at the same places of both texts. -/
lemma holds_eq (a : Anchor) (pos : Nat) : a.holds u pos = a.holds v pos := by
  have hboundary : ∀ ascii, isBoundary ascii u pos = isBoundary ascii v pos := by
    intro ascii
    rw [isBoundary, isBoundary, isWordAt_eq h, isWordAt_eq h]
  have hempty : u.isEmpty = v.isEmpty := by
    rw [Array.isEmpty, Array.isEmpty, h.size_eq]
  cases a <;> simp only [Anchor.holds, h.size_eq, lineBreak_eq h, hboundary, hempty]

/-- A reference to a group finds its text at the same places. -/
lemma sameText_eq {f : Folding} (hf : f ≠ .exact) (length start pos : Nat) :
    sameText f u length start pos = sameText f v length start pos := by
  induction length generalizing start pos with
  | zero => rfl
  | succ length ih =>
    rw [sameText, sameText, ih]
    rcases h.cases_at start with ⟨hu, hv⟩ | ⟨c, d, hu, hv, hcd⟩
    · simp only [hu, hv]
    rcases h.cases_at pos with ⟨hu', hv'⟩ | ⟨c', d', hu', hv', hcd'⟩
    · simp only [hu, hv, hu', hv']
    · simp only [hu, hv, hu', hv', hcd.congr (caseBlind_lower hf), hcd'.congr (caseBlind_lower hf)]

lemma repeatBody_eq (min : Nat) (max : Option Nat) (greed : Greed) (body : Rest → Rest)
    (rest : Rest) : repeatBody u min max greed body rest = repeatBody v min max greed body rest := by
  have hbudget : budget u min max = budget v min max := by
    funext pos
    simp only [budget, h.size_eq]
  cases greed <;> simp only [repeatBody, hbudget]

/-- A pattern that ignores case runs alike on texts that agree up to case. -/
theorem Node.run_eq {node : Node} (hnode : node.ignoresCase) : node.run u = node.run v := by
  induction node with
  | empty => rfl
  | char code negated folding =>
    funext rest s
    have htest : CaseBlind (matchesCode folding code) := by
      refine caseBlind_matchesCode ?_
      simpa [ignoresCase] using hnode
    exact step_eq h (caseBlind_comp htest (· != negated)) rest s
  | any lineBreaks =>
    funext rest s
    have htest : CaseBlind (· == 0x0a) := caseBlind_beq (by decide)
    exact step_eq h (caseBlind_comp htest (lineBreaks || !·)) rest s
  | set members folding =>
    funext rest s
    refine step_eq h (caseBlind_set ?_) rest s
    simpa [ignoresCase] using hnode
  | anchor a =>
    funext rest s
    rw [run, run, holds_eq h]
  | cat first second ihFirst ihSecond =>
    obtain ⟨hfirst, hsecond⟩ := Bool.and_eq_true_iff.mp hnode
    funext rest s
    rw [run, run, ihFirst hfirst, ihSecond hsecond]
  | alt first second ihFirst ihSecond =>
    obtain ⟨hfirst, hsecond⟩ := Bool.and_eq_true_iff.mp hnode
    funext rest s
    rw [run, run, ihFirst hfirst, ihSecond hsecond]
  | group index body ih =>
    funext rest s
    rw [run, run, ih hnode]
  | backref index folding =>
    funext rest s
    have hfolding : folding ≠ .exact := by simpa [ignoresCase] using hnode
    -- A reference compares two parts of the same text, which is why it has to fold them.
    simp only [run, sameText_eq h hfolding]
  | given index present absent ihPresent ihAbsent =>
    obtain ⟨hpresent, habsent⟩ := Bool.and_eq_true_iff.mp hnode
    funext rest s
    rw [run, run, ihPresent hpresent, ihAbsent habsent]
  | look behind positive body ih =>
    funext rest s
    simp only [run, ih hnode]
  | repeated min max greed body ih =>
    funext rest s
    rw [run, run, ih hnode, repeatBody_eq h]
  | atomic body ih =>
    funext rest s
    rw [run, run, ih hnode]

end SameArray

end Regex

/-! ### Matches -/

open Regex

/-- Matches at one place of texts that agree up to case. -/
structure Match.Same (m m' : Match) : Prop where
  text : SameArray m.text m'.text
  span : m.span = m'.span
  captures : m.captures = m'.captures

/-- The same places hold the same letters. -/
lemma sameLetters_slice {u v : Array Char} (h : SameArray u v) (span : Span) :
    SameLetters (Match.slice u span) (Match.slice v span) := by
  refine .ofList ?_
  rw [Array.toList_extract, Array.toList_extract, List.extract_eq_take_drop,
    List.extract_eq_take_drop]
  exact List.forall₂_take _ (List.forall₂_drop _ h)

namespace Match.Same

variable {m m' : Match} (h : m.Same m')

include h

/-- Matches at the same places capture the same letters. -/
lemma groups : List.Forall₂ (Option.Rel SameLetters) m.groups m'.groups := by
  rw [Match.groups, Match.groups, h.captures, List.forall₂_map_left_iff, List.forall₂_map_right_iff,
    List.forall₂_same]
  intro span _
  cases span with
  | none => exact .none
  | some span => exact .some (sameLetters_slice h.text span)

lemma group? (index : Nat) : SameLetters ((m.group? index).getD "") ((m'.group? index).getD "") := by
  cases index with
  | zero =>
    show SameLetters m.matched m'.matched
    rw [matched, matched, h.span]
    exact sameLetters_slice h.text _
  | succ index =>
    show SameLetters ((m.groups[index]?).join.getD "") ((m'.groups[index]?).join.getD "")
    rcases rel_cases (forall₂_getElem? h.groups index) with ⟨hm, hm'⟩ | ⟨g, g', hm, hm', hg⟩
    · rw [hm, hm']
      exact .refl _
    · rw [hm, hm']
      cases hg with
      | none => exact .refl _
      | some hst => exact hst

/-- A template is expanded to the same letters at both matches. -/
lemma expand (template : Template) : SameLetters (template.expand m) (template.expand m') := by
  have hpiece : ∀ piece : TemplatePiece, SameLetters (piece.expand m) (piece.expand m') := by
    intro piece
    cases piece with
    | char c => exact .refl _
    | group index => exact h.group? index
  have hjoin : ∀ (pieces : List TemplatePiece) (s t : String), SameLetters s t →
      SameLetters ((pieces.map (·.expand m)).foldl (· ++ ·) s)
        ((pieces.map (·.expand m')).foldl (· ++ ·) t) := by
    intro pieces
    induction pieces with
    | nil => exact fun s t hst => hst
    | cons piece pieces ih => exact fun s t hst => ih _ _ (hst.append (hpiece piece))
  exact hjoin template "" "" (.refl _)

end Match.Same

namespace Pattern

variable {p : Pattern} (hp : p.node.ignoresCase) {u v : Array Char} (h : SameArray u v)

include hp h

lemma same_matchAt? (rest : Rest) (pos : Nat) :
    Option.Rel Match.Same (p.matchAt? u rest pos) (p.matchAt? v rest pos) := by
  rw [matchAt?, matchAt?, Node.run_eq h hp]
  cases p.node.run v rest ⟨pos, List.replicate p.groupCount none⟩ with
  | none => exact .none
  | some s => exact .some ⟨h, rfl, rfl⟩

/-- The scan stops at the same place of both texts. -/
lemma same_scan? (tries pos : Nat) :
    Option.Rel Match.Same (p.scan? u tries pos) (p.scan? v tries pos) := by
  induction tries generalizing pos with
  | zero => exact .none
  | succ tries ih =>
    rw [scan?, scan?]
    rcases rel_cases (same_matchAt? hp h some pos) with ⟨hu, hv⟩ | ⟨m, m', hu, hv, hm⟩
    · simpa only [hu, hv] using ih (pos + 1)
    · simpa only [hu, hv] using Option.Rel.some hm

/-- The search finds the same places in both texts. -/
lemma same_search? : Option.Rel Match.Same (p.search? u) (p.search? v) := by
  rw [search?, search?, h.size_eq]
  exact same_scan? hp h _ 0

lemma same_searchFrom? (advance : Bool) (start : Nat) :
    Option.Rel Match.Same (p.searchFrom? u advance start) (p.searchFrom? v advance start) := by
  rw [searchFrom?, searchFrom?, h.size_eq]
  cases advance with
  | false => exact same_scan? hp h _ start
  | true =>
    rcases rel_cases (same_matchAt? hp h (fun s => if s.pos == start then none else some s) start)
      with ⟨hu, hv⟩ | ⟨m, m', hu, hv, hm⟩
    · simpa only [hu, hv, if_true] using same_scan? hp h _ (start + 1)
    · simpa only [hu, hv, if_true] using Option.Rel.some hm

/-- Replacement gives the same letters, match after match. -/
lemma sameLetters_replaceFrom (template : Template) (tries : Nat) (advance : Bool) (start : Nat) :
    SameLetters (p.replaceFrom template.expand u tries advance start)
      (p.replaceFrom template.expand v tries advance start) := by
  induction tries generalizing advance start with
  | zero =>
    rw [replaceFrom, replaceFrom, h.size_eq]
    exact sameLetters_slice h _
  | succ tries ih =>
    rw [replaceFrom, replaceFrom]
    rcases rel_cases (same_searchFrom? hp h advance start) with ⟨hu, hv⟩ | ⟨m, m', hu, hv, hm⟩
    · simp only [hu, hv, h.size_eq]
      exact sameLetters_slice h _
    · simp only [hu, hv, hm.span]
      exact ((sameLetters_slice h _).append (hm.expand template)).append (ih _ _)

end Pattern

/-- A replacement that ignores case makes the same letters of the same letters. -/
lemma Substitution.sameLetters_apply {s : Substitution} (hs : s.search.node.ignoresCase)
    {t t' : String} (h : SameLetters t t') : SameLetters (s.apply t) (s.apply t') := by
  have harray : SameArray t.toList.toArray t'.toList.toArray := h
  rw [apply, apply, Pattern.replaceAll, Pattern.replaceAll, harray.size_eq]
  exact Pattern.sameLetters_replaceFrom hs harray s.template _ false 0

/-! ### Values of fields -/

/-- What a transform makes of texts that agree up to case does so too. -/
def Transform.KeepsLetters (t : Transform) : Prop :=
  ∀ s s', SameLetters s s' → SameLetters (t.function s) (t.function s')

/-- The built-in transforms make the same letters of the same letters. -/
lemma Transforms.keepsLetters_builtIn {token : String} {t : Transform}
    (h : builtIn.find? token = some t) : t.KeepsLetters := by
  refine forall_find?_builtIn (fun s s' hs => ?_) (fun s s' hs => hs.trim) h
  show SameLetters (lower s) (lower s')
  rw [hs.lower_eq]
  exact .refl _

/-- Whether the pattern of a replacement ignores case. -/
def FieldSpec.ignoresCase : FieldSpec → Bool
  | substitute _ s | substituteTransform _ s _ => s.search.node.ignoresCase
  | copy _ | literal _ _ | transform _ _ | mapped _ _ => true

namespace FieldSpec

lemma sameLetters_onCapture {f : String → String} {x y : Option String}
    (hf : ∀ s t, SameLetters s t → SameLetters (f s) (f t)) (h : Option.Rel SameLetters x y) :
    SameLetters (onCapture f x) (onCapture f y) := by
  cases h with
  | none => exact .refl _
  | @some s t hst =>
    rw [onCapture, onCapture, hst.isEmpty_eq]
    cases t.isEmpty with
    | true => exact .refl _
    | false => exact hf s t hst

/-- What a specification makes of captures that agree up to case. -/
lemma sameLetters_resolve {spec : FieldSpec} (hspec : spec.ignoresCase)
    (htransform : ∀ t, spec.transform? = some t → t.KeepsLetters) {x y : Option String}
    (h : Option.Rel SameLetters x y) : SameLetters (spec.resolve x) (spec.resolve y) := by
  cases spec with
  | copy name => exact sameLetters_onCapture (fun _ _ hst => hst) h
  | literal name value => exact .refl _
  | transform name f =>
    cases h with
    | none => exact .refl _
    | some hst => simpa [resolve, Transform.apply] using htransform f rfl _ _ hst
  | substitute name s =>
    exact sameLetters_onCapture (fun _ _ hst => s.sameLetters_apply hspec hst) h
  | mapped name table => exact sameLetters_onCapture (fun _ _ hst => table.sameLetters_lookup hst) h
  | substituteTransform name s f =>
    refine sameLetters_onCapture (fun _ _ hst => ?_) h
    exact htransform f rfl _ _ (s.sameLetters_apply hspec hst)

end FieldSpec

/-! ### Records -/

/-- Records with the same fields whose values agree up to case. -/
def Record.Same (r r' : Record) : Prop :=
  List.Forall₂ (fun a b => a.1 = b.1 ∧ SameLetters a.2 b.2) r r'

namespace Record.Same

variable {r r' : Record} (h : r.Same r')

lemma refl (r : Record) : r.Same r :=
  List.forall₂_same.mpr fun _ _ => ⟨rfl, .refl _⟩

include h

/-- The same records have the same letters in each field. -/
lemma get? (field : String) : Option.Rel SameLetters (Assoc.get? field r) (Assoc.get? field r') := by
  induction h with
  | nil => exact .none
  | @cons a b r r' hab _ ih =>
    obtain ⟨k, s⟩ := a
    obtain ⟨k', t⟩ := b
    obtain ⟨rfl, hst⟩ := hab
    rw [Assoc.get?_cons, Assoc.get?_cons]
    split
    · exact .some hst
    · exact ih

/-- The same letters may be put into the same field. -/
lemma insert {s t : String} (field : String) (hst : SameLetters s t) :
    Record.Same (Assoc.insert field s r) (Assoc.insert field t r') := by
  induction h with
  | nil => exact .cons ⟨rfl, hst⟩ .nil
  | @cons a b r r' hab hrest ih =>
    obtain ⟨k, s'⟩ := a
    obtain ⟨k', t'⟩ := b
    obtain ⟨rfl, hst'⟩ := hab
    rw [Assoc.insert, Assoc.insert]
    split
    · exact .cons ⟨rfl, hst⟩ hrest
    · exact .cons ⟨rfl, hst'⟩ ih

lemma value (field : String) : SameLetters (r.value field) (r'.value field) := by
  rcases rel_cases (h.get? field) with ⟨hr, hr'⟩ | ⟨s, t, hr, hr', hst⟩
  · simp only [Record.value, hr, hr']
    exact .refl _
  · simpa only [Record.value, hr, hr', Option.getD_some] using hst

lemma refineOs : Record.Same r.refineOs r'.refineOs :=
  h.insert "version" (h.value "version")

/-- The refinement of browsers keeps records the same. -/
lemma refineBrowser : Record.Same r.refineBrowser r'.refineBrowser := by
  refine Same.insert ?_ "major" (sameLetters_majorVersion (h.value "version"))
  rcases rel_cases (h.get? "name") with ⟨hr, hr'⟩ | ⟨s, t, hr, hr', hst⟩
  · simpa only [hr, hr'] using h
  · simp only [hr, hr', hst.isEmpty_eq]
    split
    · exact h
    · exact h.insert "name" (sameLetters_canonicalBrowserName hst)

end Record.Same

/-! ### Rules -/

/-- Whether all patterns of a rule ignore case. -/
def Rule.ignoresCase (r : Rule) : Bool :=
  r.patterns.all (·.node.ignoresCase) && r.fields.all FieldSpec.ignoresCase

/-- The transforms of a rule keep letters up to case. -/
def Rule.KeepsLetters (r : Rule) : Prop :=
  ∀ spec ∈ r.fields, ∀ t, spec.transform? = some t → t.KeepsLetters

namespace Rule

/-- Specifications that ignore case make the same records of the same captures. -/
lemma same_assign {specs : List FieldSpec} (hspecs : ∀ spec ∈ specs, spec.ignoresCase)
    (htransforms : ∀ spec ∈ specs, ∀ t, spec.transform? = some t → t.KeepsLetters)
    {captures captures' : List (Option String)}
    (hcaptures : List.Forall₂ (Option.Rel SameLetters) captures captures') {record record' : Record}
    (hrecord : record.Same record') :
    Record.Same (assign specs captures record) (assign specs captures' record') := by
  induction specs generalizing captures captures' record record' with
  | nil => exact hrecord
  | cons spec specs ih =>
    obtain ⟨hspec, hspecs⟩ := List.forall_mem_cons.mp hspecs
    obtain ⟨htransform, htransforms⟩ := List.forall_mem_cons.mp htransforms
    have hvalue : ∀ {x y : Option String}, Option.Rel SameLetters x y →
        SameLetters (spec.resolve x) (spec.resolve y) :=
      FieldSpec.sameLetters_resolve hspec htransform
    rw [assign, assign]
    cases hcaptures with
    | nil => exact ih hspecs htransforms .nil (hrecord.insert _ (hvalue .none))
    | cons hcapture hrest => exact ih hspecs htransforms hrest (hrecord.insert _ (hvalue hcapture))

variable {r : Rule} (hr : r.ignoresCase) {u v : Array Char} (h : SameArray u v)

include hr h

lemma same_search? : Option.Rel Match.Same (r.search? u) (r.search? v) := by
  obtain ⟨hpatterns, -⟩ := Bool.and_eq_true_iff.mp hr
  exact rel_findSome? fun p hp => Pattern.same_search? (List.all_eq_true.mp hpatterns p hp) h

/-- A rule that ignores case writes the same records for both texts. -/
lemma same_extract (hletters : r.KeepsLetters) (record : Record) : Option.Rel Record.Same
    ((r.search? u).map (r.extract · record)) ((r.search? v).map (r.extract · record)) := by
  obtain ⟨-, hfields⟩ := Bool.and_eq_true_iff.mp hr
  rcases rel_cases (same_search? hr h) with ⟨hu, hv⟩ | ⟨m, m', hu, hv, hm⟩
  · simpa only [hu, hv, Option.map_none] using Option.Rel.none
  · simp only [hu, hv, Option.map_some]
    exact .some (same_assign (List.all_eq_true.mp hfields) hletters hm.groups (.refl record))

end Rule

/-- A group of rules that ignore case gives records that agree up to case. -/
lemma RuleGroup.same_classify {group : RuleGroup}
    (hgroup : ∀ rule ∈ group, rule.ignoresCase ∧ rule.KeepsLetters)
    (fields : List String) {s t : String} (h : SameLetters s t) :
    Record.Same (group.classify fields s).value (group.classify fields t).value := by
  have harray : SameArray s.toList.toArray t.toList.toArray := h
  have hfound := rel_findSome? fun rule hrule =>
    Rule.same_extract (hgroup rule hrule).1 harray (hgroup rule hrule).2 (.ofFields fields)
  rw [value_classify, value_classify]
  rcases rel_cases hfound with ⟨hs, ht⟩ | ⟨record, record', hs, ht, hrecord⟩
  · rw [hs, ht]
    exact .refl _
  · rw [hs, ht]
    exact hrecord

namespace RuleSet

/-- Under rules whose patterns and transforms ignore case, user agents that differ in the case of ASCII
letters have records with the same fields and with values that agree up to case. -/
theorem same_record {r : RuleSet} {c : Category} (hc : c ≠ .device)
    (hrules : ∀ rule ∈ r.group c, rule.ignoresCase ∧ rule.KeepsLetters) {s t : String}
    (h : SameLetters s t) :
    Record.Same (r.record s c).value (r.record t c).value := by
  have hraw := RuleGroup.same_classify hrules c.fields h
  cases c with
  | browser => exact hraw.refineBrowser
  | engine => exact hraw
  | os => exact hraw.refineOs
  | cpu => exact hraw
  | device => exact absurd rfl hc

/-! ### The built-in rules -/

/-- All built-in rules ignore case, those for devices apart. -/
lemma BuiltIn.ignoresCase_of_mem {c : Category} (hc : c ≠ .device) :
    ∀ rule ∈ builtIn.group c, rule.ignoresCase := by
  refine forall_rules ?_
  cases c with
  | browser => decide +kernel
  | engine => decide +kernel
  | os => decide +kernel
  | cpu => decide +kernel
  | device => exact absurd rfl hc

lemma BuiltIn.keepsLetters_of_mem {c : Category} {rule : Rule} (hrule : rule ∈ builtIn.group c) :
    rule.KeepsLetters := by
  intro spec hspec t ht
  obtain ⟨token, htoken⟩ := exists_find?_of_mem hrule hspec ht
  exact Transforms.keepsLetters_builtIn htoken

/-- Under the built-in rules the case of letters does not matter: ASCII user agents that differ in case
only have the same fields, with values that differ in case at most. -/
theorem record_builtIn_of_lower_eq {u v : String} (hu : ∀ c ∈ u.toList, c.toNat < 0x80)
    (hv : ∀ c ∈ v.toList, c.toNat < 0x80) (h : lower u = lower v) {c : Category}
    (hc : c ≠ .device) :
    List.Forall₂ (fun a b => a.1 = b.1 ∧ lower a.2 = lower b.2) (builtIn.record u c).value
      (builtIn.record v c).value := by
  have hletters : SameLetters u v := .of_lower_eq hu hv h
  have hrules : ∀ rule ∈ builtIn.group c, rule.ignoresCase ∧ rule.KeepsLetters := fun rule hrule =>
    ⟨BuiltIn.ignoresCase_of_mem hc rule hrule, BuiltIn.keepsLetters_of_mem hrule⟩
  refine (same_record hc hrules hletters).imp fun a b hab => ?_
  exact ⟨hab.1, hab.2.lower_eq⟩

theorem record_builtIn_firefox :
    (∀ c ∈ "Firefox/128.0".toList, c.toNat < 0x80) ∧ (∀ c ∈ "FIREFOX/128.0".toList, c.toNat < 0x80) ∧
      lower "Firefox/128.0" = lower "FIREFOX/128.0" ∧ Category.browser ≠ .device ∧
      List.Forall₂ (fun a b => a.1 = b.1 ∧ lower a.2 = lower b.2)
        (builtIn.record "Firefox/128.0" .browser).value
        (builtIn.record "FIREFOX/128.0" .browser).value := by
  have hu : ∀ c ∈ "Firefox/128.0".toList, c.toNat < 0x80 := by simp
  have hv : ∀ c ∈ "FIREFOX/128.0".toList, c.toNat < 0x80 := by simp
  have h : lower "Firefox/128.0" = lower "FIREFOX/128.0" := by
    rw [← String.toList_inj, toList_lower_of_ascii hu, toList_lower_of_ascii hv]
    simp [asciiLower]
  have hc : Category.browser ≠ .device := by decide
  exact ⟨hu, hv, h, hc, record_builtIn_of_lower_eq hu hv h hc⟩

end RuleSet

end UserAgent
