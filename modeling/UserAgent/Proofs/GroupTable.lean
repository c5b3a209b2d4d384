import UserAgent.Proofs.PatternText
import Mathlib.Data.List.Nodup

/-!
# The groups of a pattern

While a pattern is read, its groups are counted and their names are noted. What every way of changing
these notes preserves is preserved by the reading of every part of a pattern. In particular the names
of a pattern are identifiers, no two groups share one, and they are listed in the order of the groups.
-/

namespace UserAgent

namespace Regex

open Compiled

/-! ### What reading preserves -/

/-- A property of groups that no step of the reader breaks. -/
structure Groups.Stable (P : Groups → Prop) : Prop where
  opened : ∀ {g g' : Groups} {name : Option String}, P g →
    (∀ s, name = some s → Unicode.isIdentifier s.toList = true) → g.opened name = .ok g' → P g'
  closed : ∀ {g : Groups} (index : Nat) (body : Node), P g → P (g.closed index body)
  look : ∀ {g : Groups} (unfixed : Bool), P g → P { g with unfixed }
  condition : ∀ {g : Groups} (asked : Nat), P g → P { g with asked }

/-- Whatever is read with some fuel, a property of groups still holds after it. -/
structure Preserved [CharacterNames] (P : Groups → Prop) (fuel : Nat) : Prop where
  alternatives : ∀ {ctx g done ts pieces g' rest}, P g →
    parseAlternatives fuel ctx g done ts = .ok (pieces, g', rest) → P g'
  sequence : ∀ {ctx g done ts pieces g' rest}, P g →
    parseSequence fuel ctx g done ts = .ok (pieces, g', rest) → P g'
  group : ∀ {ctx g ts items g' rest}, P g →
    parseGroup fuel ctx g ts = .ok (items, g', rest) → P g'
  capture : ∀ {ctx g name ts items g' rest}, P g →
    (∀ s, name = some s → Unicode.isIdentifier s.toList = true) →
    parseCapture fuel ctx g name ts = .ok (items, g', rest) → P g'
  look : ∀ {ctx g behind positive ts items g' rest}, P g →
    parseLook fuel ctx g behind positive ts = .ok (items, g', rest) → P g'
  branches : ∀ {ctx g index ts items g' rest}, P g →
    parseBranches fuel ctx g index ts = .ok (items, g', rest) → P g'
  body : ∀ {ctx g ts pieces g' rest}, P g →
    parseBody fuel ctx g ts = .ok (pieces, g', rest) → P g'

section Steps

variable [CharacterNames] {P : Groups → Prop} (hP : Groups.Stable P) {fuel : Nat} (ih : Preserved P fuel)

include ih in
/-- Alternatives keep what their parts keep. -/
lemma preserved_alternatives {ctx g done ts pieces g' rest} (hg : P g)
    (h : parseAlternatives (fuel + 1) ctx g done ts = .ok (pieces, g', rest)) : P g' := by
  rw [parseAlternatives] at h
  split at h
  · cases h
  · rename_i hseq
    exact ih.alternatives (ih.sequence hg hseq) h
  · rename_i hseq
    cases h
    exact ih.sequence hg hseq

include ih in
lemma preserved_body {ctx g ts pieces g' rest} (hg : P g)
    (h : parseBody (fuel + 1) ctx g ts = .ok (pieces, g', rest)) : P g' := by
  rw [parseBody] at h
  split at h
  · cases h
  · rename_i hparse
    obtain ⟨rest', _, h⟩ := bind_eq_ok.mp h
    cases h
    exact ih.alternatives hg hparse

include hP ih in
/-- A group that captures enters a number, and a name if it has one that may be a name. -/
lemma preserved_capture {ctx g name ts items g' rest} (hg : P g)
    (hname : ∀ s, name = some s → Unicode.isIdentifier s.toList = true)
    (h : parseCapture (fuel + 1) ctx g name ts = .ok (items, g', rest)) : P g' := by
  rw [parseCapture] at h
  split at h
  · cases h
  · rename_i hopened
    dsimp only at h
    split at h
    · cases h
    · rename_i hbody
      cases h
      exact hP.closed _ _ (ih.body (hP.opened hg hname hopened) hbody)

include hP ih in
lemma preserved_look {ctx g behind positive ts items g' rest} (hg : P g)
    (h : parseLook (fuel + 1) ctx g behind positive ts = .ok (items, g', rest)) : P g' := by
  rw [parseLook] at h
  dsimp only at h
  split at h
  · cases h
  · rename_i hbody
    have hg := ih.body hg hbody
    cases behind
    · cases h
      exact hg
    · cases h
      exact hP.look _ hg

include ih in
/-- The two branches after a condition keep it too. -/
lemma preserved_branches {ctx g index ts items g' rest} (hg : P g)
    (h : parseBranches (fuel + 1) ctx g index ts = .ok (items, g', rest)) : P g' := by
  rw [parseBranches] at h
  split at h
  · cases h
  · rename_i hpresent
    have hg := ih.sequence hg hpresent
    split at h
    · cases h
    · rename_i habsent
      obtain ⟨rest', _, h⟩ := bind_eq_ok.mp h
      cases h
      exact ih.sequence hg habsent
  · rename_i hpresent
    obtain ⟨rest', _, h⟩ := bind_eq_ok.mp h
    cases h
    exact ih.sequence hg hpresent

omit [CharacterNames] in
/-- What is read as the name of a group may be a name. -/
lemma isIdentifier_of_readName {terminator : Char} {ts rest : List Token} {name : String}
    (h : readName terminator ts = .ok (name, rest)) : Unicode.isIdentifier name.toList = true := by
  rw [readName] at h
  split at h
  · split_ifs at h with hname
    cases h
    rwa [String.toList_ofList]
  · cases h

include hP in
omit [CharacterNames] in
/-- A question for a group that is not there yet enters nothing but the question. -/
lemma preserved_ask {g name index g'} (hg : P g) (h : Groups.ask g name = .ok (index, g')) :
    P g' := by
  rw [Groups.ask] at h
  split_ifs at h
  · split at h
    · cases h
      exact hg
    · cases h
  · split at h
    · cases h
      exact hP.condition _ hg
    · cases h

include hP in
omit [CharacterNames] in
lemma preserved_condition {ctx g ts index g' rest} (hg : P g)
    (h : readCondition ctx g ts = .ok (index, g', rest)) : P g' := by
  rw [readCondition] at h
  split at h
  · cases h
  · obtain ⟨⟨index', g₁⟩, hasked, h⟩ := bind_eq_ok.mp h
    have hg₁ : P g₁ := preserved_ask hP hg hasked
    dsimp only at h
    split_ifs at h
    · obtain ⟨_, _, h⟩ := bind_eq_ok.mp h
      cases h
      exact hg₁
    · cases h
      exact hg₁

include hP ih in
/-- What follows an opening parenthesis keeps what its parts keep, whatever kind of group it is. -/
lemma preserved_group {ctx g ts items g' rest} (hg : P g)
    (h : parseGroup (fuel + 1) ctx g ts = .ok (items, g', rest)) : P g' := by
  unfold parseGroup at h
  split at h
  · -- a named group
    split at h
    · cases h
    · rename_i name _ hname
      refine ih.capture hg ?_ h
      rintro s ⟨⟩
      exact isIdentifier_of_readName hname
  · -- a reference by name
    obtain ⟨⟨name, rest'⟩, _, h⟩ := bind_eq_ok.mp h
    dsimp only at h
    split at h
    · cases h
    · obtain ⟨_, _, h⟩ := bind_eq_ok.mp h
      cases h
      exact hg
  · -- a group that does not capture
    split at h
    · cases h
    · rename_i hbody
      cases h
      exact ih.body hg hbody
  · -- a comment
    obtain ⟨rest', _, h⟩ := bind_eq_ok.mp h
    cases h
    exact hg
  · -- looking ahead and behind, for a match or for none
    exact ih.look hg h
  · exact ih.look hg h
  · exact ih.look hg h
  · exact ih.look hg h
  · -- a group that is not taken back
    split at h
    · cases h
    · rename_i hbody
      cases h
      exact ih.body hg hbody
  · -- a condition
    split at h
    · cases h
    · rename_i hcondition
      exact ih.branches (preserved_condition hP hg hcondition) h
  · -- flags for a part of the pattern
    split_ifs at h
    split at h
    · cases h
    · cases h
    · dsimp only at h
      split at h
      · cases h
      · rename_i hbody
        cases h
        exact ih.body hg hbody
  · cases h
  · -- a group without a name
    exact ih.capture hg (fun s hs => by cases hs) h

include ih in
/-- So does a sequence, which goes on after each of its parts. -/
lemma preserved_sequence {ctx g done ts pieces g' rest} (hg : P g)
    (h : parseSequence (fuel + 1) ctx g done ts = .ok (pieces, g', rest)) : P g' := by
  unfold parseSequence at h
  split at h
  · cases h
    exact hg
  · cases h
  · split at h
    · cases h
    · exact ih.sequence hg h
  · cases h
    exact hg
  · cases h
    exact hg
  · split at h
    · cases h
    · exact ih.sequence hg h
  · exact ih.sequence hg h
  · exact ih.sequence hg h
  · exact ih.sequence hg h
  · -- a group is the only item that changes the groups
    split at h
    · cases h
    · rename_i hgroup
      exact ih.sequence (ih.group hg hgroup) h
  · split at h
    · cases h
    · exact ih.sequence hg h
    · dsimp only at h
      split at h
      · cases h
      · exact ih.sequence hg h

end Steps

/-- Reading any part of a pattern preserves every stable property. -/
theorem Groups.Stable.preserved [CharacterNames] {P : Groups → Prop} (hP : Groups.Stable P)
    (fuel : Nat) :
    Preserved P fuel := by
  induction fuel with
  | zero => constructor <;> intros <;> rename_i h <;> cases h
  | succ fuel ih =>
    exact {
      alternatives := preserved_alternatives ih
      sequence := preserved_sequence ih
      group := preserved_group hP ih
      capture := preserved_capture hP ih
      look := preserved_look hP ih
      branches := preserved_branches ih
      body := preserved_body ih }

/-! ### Names -/

/-- The names of groups are identifiers, given once each, in the order of the groups. -/
structure Groups.Named (count : Nat) (names : Assoc String Nat) : Prop where
  identifier : ∀ entry ∈ names, Unicode.isIdentifier entry.1.toList = true
  nodup : names.keys.Nodup
  increasing : names.Pairwise fun a b => a.2 < b.2
  positive : ∀ entry ∈ names, 0 < entry.2
  bounded : ∀ entry ∈ names, entry.2 ≤ count

namespace Groups.Named

lemma nil (count : Nat) : Groups.Named count [] := by
  constructor <;> simp [Assoc.keys]

lemma succ {count : Nat} {names : Assoc String Nat} (h : Groups.Named count names) :
    Groups.Named (count + 1) names :=
  ⟨h.identifier, h.nodup, h.increasing, h.positive,
    fun entry he => (h.bounded entry he).trans (Nat.le_succ _)⟩

/-- The next group may be given a name that is not taken. -/
lemma append {count : Nat} {names : Assoc String Nat} {name : String} (h : Groups.Named count names)
    (hname : Unicode.isIdentifier name.toList = true) (hfresh : name ∉ names.keys) :
    Groups.Named (count + 1) (names ++ [(name, count + 1)]) := by
  constructor
  · intro entry he
    rcases List.mem_append.mp he with he | he
    · exact h.identifier entry he
    · rw [List.mem_singleton.mp he]
      exact hname
  · rw [Assoc.keys, List.map_append]
    refine List.Nodup.append h.nodup (List.nodup_singleton _) ?_
    rw [List.map_singleton, List.disjoint_singleton]
    exact hfresh
  · refine List.pairwise_append.mpr ⟨h.increasing, by simp, ?_⟩
    intro a ha b hb
    rw [List.mem_singleton.mp hb]
    exact Nat.lt_succ_of_le (h.bounded a ha)
  · intro entry he
    rcases List.mem_append.mp he with he | he
    · exact h.positive entry he
    · rw [List.mem_singleton.mp he]
      exact Nat.succ_pos _
  · intro entry he
    rcases List.mem_append.mp he with he | he
    · exact (h.bounded entry he).trans (Nat.le_succ _)
    · rw [List.mem_singleton.mp he]

/-- The numbers of the named groups stay below the count of groups. -/
lemma stable : Groups.Stable fun g => Groups.Named g.count g.names where
  opened := by
    intro g g' name hg hname h
    cases name with
    | none =>
      cases h
      exact hg.succ
    | some s =>
      rw [Groups.opened] at h
      split_ifs at h with htaken
      cases h
      have hfresh : Assoc.get? s g.names = none := by simpa [Assoc.contains] using htaken
      dsimp only
      rw [Assoc.insert_of_get?_eq_none _ hfresh]
      exact hg.append (hname s rfl) (Assoc.get?_eq_none_iff.mp hfresh)
  closed := fun _ _ hg => hg
  look := fun _ hg => hg
  condition := fun _ hg => hg

end Groups.Named

/-- In the tree of an expression, every name belongs to a group. -/
lemma named_of_parseTree [CharacterNames] {f : Flags} {body : List Char} {tree : Tree}
    (h : parseTree f body = .ok tree) : Groups.Named tree.groupCount tree.names := by
  obtain ⟨F, ts, pieces, g, _, hparse, _, _, _, rfl⟩ := parseTree_eq_ok.mp h
  exact (Groups.Named.stable.preserved _).alternatives (Groups.Named.nil 0) hparse

end Regex

namespace Pattern

open Regex

/-- The names of a pattern belong to its groups. -/
def Named (p : Pattern) : Prop :=
  Groups.Named p.groupCount p.names

lemma named_of_ofBody [CharacterNames] {body : List Char} {f : Flags} {p : Pattern}
    (h : ofBody body f = .ok p) :
    p.Named := by
  obtain ⟨tree, htree, rfl⟩ := ofBody_eq_ok.mp h
  exact named_of_parseTree htree

/-- The names of every compiled pattern belong to its groups. -/
theorem named_of_compile [CharacterNames] {text : String} {p : Pattern}
    (h : compile text = .ok p) : p.Named := by
  rw [compile] at h
  split at h
  · obtain ⟨f, _, h⟩ := Compiled.bind_eq_ok.mp h
    exact named_of_ofBody h
  · exact named_of_ofBody h

end Pattern

end UserAgent
