import UserAgent.Proofs.KeptRules

/-!
# Strict reading

A strict vocabulary refuses a literal that differs from the name of a transform by case only. This is
all that it refuses, and what it accepts means what it means without it: `RuleSet.ofTable_strictly`.
-/

namespace UserAgent

open Compiled

/-! ### Near misses -/

namespace Transforms

variable {ts : Transforms} {name : String}

/-- No transform is registered under the name, but one is under the same name in another case. -/
def NearMiss (ts : Transforms) (name : String) : Prop :=
  name ∉ ts.keys ∧ ∃ other ∈ ts.keys, Text.fold other = Text.fold name

instance (ts : Transforms) (name : String) : Decidable (ts.NearMiss name) :=
  inferInstanceAs (Decidable (_ ∧ _))

lemma find?_eq_none_iff : ts.find? name = none ↔ name ∉ ts.keys :=
  Assoc.get?_eq_none_iff

/-- No name is found to be missed exactly if there is no near miss. -/
lemma nearMiss?_eq_none_iff : ts.nearMiss? name = none ↔ ¬ ts.NearMiss name := by
  rw [nearMiss?, contains, NearMiss, ← find?_eq_none_iff]
  cases ts.find? name <;> simp

end Transforms

/-- A vocabulary that is strict, whether or not it was before. -/
def Vocabulary.strictly (v : Vocabulary) : Vocabulary :=
  { v with strict := true }

/-- A vocabulary that is not strict. -/
def Vocabulary.leniently (v : Vocabulary) : Vocabulary :=
  { v with strict := false }

namespace FieldSpec

/-- A specification of two texts, of which the second one is nearly the name of a transform. -/
def NearMiss (ts : Transforms) (spec : Json) : Prop :=
  ∃ name token, spec = .ofTexts [name, token] ∧ ts.NearMiss token

/-- Strict reading accepts the specifications that lenient reading accepts, but for near misses. -/
lemma decode_strictly_eq_ok [CharacterNames] {v : Vocabulary} {spec : Json} {f : FieldSpec} :
    decode v.strictly spec = .ok f ↔
      ¬ NearMiss v.transforms spec ∧ decode v.leniently spec = .ok f := by
  rw [decode_eq_ok, decode_eq_ok]
  constructor
  · intro h
    -- The two ways of reading differ for literals only.
    cases h with
    | copy hname => exact ⟨by simp [NearMiss, Json.ofTexts], .copy hname⟩
    | literal hname htoken hnear =>
      refine ⟨?_, .literal hname htoken (fun h => by cases h)⟩
      rintro ⟨name', token', heq, hmiss⟩
      cases heq
      exact Transforms.nearMiss?_eq_none_iff.mp (hnear rfl) hmiss
    | transform hname htoken =>
      refine ⟨?_, .transform hname htoken⟩
      rintro ⟨name', token', heq, hmiss⟩
      cases heq
      cases (Transforms.find?_eq_none_iff.mpr hmiss.1).symm.trans htoken
    | mapped hname hkey => exact ⟨by simp [NearMiss, Json.ofTexts], .mapped hname hkey⟩
    | substitute hname hpattern hs =>
      exact ⟨by simp [NearMiss, Json.ofTexts], .substitute hname hpattern hs⟩
    | substituteTransform hname htoken hs =>
      exact ⟨by simp [NearMiss, Json.ofTexts], .substituteTransform hname htoken hs⟩
  · rintro ⟨hmiss, h⟩
    cases h with
    | copy hname => exact .copy hname
    | @literal name token hname htoken _ =>
      refine .literal hname htoken fun _ => Transforms.nearMiss?_eq_none_iff.mpr fun hnear => ?_
      exact hmiss ⟨name, token, rfl, hnear⟩
    | transform hname htoken => exact .transform hname htoken
    | mapped hname hkey => exact .mapped hname hkey
    | substitute hname hpattern hs => exact .substitute hname hpattern hs
    | substituteTransform hname htoken hs => exact .substituteTransform hname htoken hs

end FieldSpec

/-! ### What strict reading accepts -/

/-- The specifications of a rule. -/
def Rule.specList : Json → List Json
  | .arr specs => specs
  | _ => []

/-- A rule is accepted strictly exactly if it is without the check, and no token is a near miss. -/
lemma Rule.compile_strictly_eq_ok [CharacterNames] {v : Vocabulary} {patterns specs : Json}
    {rule : Rule} :
    compile v.strictly patterns specs = .ok rule ↔
      (∀ spec ∈ specList specs, ¬ FieldSpec.NearMiss v.transforms spec) ∧
        compile v.leniently patterns specs = .ok rule := by
  rw [compile_eq_ok, compile_eq_ok]
  cases specs with
  | arr items =>
    simp only [Json.arr.injEq, exists_eq_left', mapM_eq_ok, FieldSpec.decode_strictly_eq_ok,
      List.forall₂_and_left, specList]
    tauto
  | _ => simp

namespace RuleGroup

/-- The specifications of all rules of a category. -/
def specList (category : String) (value : Json) : List Json :=
  (written category value).flatMap fun pair => Rule.specList pair.2

/-- So are the rules of a category. -/
lemma compile_strictly_eq_ok [CharacterNames] {v : Vocabulary} {category : String} {value : Json}
    {rules : RuleGroup} : compile v.strictly category value = .ok rules ↔
      (∀ spec ∈ specList category value, ¬ FieldSpec.NearMiss v.transforms spec) ∧
        compile v.leniently category value = .ok rules := by
  rw [compile_eq_ok, compile_eq_ok, specList, List.forall_mem_flatMap]
  simp only [Rule.compile_strictly_eq_ok, List.forall₂_and_left]
  constructor
  · rintro ⟨entries, pairs, rfl, hsplit, hnear, hrules⟩
    rw [written_of_split hsplit]
    exact ⟨hnear, entries, pairs, rfl, hsplit, hrules⟩
  · rintro ⟨hnear, entries, pairs, rfl, hsplit, hrules⟩
    rw [written_of_split hsplit] at hnear
    exact ⟨entries, pairs, rfl, hsplit, hnear, hrules⟩

end RuleGroup

namespace RuleSet

/-- The specifications of all rules of a table. Keys that name no category have none. -/
def specList : Json → List Json
  | .obj members => (categoryMembers members).flatMap fun member =>
      RuleGroup.specList member.1.name member.2
  | _ => []

/-- So are all categories of a table, those as well whose rules are replaced later. -/
lemma compileMembers_strictly_eq_ok [CharacterNames] {v : Vocabulary} {groups groups' : RuleGroups}
    {members : List (String × Json)} :
    (compileMembers v.strictly groups members).value = .ok groups' ↔
      (∀ spec ∈ specList (.obj members), ¬ FieldSpec.NearMiss v.transforms spec) ∧
        (compileMembers v.leniently groups members).value = .ok groups' := by
  induction members generalizing groups with
  | nil => simp [specList, categoryMembers, compileMembers]
  | cons member rest ih =>
    obtain ⟨key, value⟩ := member
    rw [value_compileMembers_cons, value_compileMembers_cons]
    cases hkey : Category.ofName? key with
    | none =>
      dsimp only
      rw [ih, specList, specList, categoryMembers_cons_of_none hkey]
    | some c =>
      dsimp only
      rw [specList, categoryMembers_cons_of_some hkey, List.flatMap_cons, List.forall_mem_append,
        ← specList]
      simp only [bind_eq_ok, ih, RuleGroup.compile_strictly_eq_ok]
      tauto

/-- A table is accepted strictly, with the same result, exactly if it is without the check, and no
token is a near miss. -/
lemma ofTable_strictly_eq_ok [CharacterNames] {v : Vocabulary} {table : Json}
    {source fileHash : Option String}
    {r : RuleSet} : (ofTable v.strictly table source fileHash).value = .ok r ↔
      (∀ spec ∈ specList table, ¬ FieldSpec.NearMiss v.transforms spec) ∧
        (ofTable v.leniently table source fileHash).value = .ok r := by
  rw [ofTable_eq_ok, ofTable_eq_ok]
  constructor
  · rintro ⟨members, rfl, hgroups, hmetadata⟩
    obtain ⟨hnear, hgroups⟩ := compileMembers_strictly_eq_ok.mp hgroups
    exact ⟨hnear, members, rfl, hgroups, hmetadata⟩
  · rintro ⟨hnear, members, rfl, hgroups, hmetadata⟩
    exact ⟨members, rfl, compileMembers_strictly_eq_ok.mpr ⟨hnear, hgroups⟩, hmetadata⟩

end RuleSet

/-! ### What strict reading refuses -/

namespace Compiled

variable {α β : Type} {P Q : Failure → Prop}

/-- The first result is the second one, unless it is a failure of some kind. -/
def EqUnless (P : Failure → Prop) (x y : Compiled α) : Prop :=
  x = y ∨ ∃ failure, P failure ∧ x = .error failure

namespace EqUnless

lemma refl (x : Compiled α) : EqUnless P x x :=
  .inl rfl

lemma mono {x y : Compiled α} (h : EqUnless P x y) (hPQ : ∀ failure, P failure → Q failure) :
    EqUnless Q x y :=
  h.imp_right fun ⟨failure, hfailure, hx⟩ => ⟨failure, hPQ failure hfailure, hx⟩

/-- Sequences agree up to a failure if their parts do. -/
lemma bind {x y : Compiled α} {f g : α → Compiled β} (h : EqUnless P x y)
    (hfg : ∀ a, EqUnless P (f a) (g a)) : EqUnless P (x >>= f) (y >>= g) := by
  rcases h with rfl | ⟨failure, hfailure, rfl⟩
  · cases x with
    | error failure => exact .refl _
    | ok a => exact hfg a
  · exact .inr ⟨failure, hfailure, rfl⟩

/-- Lists agree up to a failure if their items do. -/
lemma mapM {f g : α → Compiled β} (hfg : ∀ a, EqUnless P (f a) (g a)) (xs : List α) :
    EqUnless P (xs.mapM f) (xs.mapM g) := by
  induction xs with
  | nil => exact .refl _
  | cons x xs ih =>
    rw [List.mapM_cons, List.mapM_cons]
    exact .bind (hfg x) fun y => .bind ih fun ys => .refl _

end EqUnless

end Compiled

namespace Failure

/-- The refusal of a near miss. -/
def IsNearMiss (failure : Failure) : Prop :=
  ∃ field token registered, failure = .refused (.nearMiss field token registered)

/-- The refusal of a rule with a near miss. -/
def IsNearMissIn (category : String) (failure : Failure) : Prop :=
  ∃ index field token registered,
    failure = .refused (.atRule category index (.nearMiss field token registered))

end Failure

lemma FieldSpec.decodePair_strictly_eqUnless (v : Vocabulary) (name token : String) :
    EqUnless Failure.IsNearMiss (decodePair v.strictly name token)
      (decodePair v.leniently name token) := by
  simp only [decodePair, Vocabulary.strictly, Vocabulary.leniently]
  cases v.transforms.find? token with
  | some t => exact .refl _
  | none =>
    dsimp only
    cases v.transforms.nearMiss? token with
    | none => exact .refl _
    | some registered => exact .inr ⟨_, ⟨name, token, registered, rfl⟩, rfl⟩

/-- A specification is read alike with and without the check, unless its token is a near miss. -/
lemma FieldSpec.decode_strictly_eqUnless [CharacterNames] (v : Vocabulary) (spec : Json) :
    EqUnless Failure.IsNearMiss (decode v.strictly spec) (decode v.leniently spec) := by
  cases spec with
  | arr items =>
    rw [decode, decode]
    split_ifs with hlength
    · exact .refl _
    · refine .bind (.refl _) fun texts => ?_
      split_ifs with hempty
      · exact .refl _
      · split
        · exact decodePair_strictly_eqUnless v _ _
        · exact .refl _
        · exact .refl _
        · exact .refl _
  | _ => exact .refl _

lemma Rule.compile_strictly_eqUnless [CharacterNames] (v : Vocabulary) (patterns specs : Json) :
    EqUnless Failure.IsNearMiss (compile v.strictly patterns specs)
      (compile v.leniently patterns specs) := by
  unfold compile
  cases patternList patterns with
  | nil => exact .refl _
  | cons first rest =>
    cases specs with
    | arr items =>
      exact .bind (.refl _) fun ps =>
        .bind (.mapM (FieldSpec.decode_strictly_eqUnless v) items) fun fields => .refl _
    | _ => exact .refl _

namespace RuleGroup

/-- The rules of a category compile alike, unless one is refused for a near miss, with its place. -/
lemma compilePairs_strictly_eqUnless [CharacterNames] (v : Vocabulary) (category : String)
    (index : Nat) (pairs : List (Json × Json)) : EqUnless (Failure.IsNearMissIn category)
      (compilePairs v.strictly category index pairs)
      (compilePairs v.leniently category index pairs) := by
  induction pairs generalizing index with
  | nil => exact .refl _
  | cons pair pairs ih =>
    obtain ⟨patterns, specs⟩ := pair
    rw [compilePairs, compilePairs]
    rcases Rule.compile_strictly_eqUnless v patterns specs with
      heq | ⟨_, ⟨field, token, registered, rfl⟩, hfails⟩
    · rw [heq]
      cases Rule.compile v.leniently patterns specs with
      | error failure => exact .refl _
      | ok rule => exact .bind (ih (index + 1)) fun rules => .refl _
    · -- The refusal of a specification becomes that of its rule.
      rw [hfails]
      exact .inr ⟨_, ⟨index, field, token, registered, rfl⟩, rfl⟩

lemma compile_strictly_eqUnless [CharacterNames] (v : Vocabulary) (category : String)
    (value : Json) :
    EqUnless (Failure.IsNearMissIn category) (compile v.strictly category value)
      (compile v.leniently category value) := by
  cases value with
  | arr entries => exact .bind (.refl _) fun pairs => compilePairs_strictly_eqUnless v category 0 pairs
  | _ => exact .refl _

end RuleGroup

namespace RuleSet

lemma compileMembers_strictly_eqUnless [CharacterNames] (v : Vocabulary) (groups : RuleGroups)
    (members : List (String × Json)) :
    EqUnless (fun failure => ∃ c : Category, failure.IsNearMissIn c.name)
      (compileMembers v.strictly groups members).value
      (compileMembers v.leniently groups members).value := by
  induction members generalizing groups with
  | nil => exact .refl _
  | cons member rest ih =>
    obtain ⟨key, value⟩ := member
    rw [value_compileMembers_cons, value_compileMembers_cons]
    cases Category.ofName? key with
    | none => exact ih groups
    | some c =>
      refine .bind ((RuleGroup.compile_strictly_eqUnless v c.name value).mono ?_) fun rules => ih _
      exact fun failure hfailure => ⟨c, hfailure⟩

/-- Strict reading gives what lenient reading gives, unless it refuses a rule for a near miss. -/
lemma ofTable_strictly_eqUnless [CharacterNames] (v : Vocabulary) (table : Json)
    (source fileHash : Option String) :
    EqUnless (fun failure => ∃ c : Category, failure.IsNearMissIn c.name)
      (ofTable v.strictly table source fileHash).value
      (ofTable v.leniently table source fileHash).value := by
  cases table with
  | obj members => exact .bind (compileMembers_strictly_eqUnless v {} members) fun groups => .refl _
  | _ => exact .refl _

/-- A strict vocabulary only rejects. A table that it accepts is accepted without it as well, and gives
the same rule set. A table that is accepted without it is refused exactly if some rule has a near miss
for the name of a transform, and the refusal names a rule and its near miss. -/
theorem ofTable_strictly [CharacterNames] (v : Vocabulary) (table : Json)
    (source fileHash : Option String) :
    (∀ r, (ofTable v.strictly table source fileHash).value = .ok r →
      (ofTable v.leniently table source fileHash).value = .ok r) ∧
    ∀ r, (ofTable v.leniently table source fileHash).value = .ok r →
      ((∃ failure, (ofTable v.strictly table source fileHash).value = .error failure) ↔
        ∃ spec ∈ specList table, FieldSpec.NearMiss v.transforms spec) ∧
      ∀ failure, (ofTable v.strictly table source fileHash).value = .error failure →
        ∃ c : Category, failure.IsNearMissIn c.name := by
  refine ⟨fun r h => (ofTable_strictly_eq_ok.mp h).2, fun r hr => ⟨?_, fun failure hfailure => ?_⟩⟩
  · rw [exists_eq_error_iff]
    constructor
    · intro hrefused
      by_contra hnone
      exact hrefused r (ofTable_strictly_eq_ok.mpr ⟨by simpa using hnone, hr⟩)
    · rintro ⟨spec, hspec, hnear⟩ r' hr'
      exact (ofTable_strictly_eq_ok.mp hr').1 spec hspec hnear
  · -- Both ways agree but for a near miss, and this one was refused.
    rcases ofTable_strictly_eqUnless v table source fileHash with heq | ⟨failure', hnear, hstrict⟩
    · rw [heq, hr] at hfailure
      cases hfailure
    · rw [hstrict] at hfailure
      cases hfailure
      exact hnear

/-- A table with one rule, which gives every browser a name by a token. -/
def namedBy (token : String) : Json :=
  .obj [("browser", .arr [.arr [.ofTexts [""], .arr [.ofTexts ["name", token]]]])]

/-- A vocabulary with one transform, whose own name is not the one that it is registered under. -/
def shoutVocabulary : Vocabulary where
  transforms := [("SHOUT", { name := "capitals", function := .upper })]

theorem ofTable_strictly_namedBy :
    (∃ r, (ofTable shoutVocabulary.strictly (namedBy "SHOUT")).value = .ok r ∧
      (ofTable shoutVocabulary.leniently (namedBy "SHOUT")).value = .ok r) ∧
    ∃ r failure, (ofTable shoutVocabulary.leniently (namedBy "Shout")).value = .ok r ∧
      (ofTable shoutVocabulary.strictly (namedBy "Shout")).value = .error failure ∧
      ∃ c : Category, failure.IsNearMissIn c.name := by
  constructor
  · have hstrict : ∃ r, (ofTable shoutVocabulary.strictly (namedBy "SHOUT")).value = .ok r :=
      ⟨_, rfl⟩
    obtain ⟨r, hr⟩ := hstrict
    exact ⟨r, hr, (ofTable_strictly shoutVocabulary (namedBy "SHOUT") none none).1 r hr⟩
  · have hlenient : ∃ r, (ofTable shoutVocabulary.leniently (namedBy "Shout")).value = .ok r :=
      ⟨_, rfl⟩
    obtain ⟨r, hr⟩ := hlenient
    obtain ⟨hiff, hnames⟩ := (ofTable_strictly shoutVocabulary (namedBy "Shout") none none).2 r hr
    have hspecs : specList (namedBy "Shout") = [.ofTexts ["name", "Shout"]] := rfl
    have hnear : shoutVocabulary.transforms.NearMiss "Shout" := by
      decide
    obtain ⟨failure, hfailure⟩ :=
      hiff.mpr ⟨_, hspecs ▸ List.mem_cons_self, "name", "Shout", rfl, hnear⟩
    exact ⟨r, failure, hr, hfailure, hnames failure hfailure⟩

end RuleSet

end UserAgent
