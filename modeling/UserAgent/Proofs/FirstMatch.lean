import Mathlib.Data.List.Induction
import UserAgent.Proofs.Compiled
import UserAgent.Rule

/-!
# The first match of a group

Of all patterns of a group the first one that matches decides the record: first in the order of the
rules, and within a rule in the order of its alternatives. `RuleGroup.classify_of_firstMatch` gives the
record in terms of this match, and says what it does not depend on.
-/

namespace UserAgent

open Compiled

/-! ### Association lists -/

namespace Assoc

variable {α β : Type} [DecidableEq α]

/-- The last value that a list gives a key. -/
def last? (key : α) (entries : List (α × β)) : Option β :=
  (entries.filter (·.1 = key)).getLast?.map Prod.snd

/-- The last value of a key in two lists is that of the second one, if it has any. -/
lemma last?_append (key : α) (xs ys : List (α × β)) :
    last? key (xs ++ ys) = (last? key ys).or (last? key xs) := by
  simp only [last?, List.filter_append, List.getLast?_append]
  cases (ys.filter (·.1 = key)).getLast? <;> rfl

lemma last?_concat (key : α) (xs : List (α × β)) (k : α) (v : β) :
    last? key (xs ++ [(k, v)]) = if k = key then some v else last? key xs := by
  rw [last?_append]
  by_cases h : k = key <;> simp [last?, h]

lemma last?_cons (key k : α) (v : β) (xs : List (α × β)) :
    last? key ((k, v) :: xs) = (last? key xs).or (if k = key then some v else none) := by
  rw [← List.singleton_append, last?_append]
  by_cases h : k = key <;> simp [last?, h]

/-- Insertion into a list of values by key changes the value of one key, or appends it. -/
lemma insert_map {keys : List α} (hnodup : keys.Nodup) (f : α → β) (key : α) (value : β) :
    insert key value (keys.map fun k => (k, f k)) =
      (if key ∈ keys then keys else keys ++ [key]).map
        fun k => (k, if key = k then value else f k) := by
  induction keys with
  | nil => simp [insert]
  | cons k keys ih =>
    obtain ⟨hk, hnodup⟩ := List.nodup_cons.mp hnodup
    rw [List.map_cons, insert]
    by_cases hkey : key = k
    · subst hkey
      have hrest : ∀ k ∈ keys, (k, f k) = (k, if key = k then value else f k) := by
        intro k hmem
        rw [if_neg (ne_of_mem_of_not_mem hmem hk).symm]
      simpa using hrest
    · have hmem : key ∈ k :: keys ↔ key ∈ keys := by simp [hkey]
      rw [if_neg (Ne.symm hkey), ih hnodup]
      by_cases hin : key ∈ keys <;> simp [hmem, hin, hkey]

/-- A further key counts if it is new. -/
lemma eraseDups_concat (keys : List α) (key : α) :
    (keys ++ [key]).eraseDups =
      if key ∈ keys.eraseDups then keys.eraseDups else keys.eraseDups ++ [key] := by
  rw [List.eraseDups_append]
  by_cases h : key ∈ keys <;> simp [List.removeAll, List.eraseDups_cons, h]

/-- The association list of a list of keyed values: each key at its first place with its last value. -/
lemma ofList_eq_map (entries : List (α × β)) (default : β) :
    ofList entries = (entries.map Prod.fst).eraseDups.map
      fun key => (key, (last? key entries).getD default) := by
  induction entries using List.reverseRecOn with
  | nil => rfl
  | append_singleton entries entry ih =>
    obtain ⟨key, value⟩ := entry
    have hnodup : (entries.map Prod.fst).eraseDups.Nodup := by
      have := nodup_keys_ofList entries
      rwa [ih, keys, List.map_map, show Prod.fst ∘ _ = id from rfl, List.map_id] at this
    have hinsert : ofList (entries ++ [(key, value)]) = insert key value (ofList entries) := by
      simp only [ofList, insertAll, List.foldl_append, List.foldl_cons, List.foldl_nil]
    rw [hinsert, ih, insert_map hnodup, List.map_append, List.map_singleton, eraseDups_concat]
    refine List.map_congr_left fun k _ => ?_
    rw [last?_concat]
    split <;> rfl

/-- A list that gives each of its keys one value. -/
lemma getD_last?_map (key : α) (keys : List α) (value : β) :
    (last? key (keys.map (·, value))).getD value = value := by
  cases hlast : last? key (keys.map (·, value)) with
  | none => rfl
  | some value' =>
    obtain ⟨entry, hentry, rfl⟩ := Option.map_eq_some_iff.mp hlast
    obtain ⟨key', -, rfl⟩ := List.mem_map.mp (List.mem_of_mem_filter (List.mem_of_getLast? hentry))
    rfl

end Assoc

lemma Record.ofFields_eq_map (fields : List String) :
    Record.ofFields fields = fields.eraseDups.map (·, unset) := by
  rw [ofFields, Assoc.ofList_eq_map _ unset, List.map_map, show Prod.fst ∘ (·, unset) = id from rfl,
    List.map_id]
  simp only [Assoc.getD_last?_map]

/-! ### The record of a match -/

namespace Rule

/-- What the specifications of a rule give their fields, each from the capture at its own place. Beyond
the last capture there is none. -/
def settings (r : Rule) (m : Match) : List (String × String) :=
  r.fields.zipIdx.map fun (spec, place) => (spec.name, spec.resolve (m.groups[place]?).join)

/-- The value of a field: what the last specification for it gives. -/
def setting (r : Rule) (m : Match) (field : String) : String :=
  (Assoc.last? field (r.settings m)).getD unset

lemma fst_settings (r : Rule) (m : Match) :
    (r.settings m).map Prod.fst = r.fields.map FieldSpec.name := by
  rw [settings, List.map_map]
  conv_rhs => rw [← List.zipIdx_map_fst 0 r.fields]
  rw [List.map_map]
  rfl

/-- To set the fields of specifications from a place on is to insert their values one after another.
-/
lemma assign_drop (specs : List FieldSpec) (captures : List (Option String)) (place : Nat)
    (record : Record) :
    assign specs (captures.drop place) record = Assoc.insertAll record ((specs.zipIdx place).map
      fun (spec, place) => (spec.name, spec.resolve (captures[place]?).join)) := by
  induction specs generalizing place record with
  | nil => rfl
  | cons spec specs ih =>
    rw [assign, List.tail_drop, List.head?_drop, ih]
    rfl

/-- The record of a match: the given fields, then those that only the rule has. -/
lemma extract_ofFields (r : Rule) (m : Match) (fields : List String) :
    r.extract m (.ofFields fields) = (fields ++ r.fields.map FieldSpec.name).eraseDups.map
      fun field => (field, r.setting m field) := by
  have hassign := assign_drop r.fields m.groups 0 (.ofFields fields)
  rw [List.drop_zero] at hassign
  have hlist : r.extract m (.ofFields fields) =
      Assoc.ofList (fields.map (·, unset) ++ r.settings m) := by
    rw [extract, hassign, Record.ofFields, Assoc.ofList, Assoc.ofList, Assoc.insertAll,
      Assoc.insertAll, Assoc.insertAll, List.foldl_append]
    rfl
  rw [hlist, Assoc.ofList_eq_map _ unset, List.map_append, fst_settings, List.map_map,
    show Prod.fst ∘ (·, unset) = id from rfl, List.map_id]
  refine List.map_congr_left fun field _ => ?_
  rw [Assoc.last?_append, setting]
  cases Assoc.last? field (r.settings m) with
  | none => rw [Option.none_or, Assoc.getD_last?_map, Option.getD_none]
  | some value => rfl

end Rule

/-! ### The first match -/

lemma findSome?_eq_some_iff_getElem? {α β : Type} {f : α → Option β} {l : List α} {b : β} :
    l.findSome? f = some b ↔ ∃ (i : Nat) (a : α), l[i]? = some a ∧ f a = some b ∧
      ∀ (i' : Nat) (a' : α), l[i']? = some a' → i' < i → f a' = none := by
  rw [List.findSome?_eq_some_iff]
  constructor
  · rintro ⟨l₁, a, l₂, rfl, hfa, hnone⟩
    refine ⟨l₁.length, a, by simp, hfa, fun i' a' ha' hi' => hnone a' ?_⟩
    rw [List.getElem?_append_left hi'] at ha'
    exact List.mem_of_getElem? ha'
  · rintro ⟨i, a, ha, hfa, hnone⟩
    obtain ⟨hi, rfl⟩ := List.getElem?_eq_some_iff.mp ha
    refine ⟨l.take i, l[i], l.drop (i + 1), by simp, hfa, fun a' ha' => ?_⟩
    obtain ⟨i', hi', rfl⟩ := List.mem_take_iff_getElem.mp ha'
    exact hnone i' _ (List.getElem?_eq_getElem (by omega)) (by omega)

namespace Rule

/-- None of the patterns of a rule matches. -/
def NoMatch (r : Rule) (text : Array Char) : Prop :=
  ∀ p ∈ r.patterns, p.search? text = none

lemma search?_eq_none_iff {r : Rule} {text : Array Char} :
    r.search? text = none ↔ r.NoMatch text :=
  List.findSome?_eq_none_iff

/-- A rule gives the match of the first of its patterns that has one. -/
lemma search?_eq_some_iff {r : Rule} {text : Array Char} {m : Match} :
    r.search? text = some m ↔ ∃ (j : Nat) (p : Pattern),
      r.patterns[j]? = some p ∧ p.search? text = some m ∧
        ∀ (j' : Nat) (p' : Pattern), r.patterns[j']? = some p' → j' < j → p'.search? text = none :=
  findSome?_eq_some_iff_getElem?

end Rule

namespace RuleGroup

variable {group : RuleGroup} {text : Array Char} {i j : Nat} {rule : Rule} {m : Match}

/-- None of the patterns of a group matches. -/
def NoMatch (group : RuleGroup) (text : Array Char) : Prop :=
  ∀ rule ∈ group, rule.NoMatch text

/-- Of the patterns of a group that match, alternative `j` of rule `i` is the first one. -/
structure FirstMatch (group : RuleGroup) (text : Array Char) (i j : Nat) (rule : Rule) (m : Match) :
    Prop where
  rule_eq : group[i]? = some rule
  found : ∃ p, rule.patterns[j]? = some p ∧ p.search? text = some m
  first : ∀ i' j' rule' p, group[i']? = some rule' → rule'.patterns[j']? = some p →
    i' < i ∨ i' = i ∧ j' < j → p.search? text = none

/-- The search goes through the rules in order, up to the first one that has a match. -/
lemma go_eq_findSome? (group : RuleGroup) (text : Array Char) (index : Nat) :
    firstMatch?.go text index group =
      (group.zipIdx index).findSome? fun entry => (entry.1.search? text).map (entry.2, entry.1, ·) := by
  induction group generalizing index with
  | nil => rfl
  | cons r group ih =>
    rw [firstMatch?.go, List.zipIdx_cons, List.findSome?_cons]
    cases r.search? text with
    | none => exact ih (index + 1)
    | some m => rfl

/-- The search comes to a rule exactly if the rule has a match and none before it has one. -/
lemma firstMatch?_eq_some_iff_search? :
    group.firstMatch? text = some (i, rule, m) ↔
      group[i]? = some rule ∧ rule.search? text = some m ∧
        ∀ (i' : Nat) (rule' : Rule), group[i']? = some rule' → i' < i → rule'.NoMatch text := by
  rw [firstMatch?, go_eq_findSome?, findSome?_eq_some_iff_getElem?]
  simp only [List.getElem?_zipIdx, Option.map_eq_some_iff, Option.map_eq_none_iff, Nat.zero_add,
    Prod.exists, Prod.forall, Prod.mk.injEq, Rule.search?_eq_none_iff]
  constructor
  · rintro ⟨i', _, _, ⟨_, hrule, rfl, rfl⟩, ⟨_, hsearch, rfl, rfl, rfl⟩, hnone⟩
    exact ⟨hrule, hsearch, fun i' rule' hrule' => hnone i' rule' i' ⟨rule', hrule', rfl, rfl⟩⟩
  · rintro ⟨hrule, hsearch, hnone⟩
    refine ⟨i, rule, i, ⟨rule, hrule, rfl, rfl⟩, ⟨m, hsearch, rfl, rfl, rfl⟩, ?_⟩
    rintro i' _ _ ⟨rule', hrule', rfl, rfl⟩
    exact hnone i' rule' hrule'

/-- The search finds exactly the first match, the first by rules and then by patterns. -/
lemma firstMatch?_eq_some_iff :
    group.firstMatch? text = some (i, rule, m) ↔ ∃ j, group.FirstMatch text i j rule m := by
  rw [firstMatch?_eq_some_iff_search?, Rule.search?_eq_some_iff]
  constructor
  · rintro ⟨hrule, ⟨j, p, hp, hm, hfirst⟩, hnone⟩
    refine ⟨j, hrule, ⟨p, hp, hm⟩, ?_⟩
    rintro i' j' rule' p' hrule' hp' (hi | ⟨rfl, hj⟩)
    · exact hnone i' rule' hrule' hi p' (List.mem_of_getElem? hp')
    · obtain rfl : rule' = rule := Option.some_inj.mp (hrule'.symm.trans hrule)
      exact hfirst j' p' hp' hj
  · rintro ⟨j, hrule, ⟨p, hp, hm⟩, hfirst⟩
    refine ⟨hrule, ⟨j, p, hp, hm, fun j' p' hp' hj => ?_⟩, fun i' rule' hrule' hi p' hp' => ?_⟩
    · exact hfirst i j' rule p' hrule hp' (.inr ⟨rfl, hj⟩)
    · obtain ⟨j', hp'⟩ := List.mem_iff_getElem?.mp hp'
      exact hfirst i' j' rule' p' hrule' hp' (.inl hi)

/-- The search finds nothing exactly if no pattern matches. -/
lemma firstMatch?_eq_none_iff : group.firstMatch? text = none ↔ group.NoMatch text := by
  rw [firstMatch?, go_eq_findSome?, List.findSome?_eq_none_iff]
  simp only [Option.map_eq_none_iff, Rule.search?_eq_none_iff, Prod.forall, NoMatch]
  constructor
  · intro h rule hrule
    obtain ⟨i, hrule⟩ := List.mem_iff_getElem?.mp hrule
    exact h rule i (List.mk_mem_zipIdx_iff_getElem?.mpr hrule)
  · intro h rule i hrule
    exact h rule (List.fst_mem_of_mem_zipIdx hrule)

/-- Either no pattern matches, or there is a first match. -/
lemma noMatch_or_firstMatch (group : RuleGroup) (text : Array Char) :
    group.NoMatch text ∨ ∃ i j rule m, group.FirstMatch text i j rule m := by
  cases h : group.firstMatch? text with
  | none => exact .inl (firstMatch?_eq_none_iff.mp h)
  | some found =>
    obtain ⟨j, hfirst⟩ := firstMatch?_eq_some_iff.mp h
    exact .inr ⟨_, j, _, _, hfirst⟩

/-! ### What a record depends on -/

/-- A match stays the first one if nothing before it changes. -/
lemma FirstMatch.congr {group' : RuleGroup} (h : group.FirstMatch text i j rule m)
    (hgroup : ∀ i' ≤ i, group'[i']? = group[i']?) : group'.FirstMatch text i j rule m where
  rule_eq := (hgroup i i.le_refl).trans h.rule_eq
  found := h.found
  first i' j' rule' p hrule' hp' hbefore := by
    refine h.first i' j' rule' p ?_ hp' hbefore
    rw [← hgroup i' (by omega)]
    exact hrule'

/-- The patterns behind the one that matched do not matter. -/
lemma FirstMatch.set {rest : List Pattern} (h : group.FirstMatch text i j rule m) :
    FirstMatch (group.set i { rule with patterns := rule.patterns.take (j + 1) ++ rest }) text i j
      { rule with patterns := rule.patterns.take (j + 1) ++ rest } m := by
  obtain ⟨hi, -⟩ := List.getElem?_eq_some_iff.mp h.rule_eq
  obtain ⟨p, hp, hm⟩ := h.found
  obtain ⟨hj, -⟩ := List.getElem?_eq_some_iff.mp hp
  have hpatterns : ∀ j' ≤ j, (rule.patterns.take (j + 1) ++ rest)[j']? = rule.patterns[j']? := by
    intro j' hj'
    rw [List.getElem?_append_left (by rw [List.length_take]; omega),
      List.getElem?_take_of_lt (by omega)]
  refine ⟨by simp [hi], ⟨p, (hpatterns j j.le_refl).trans hp, hm⟩, ?_⟩
  rintro i' j' rule' p' hrule' hp' (hbefore | ⟨rfl, hbefore⟩)
  · rw [List.getElem?_set_ne (by omega)] at hrule'
    exact h.first i' j' rule' p' hrule' hp' (.inl hbefore)
  · obtain rfl := by simpa [hi] using hrule'
    exact h.first i' j' rule p' h.rule_eq ((hpatterns j' (by omega)).symm.trans hp')
      (.inr ⟨rfl, hbefore⟩)

/-- The record is written by the rule that matched, and the match is noted. -/
lemma classify_of_firstMatch? {text : String} (fields : List String)
    (h : group.FirstMatch text.toList.toArray i j rule m) : group.classify fields text =
      ⟨rule.extract m (.ofFields fields),
        [⟨.debug, "Rule " ++ toString i ++ " matched " ++ Text.quoted m.matched⟩]⟩ := by
  rw [classify, firstMatch?_eq_some_iff.mpr ⟨j, h⟩]

/-- The record comes from the first rule with a match; the fields stay unset if there is none. -/
lemma value_classify (group : RuleGroup) (fields : List String) (text : String) :
    (group.classify fields text).value = ((group.findSome? fun r =>
      (r.search? text.toList.toArray).map (r.extract · (.ofFields fields))).getD
        (.ofFields fields)) := by
  have hgo : ∀ index, (firstMatch?.go text.toList.toArray index group).map
      (fun found => found.2.1.extract found.2.2 (.ofFields fields)) = group.findSome? fun r =>
        (r.search? text.toList.toArray).map (r.extract · (.ofFields fields)) := by
    induction group with
    | nil => exact fun _ => rfl
    | cons r group ih =>
      intro index
      rw [firstMatch?.go, List.findSome?_cons]
      cases r.search? text.toList.toArray with
      | none => exact ih (index + 1)
      | some m => rfl
  rw [← hgo 0, classify, firstMatch?]
  cases firstMatch?.go text.toList.toArray 0 group with
  | none => rfl
  | some found => rfl

/-- A rule that does not match may as well be absent. -/
lemma value_classify_eraseIdx {k : Nat} {text : String} (fields : List String)
    (hrule : group[k]? = some rule) (hnone : rule.NoMatch text.toList.toArray) :
    (classify (group.eraseIdx k) fields text).value = (group.classify fields text).value := by
  obtain ⟨hk, rfl⟩ := List.getElem?_eq_some_iff.mp hrule
  have hsplit : group = group.take k ++ group[k] :: group.drop (k + 1) := by simp
  rw [value_classify, value_classify, List.eraseIdx_eq_take_drop_succ]
  conv_rhs => rw [hsplit]
  rw [List.findSome?_append, List.findSome?_append, List.findSome?_cons,
    Rule.search?_eq_none_iff.mpr hnone]
  rfl

/-- The first match decides the record. Its keys are the given fields and then those that only the rule
has, and each holds what the last specification for it gives. If nothing matches, the given fields are
unset. Rules that do not match, later rules and later alternatives of the same rule have no influence. -/
theorem classify_of_firstMatch (group : RuleGroup) (fields : List String) (text : String) :
    (∀ i j rule m, group.FirstMatch text.toList.toArray i j rule m →
      (group.classify fields text).value =
          ((fields ++ rule.fields.map FieldSpec.name).eraseDups.map
            fun field => (field, rule.setting m field)) ∧
        (∀ rest, classify (group.take (i + 1) ++ rest) fields text = group.classify fields text) ∧
        (∀ rest, classify
            (group.set i { rule with patterns := rule.patterns.take (j + 1) ++ rest }) fields text =
          group.classify fields text)) ∧
    (group.NoMatch text.toList.toArray →
      (group.classify fields text).value = fields.eraseDups.map (·, unset)) ∧
    (group.NoMatch text.toList.toArray ∨
      ∃ i j rule m, group.FirstMatch text.toList.toArray i j rule m) ∧
    (∀ k rule, group[k]? = some rule → rule.NoMatch text.toList.toArray →
      (classify (group.eraseIdx k) fields text).value = (group.classify fields text).value) := by
  refine ⟨?_, ?_, noMatch_or_firstMatch group _, ?_⟩
  · intro i j rule m h
    have hclassify := classify_of_firstMatch? fields h
    refine ⟨?_, fun rest => ?_, fun rest => ?_⟩
    · rw [hclassify]
      exact rule.extract_ofFields m fields
    · obtain ⟨hi, -⟩ := List.getElem?_eq_some_iff.mp h.rule_eq
      -- The rules up to the one that matched are the same, whatever follows.
      have hkept : FirstMatch (group.take (i + 1) ++ rest) text.toList.toArray i j rule m := by
        refine h.congr fun i' hi' => ?_
        rw [List.getElem?_append_left (by rw [List.length_take]; omega),
          List.getElem?_take_of_lt (by omega)]
      rw [hclassify, classify_of_firstMatch? fields hkept]
    · rw [hclassify, classify_of_firstMatch? fields h.set]
      rfl
  · intro h
    rw [classify, firstMatch?_eq_none_iff.mpr h]
    exact Record.ofFields_eq_map fields
  · intro k rule hrule hnone
    exact value_classify_eraseIdx fields hrule hnone

/-- Two rules, of which the second one has two alternatives and gives the name twice: from its first
group, and from a third group that it does not have. -/
def owlsThenFoxes : Json :=
  .arr [.arr [.ofTexts ["(owl)"], .ofTexts ["name"]],
    .arr [.ofTexts ["cat", "(fox)/([0-9]+)"],
      .arr [.str "name", .ofTexts ["kind", "wild"], .str "name"]]]

theorem classify_owlsThenFoxes : ∃ group j rule m, compile {} "browser" owlsThenFoxes = .ok group ∧
    group.FirstMatch "fox/12".toList.toArray 1 j rule m ∧
    (["name", "version"] ++ rule.fields.map FieldSpec.name).eraseDups.map
        (fun field => (field, rule.setting m field)) =
      [("name", ""), ("version", ""), ("kind", "wild")] := by
  have hany : (compile {} "browser" owlsThenFoxes).toOption.any (fun group =>
      decide ((group.classify ["name", "version"] "fox/12").value =
        [("name", ""), ("version", ""), ("kind", "wild")]) &&
      (group.firstMatch? "fox/12".toList.toArray).any (·.1 = 1)) = true := by
    decide +kernel
  obtain ⟨group, hgroup, htest⟩ := exists_ok_of_any hany
  obtain ⟨hrecord, hfound⟩ := Bool.and_eq_true_iff.mp htest
  cases hmatch : group.firstMatch? "fox/12".toList.toArray with
  | none =>
    rw [hmatch] at hfound
    cases hfound
  | some found =>
    obtain ⟨i, rule, m⟩ := found
    rw [hmatch] at hfound
    obtain rfl : i = 1 := of_decide_eq_true hfound
    obtain ⟨j, hfirst⟩ := firstMatch?_eq_some_iff.mp hmatch
    refine ⟨group, j, rule, m, hgroup, hfirst, ?_⟩
    rw [← ((classify_of_firstMatch group ["name", "version"] "fox/12").1 1 j rule m hfirst).1]
    exact of_decide_eq_true hrecord

end RuleGroup

end UserAgent
