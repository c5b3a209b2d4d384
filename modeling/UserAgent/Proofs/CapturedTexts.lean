import UserAgent.Proofs.Captures
import UserAgent.Proofs.FirstMatch
import UserAgent.Proofs.Openings

/-!
# The texts of captures

What a match gives a field is told by the pattern and the specifications of the rule: which texts a
group can have captured (`Pattern.mem_language_of_group`), and which specification a field has its
value from (`Rule.setting_eq`). Together they tell how the value may begin (`Rule.fits_setting`).
-/

namespace UserAgent

open Regex

/-! ### Groups of a match -/

namespace Match

/-- What a group has captured, by its slot; nothing if it took no part, or if there is no such group.
Slots are counted from zero. -/
def word? (m : Match) (slot : Nat) : Option String :=
  (m.groups[slot]?).join

lemma word?_eq (m : Match) (slot : Nat) :
    m.word? slot = ((m.captures[slot]?).join).map (slice m.text) := by
  rw [word?, groups, List.getElem?_map]
  cases m.captures[slot]? <;> rfl

/-- The text between two places in characters. -/
lemma toList_slice_pos (text : Array Char) (s t : State) :
    (slice text ⟨s.pos, t.pos⟩).toList = textBetween text s t := by
  rw [slice, String.toList_ofList, textBetween]

end Match

namespace Pattern

variable {p : Pattern} {text : Array Char} {m : Match} {slot : Nat} {word : String}

/-- A match is a way of the node of its pattern, from a state without captures. -/
lemma exists_way_of_search? (h : p.search? text = some m) : ∃ s t, p.node.Way text s t ∧
    s.captures = List.replicate p.groupCount none ∧ m.text = text ∧ m.captures = t.captures := by
  obtain ⟨pos, hmatch⟩ := exists_matchAt?_of_scan? h
  obtain ⟨t, hrun, rfl⟩ := Option.map_eq_some_iff.mp hmatch
  obtain ⟨t', hway, ht⟩ := p.node.way_of_run text hrun
  obtain rfl : t' = t := by simpa using ht
  exact ⟨_, t', hway, rfl, rfl, rfl⟩

/-- What a group has captured was read by one of the bodies for its slot. -/
lemma exists_way_of_group (h : p.search? text = some m) (hword : m.word? slot = some word) :
    ∃ body ∈ p.node.bodies slot, ∃ s t, body.Way text s t ∧
      Match.slice text ⟨s.pos, t.pos⟩ = word := by
  obtain ⟨s, t, hway, hs, rfl, hcaptures⟩ := exists_way_of_search? h
  rw [Match.word?_eq, hcaptures] at hword
  have hcapture := Node.capture_of_way slot hway
  rcases hcapture with hkept | ⟨body, hbody, s', t', hbodyWay, hcapture⟩
  · -- At the start no slot holds anything.
    rw [hkept, hs, List.getElem?_replicate] at hword
    split_ifs at hword <;> cases hword
  · rw [hcapture] at hword
    exact ⟨body, hbody, s', t', hbodyWay, by simpa using hword⟩

/-- What a group has captured is in the language of one of the bodies, and it is part of the text. -/
theorem mem_language_of_group (h : p.search? text = some m) (hword : m.word? slot = some word) :
    (∃ body ∈ p.node.bodies slot, word.toList ∈ body.language) ∧ ∀ c ∈ word.toList, c ∈ text.toList := by
  obtain ⟨body, hbody, s, t, hway, rfl⟩ := exists_way_of_group h hword
  rw [Match.toList_slice_pos]
  exact ⟨⟨body, hbody, Node.mem_language_of_way hway⟩, fun c => mem_of_mem_textBetween⟩

/-- The openings of what a group may capture. -/
def openings (p : Pattern) (slot : Nat) : List Opening :=
  (p.node.bodies slot).flatMap Node.openings

/-- The tests of what a group may capture. -/
def symbols (p : Pattern) (slot : Nat) : List Symbol :=
  (p.node.bodies slot).flatMap Node.symbols

/-- What a group captured begins in one of the ways that the pattern allows. -/
lemma fits_of_group (h : p.search? text = some m) (hword : m.word? slot = some word) :
    ∃ o ∈ p.openings slot, o.Fits word.toList := by
  obtain ⟨⟨body, hbody, hmem⟩, -⟩ := mem_language_of_group h hword
  obtain ⟨o, ho, hfits⟩ := Node.fits_of_mem_language hmem
  exact ⟨o, List.mem_flatMap.mpr ⟨body, hbody, ho⟩, hfits⟩

/-- Each character that a group captured is accepted by a symbol of the group. -/
lemma accepts_of_group (h : p.search? text = some m) (hword : m.word? slot = some word) :
    ∀ c ∈ word.toList, ∃ y ∈ p.symbols slot, y.accepts c.toNat = true := by
  obtain ⟨⟨body, hbody, hmem⟩, -⟩ := mem_language_of_group h hword
  intro c hc
  obtain ⟨y, hy, hyc⟩ := Node.accepts_of_mem_language hmem c hc
  exact ⟨y, List.mem_flatMap.mpr ⟨body, hbody, hy⟩, hyc⟩

/-- Whether no test of what a group may capture accepts a character. -/
def excludes (c : Char) (p : Pattern) (slot : Nat) : Bool :=
  (p.symbols slot).all fun y => !y.accepts c.toNat

lemma not_mem_of_excludes {c : Char} (hp : p.excludes c slot = true) (h : p.search? text = some m)
    (hword : m.word? slot = some word) : c ∉ word.toList := by
  intro hc
  obtain ⟨y, hy, haccepts⟩ := accepts_of_group h hword c hc
  have hrejects := List.all_eq_true.mp hp y hy
  rw [haccepts] at hrejects
  cases hrejects

/-- Whether every match captures something for a slot. -/
def alwaysCaptures (p : Pattern) (slot : Nat) : Bool :=
  slot < p.groupCount && p.node.alwaysCaptures slot

/-- A group that takes part in every match has captured something. -/
lemma exists_word (hp : p.alwaysCaptures slot = true) (h : p.search? text = some m) :
    ∃ word, m.word? slot = some word := by
  obtain ⟨hslot, hnode⟩ := Bool.and_eq_true_iff.mp hp
  obtain ⟨s, t, hway, hs, -, hcaptures⟩ := exists_way_of_search? h
  have hlength : slot < s.captures.length := by
    rw [hs, List.length_replicate]
    exact of_decide_eq_true hslot
  obtain ⟨span, hspan⟩ := Node.holds_of_way hnode hlength hway
  rw [Match.word?_eq, hcaptures, hspan]
  exact ⟨_, rfl⟩

end Pattern

/-! ### Comparison of specifications -/

namespace FieldSpec

-- Functions cannot be compared, so a specification is compared only with one that has no transform.

instance (spec : FieldSpec) (name : String) : Decidable (spec = copy name) :=
  match spec with
  | copy other => decidable_of_iff (other = name) (by simp)
  | literal .. | transform .. | substitute .. | mapped .. | substituteTransform .. =>
    .isFalse (by simp)

instance (spec : FieldSpec) (name value : String) : Decidable (spec = literal name value) :=
  match spec with
  | literal other text => decidable_of_iff (other = name ∧ text = value) (by simp)
  | copy .. | transform .. | substitute .. | mapped .. | substituteTransform .. =>
    .isFalse (by simp)

instance (spec : FieldSpec) (name : String) (table : MappingTable) :
    Decidable (spec = mapped name table) :=
  match spec with
  | mapped other table' => decidable_of_iff (other = name ∧ table' = table) (by simp)
  | copy .. | literal .. | transform .. | substitute .. | substituteTransform .. =>
    .isFalse (by simp)

instance (source : Option (FieldSpec × Nat)) (spec : FieldSpec) (slot : Nat)
    [∀ other : FieldSpec, Decidable (other = spec)] : Decidable (source = some (spec, slot)) :=
  match source with
  | some (other, slot') => decidable_of_iff (other = spec ∧ slot' = slot) (by simp)
  | none => .isFalse (by simp)

end FieldSpec

/-! ### Values of fields -/

namespace Rule

/-- The specification that a field has its value from, with its slot: the last one for the field. -/
def source? (r : Rule) (field : String) : Option (FieldSpec × Nat) :=
  (r.fields.zipIdx.filter fun entry => entry.1.name = field).getLast?

/-- The specification that sets a field is one of the rule's. -/
lemma mem_fields_of_source? {r : Rule} {field : String} {source : FieldSpec × Nat}
    (h : r.source? field = some source) : source.1 ∈ r.fields :=
  List.fst_mem_of_mem_zipIdx (List.mem_filter.mp (List.mem_of_getLast? h)).1

/-- A field has the value that its source makes of the capture in its slot. -/
lemma setting_eq (r : Rule) (m : Match) (field : String) :
    r.setting m field =
      ((r.source? field).map fun source => source.1.resolve (m.word? source.2)).getD unset := by
  rw [setting, Assoc.last?, settings, source?, List.filter_map, List.getLast?_map, Option.map_map]
  rfl

end Rule

/-! ### How a value may begin -/

/-- The openings of the text of a group, which is empty if the group takes no part. -/
def Pattern.textOpenings (p : Pattern) (slot : Nat) : List Opening :=
  if p.alwaysCaptures slot then p.openings slot else .nothing :: p.openings slot

/-- The text of a group begins in one of the ways that are allowed; the unset value stands for a group
that took no part. -/
lemma Pattern.fits_text {p : Pattern} {text : Array Char} {m : Match} (h : p.search? text = some m)
    (slot : Nat) : ∃ o ∈ p.textOpenings slot, o.Fits ((m.word? slot).getD unset).toList := by
  rw [textOpenings]
  cases hword : m.word? slot with
  | none =>
    split_ifs with hcaptures
    · obtain ⟨word, hsome⟩ := exists_word hcaptures h
      rw [hword] at hsome
      cases hsome
    · exact ⟨.nothing, List.mem_cons_self, Opening.fits_nothing⟩
  | some word =>
    obtain ⟨o, ho, hfits⟩ := fits_of_group h hword
    split_ifs
    · exact ⟨o, ho, hfits⟩
    · exact ⟨o, List.mem_cons_of_mem _ ho, hfits⟩

/-- The characters that a template begins with. -/
def Template.leading : Template → List Char
  | .char c :: rest => c :: leading rest
  | .group _ :: _ | [] => []

/-- An expanded template begins with the characters before its first reference. -/
lemma Template.exists_expand (template : Template) (m : Match) :
    ∃ rest, (template.expand m).toList = template.leading ++ rest := by
  rw [expand, String.toList_join]
  induction template with
  | nil => exact ⟨[], rfl⟩
  | cons piece template ih =>
    cases piece with
    | group index => exact ⟨_, rfl⟩
    | char c =>
      obtain ⟨rest, hrest⟩ := ih
      refine ⟨rest, ?_⟩
      rw [List.map_cons, List.flatMap_cons, hrest, leading, TemplatePiece.expand,
        String.toList_ofList]
      rfl

/-- Whether a part of a template is a character. -/
def TemplatePiece.isChar : TemplatePiece → Bool
  | .char _ => true
  | .group _ => false

/-- A template with a character of its own does not give the unset value. -/
lemma Template.expand_ne_unset {template : Template} (h : template.any TemplatePiece.isChar = true)
    (m : Match) : template.expand m ≠ unset := by
  obtain ⟨piece, hpiece, hchar⟩ := List.any_eq_true.mp h
  cases piece with
  | group index => cases hchar
  | char c =>
    intro hempty
    have hlist := congrArg String.toList hempty
    rw [expand, String.toList_join] at hlist
    have hall := List.flatMap_eq_nil_iff.mp hlist
    simpa [TemplatePiece.expand] using hall _ (List.mem_map_of_mem hpiece)

namespace Substitution

variable {s : Substitution}

/-- A replacement by a template with a character leaves nothing empty that was not. -/
lemma apply_ne_unset (hs : s.template.any TemplatePiece.isChar = true) {text : String}
    (htext : text ≠ unset) : s.apply text ≠ unset := by
  rw [apply, Pattern.replaceAll, Pattern.replaceFrom]
  split
  · simpa [Match.slice] using htext
  · rename_i m hm
    have hexpand := Template.expand_ne_unset hs m
    simp_all [unset]

/-- What replaces the start of a text comes first. -/
lemma exists_apply (hs : s.search.node = .anchor .start) (text : String) :
    ∃ rest, (s.apply text).toList = s.template.leading ++ rest := by
  obtain ⟨rest, hrest⟩ := s.template.exists_expand
    ⟨text.toList.toArray, ⟨0, 0⟩, List.replicate s.search.groupCount none⟩
  have hmatch : s.search.matchAt? text.toList.toArray some 0 = some
      ⟨text.toList.toArray, ⟨0, 0⟩, List.replicate s.search.groupCount none⟩ := by
    rw [Pattern.matchAt?, hs]
    rfl
  have hsearch : s.search.searchFrom? text.toList.toArray false 0 = some
      ⟨text.toList.toArray, ⟨0, 0⟩, List.replicate s.search.groupCount none⟩ := by
    simp only [Pattern.searchFrom?, Bool.false_eq_true, if_false, Nat.sub_zero, Pattern.scan?, hmatch]
  rw [apply, Pattern.replaceAll, Pattern.replaceFrom, hsearch]
  simp [Match.slice, hrest]

/-- The openings of what a replacement makes of a text that is not empty. -/
def openings (s : Substitution) : List Opening :=
  if s.search.node = .anchor .start then [.ofChars s.template.leading false]
  else if s.template.any TemplatePiece.isChar then [.something]
  else [.anything]

/-- What a replacement gives begins in one of the ways that it allows. -/
lemma fits_apply {text : String} (htext : text ≠ unset) :
    ∃ o ∈ s.openings, o.Fits (s.apply text).toList := by
  rw [openings]
  split_ifs with hstart hchar
  · obtain ⟨rest, hrest⟩ := exists_apply hstart text
    rw [hrest]
    exact ⟨_, List.mem_singleton_self _, Opening.fits_ofChars fun h => by cases h⟩
  · refine ⟨_, List.mem_singleton_self _, Opening.fits_something ?_⟩
    simpa [unset] using apply_ne_unset hchar htext
  · exact ⟨_, List.mem_singleton_self _, Opening.fits_anything _⟩

end Substitution

namespace FieldSpec

lemma onCapture_eq (f : String → String) (capture : Option String) : onCapture f capture =
    if capture.getD unset = unset then unset else f (capture.getD unset) := by
  cases capture with
  | none => rfl
  | some s =>
    simp only [onCapture, Option.getD_some, String.isEmpty_iff]
    rfl

lemma resolve_copy (name : String) (capture : Option String) :
    (copy name).resolve capture = capture.getD unset := by
  rw [resolve, onCapture_eq]
  split_ifs with hempty
  · exact hempty.symm
  · rfl

/-- The openings of the values of a specification, given those of the captured text. -/
def openings (captured : List Opening) : FieldSpec → List Opening
  | copy _ => captured
  | literal _ value => [.ofChars value.toList true]
  | substitute _ s =>
    if captured.any fun o => o.symbols.isEmpty then .nothing :: s.openings else s.openings
  | transform _ _ | mapped _ _ | substituteTransform _ _ _ => [.anything]

/-- The value of a field begins in one of the ways that its specification makes of those of the
capture. -/
lemma fits_resolve {spec : FieldSpec} {captured : List Opening} {capture : Option String}
    (h : ∃ o ∈ captured, o.Fits (capture.getD unset).toList) :
    ∃ o ∈ spec.openings captured, o.Fits (spec.resolve capture).toList := by
  cases spec with
  | copy name => rwa [resolve_copy]
  | literal name value =>
    have hfits : (Opening.ofChars value.toList true).Fits (value.toList ++ []) :=
      Opening.fits_ofChars fun _ => rfl
    rw [List.append_nil] at hfits
    exact ⟨_, List.mem_singleton_self _, hfits⟩
  | substitute name s =>
    rw [resolve, onCapture_eq, openings]
    by_cases hempty : capture.getD unset = unset
    · -- An empty text fits no opening with symbols.
      obtain ⟨o, ho, hfits⟩ := h
      rw [hempty] at hfits
      have hany : (captured.any fun o => o.symbols.isEmpty) = true :=
        List.any_eq_true.mpr ⟨o, ho, hfits.isEmpty_symbols⟩
      rw [if_pos hempty, if_pos hany]
      exact ⟨.nothing, List.mem_cons_self, Opening.fits_nothing⟩
    · obtain ⟨o, ho, hfits⟩ := s.fits_apply hempty
      rw [if_neg hempty]
      split_ifs
      · exact ⟨o, List.mem_cons_of_mem _ ho, hfits⟩
      · exact ⟨o, ho, hfits⟩
  | transform name t | mapped name table | substituteTransform name s t =>
    exact ⟨.anything, List.mem_singleton_self _, Opening.fits_anything _⟩

end FieldSpec

namespace Rule

/-- The openings of the values that a match of a pattern of the rule gives a field. -/
def openings (r : Rule) (field : String) (p : Pattern) : List Opening :=
  match r.source? field with
  | some source => source.1.openings (p.textOpenings source.2)
  | none => [.nothing]

/-- The value of a field begins as one of the openings says. -/
theorem fits_setting {r : Rule} {field : String} {p : Pattern} {text : Array Char} {m : Match}
    (h : p.search? text = some m) :
    ∃ o ∈ r.openings field p, o.Fits (r.setting m field).toList := by
  rw [openings, setting_eq]
  cases r.source? field with
  | none => exact ⟨.nothing, List.mem_singleton_self _, Opening.fits_nothing⟩
  | some source => exact FieldSpec.fits_resolve (p.fits_text h source.2)

end Rule

/-! ### Records of groups -/

lemma Assoc.get?_map_of_mem {key : String} {keys : List String} (h : key ∈ keys)
    (f : String → String) : get? key (keys.map fun k => (k, f k)) = some (f key) := by
  induction keys with
  | nil => cases h
  | cons k keys ih =>
    rw [List.map_cons, get?_cons]
    split_ifs with hkey
    · rw [hkey]
    · exact ih ((List.mem_cons.mp h).resolve_left (Ne.symm hkey))

namespace RuleGroup

variable {group : RuleGroup} {fields : List String} {text : String} {i j : Nat} {rule : Rule}
  {m : Match}

/-- Without a match all fields are unset. -/
lemma value_classify_of_noMatch (h : group.NoMatch text.toList.toArray) :
    (group.classify fields text).value = .ofFields fields := by
  rw [classify, firstMatch?_eq_none_iff.mpr h]

/-- The first match gives each of the fields its value. -/
lemma get?_classify_of_firstMatch (h : group.FirstMatch text.toList.toArray i j rule m)
    {field : String} (hfield : field ∈ fields) :
    Assoc.get? field (group.classify fields text).value = some (rule.setting m field) := by
  rw [classify_of_firstMatch? fields h]
  show Assoc.get? field (rule.extract m (.ofFields fields)) = _
  rw [Rule.extract_ofFields]
  exact Assoc.get?_map_of_mem (by simp [hfield]) fun field => rule.setting m field

/-- The first match is one of a pattern of the group. -/
lemma FirstMatch.exists_pattern {text : Array Char} (h : group.FirstMatch text i j rule m) :
    rule ∈ group ∧ ∃ p ∈ rule.patterns, rule.patterns[j]? = some p ∧ p.search? text = some m := by
  obtain ⟨p, hp, hm⟩ := h.found
  exact ⟨List.mem_of_getElem? h.rule_eq, p, List.mem_of_getElem? hp, hp, hm⟩

/-- There is one first match only. -/
lemma FirstMatch.unique {i' j' : Nat} {rule' : Rule} {m' : Match} {text : Array Char}
    (h : group.FirstMatch text i j rule m) (h' : group.FirstMatch text i' j' rule' m') :
    j' = j ∧ rule' = rule ∧ m' = m := by
  have hfound : some (i, rule, m) = some (i', rule', m') := by
    rw [← firstMatch?_eq_some_iff.mpr ⟨j, h⟩, ← firstMatch?_eq_some_iff.mpr ⟨j', h'⟩]
  obtain ⟨rfl, rfl, rfl⟩ : i = i' ∧ rule = rule' ∧ m = m' := by simpa using hfound
  obtain ⟨p, hp, hm⟩ := h.found
  obtain ⟨p', hp', hm'⟩ := h'.found
  -- Of two alternatives that both match, the later one would not be the first match.
  rcases Nat.lt_trichotomy j' j with hj | hj | hj
  · rw [h.first i j' rule p' h.rule_eq hp' (.inr ⟨rfl, hj⟩)] at hm'
    cases hm'
  · exact ⟨hj, rfl, rfl⟩
  · rw [h'.first i j rule p h'.rule_eq hp (.inr ⟨rfl, hj⟩)] at hm
    cases hm

/-- The first match of a text is one of a pattern with the given body, and a word is what one of its
groups has captured. -/
def Takes (group : RuleGroup) (text : Array Char) (body : String) (slot : Nat) (word : String) : Prop :=
  ∃ i j rule m p, group.FirstMatch text i j rule m ∧ rule.patterns[j]? = some p ∧ p.body = body ∧
    m.word? slot = some word

/-- What the group takes is what the first match captures. -/
lemma FirstMatch.takes_iff {text : Array Char} (h : group.FirstMatch text i j rule m) {p : Pattern}
    (hp : rule.patterns[j]? = some p) {body : String} {slot : Nat} {word : String} :
    group.Takes text body slot word ↔ p.body = body ∧ m.word? slot = some word := by
  constructor
  · rintro ⟨i', j', rule', m', p', h', hp', hbody, hword⟩
    obtain ⟨rfl, rfl, rfl⟩ := h.unique h'
    obtain rfl : p' = p := Option.some_inj.mp (hp'.symm.trans hp)
    exact ⟨hbody, hword⟩
  · rintro ⟨hbody, hword⟩
    exact ⟨i, j, rule, m, p, h, hp, hbody, hword⟩

lemma NoMatch.not_takes {text : Array Char} (h : group.NoMatch text) {body : String} {slot : Nat}
    {word : String} : ¬ group.Takes text body slot word := by
  rintro ⟨i, j, rule, m, p, hfirst, -⟩
  obtain ⟨hrule, p, hp, -, hm⟩ := hfirst.exists_pattern
  rw [h rule hrule p hp] at hm
  cases hm

end RuleGroup

end UserAgent
