import UserAgent.Proofs.CaseBlind
import UserAgent.Proofs.RefinedDevices

/-!
# Vocabularies of fields

A group whose openings are words captures, from an ASCII text, one of these words in some case
(`Pattern.exists_sameLetters_word`). A field that is a constant, or that lowers such a capture, has one
of the values that the rule can be seen to give (`Rule.setting_mem_of_within`). The built-in rules give
architectures a closed vocabulary (`RuleSet.architecture_builtIn_mem`), and types of devices one but for
a single alternative of a single rule (`RuleSet.type_builtIn_mem_iff`).
-/

namespace UserAgent

open Regex Unicode Text

/-! ### Words -/

namespace Regex

/-- Under any folding an ASCII literal matches no ASCII characters but itself and the same letter in
the other case. -/
lemma asciiLower_eq_of_matchesCode {f : Folding} {code c : Nat} (hcode : code < 0x80) (hc : c < 0x80)
    (h : matchesCode f code c = true) : asciiLower c = asciiLower code := by
  have hsiblings : ∀ n < 0x80, ∀ sibling ∈ caseSiblings n, 0x80 ≤ sibling := by
    intro n hn sibling hmem
    simp only [caseSiblings, hn, if_true] at hmem
    split_ifs at hmem <;> simp_all
  rw [matchesCode, List.contains_iff_mem] at h
  cases f with
  | exact =>
    have heq : c = code := List.mem_singleton.mp h
    rw [heq]
  | ascii => exact List.mem_singleton.mp h
  | full =>
    rw [Folding.lower, Folding.lower, lowerCode_of_lt hc, lowerCode_of_lt hcode] at h
    rcases List.mem_cons.mp h with h | h
    · exact h
    · exact absurd (hsiblings _ (asciiLower_lt hcode) _ h) (Nat.not_le.mpr (asciiLower_lt hc))

/-- The ASCII character that a symbol is a literal of. -/
def Symbol.letter? : Symbol → Option Char
  | .char code false _ => if code < 0x80 then some (Char.ofNat code) else none
  | .char _ true _ | .any _ | .set .. => none

/-- The symbol of a letter accepts no ASCII character but this letter. -/
lemma Symbol.sameLetter_of_accepts {y : Symbol} {c d : Char} (hy : y.letter? = some d)
    (hc : c.toNat < 0x80) (h : y.accepts c.toNat = true) : SameLetter c d := by
  cases y with
  | char code negated folding =>
    cases negated with
    | false =>
      rw [letter?] at hy
      split_ifs at hy with hcode
      obtain rfl := Option.some_inj.mp hy
      rw [accepts, Bool.bne_false] at h
      refine .inr ⟨hc, ?_, ?_⟩
      · rwa [toNat_ofNat_of_lt hcode]
      · rw [toNat_ofNat_of_lt hcode]
        exact asciiLower_eq_of_matchesCode hcode hc h
    | true => cases hy
  | any lineBreaks => cases hy
  | set members folding => cases hy

lemma Symbol.forall₂_sameLetter {ys : List Symbol} {cs : List Char}
    (h : List.Forall₂ (fun (y : Symbol) (c : Char) => y.accepts c.toNat = true) ys cs)
    (hys : ∀ y ∈ ys, y.letter?.isSome) (hcs : ∀ c ∈ cs, c.toNat < 0x80) :
    List.Forall₂ SameLetter cs (ys.filterMap letter?) := by
  induction h with
  | nil => exact .nil
  | @cons y c ys cs hyc _ ih =>
    obtain ⟨hy, hys⟩ := List.forall_mem_cons.mp hys
    obtain ⟨hc, hcs⟩ := List.forall_mem_cons.mp hcs
    obtain ⟨d, hd⟩ := Option.isSome_iff_exists.mp hy
    rw [List.filterMap_cons_some hd]
    exact .cons (y.sameLetter_of_accepts hd hc hyc) (ih hys hcs)

namespace Opening

/-- Whether an opening is a whole text of ASCII literals. -/
def isWord (o : Opening) : Bool :=
  o.whole && o.symbols.all fun y => y.letter?.isSome

/-- The ASCII literals of an opening. -/
def word (o : Opening) : String :=
  String.ofList (o.symbols.filterMap Symbol.letter?)

/-- An ASCII text that fits the opening of a word has its letters. -/
lemma sameLetters_word {o : Opening} (ho : o.isWord = true) {s : String}
    (hs : ∀ c ∈ s.toList, c.toNat < 0x80) (h : o.Fits s.toList) : SameLetters s o.word := by
  obtain ⟨hwhole, hsymbols⟩ := Bool.and_eq_true_iff.mp ho
  obtain ⟨start, rest, hlist, hstart, hrest⟩ := h
  rw [hrest hwhole, List.append_nil] at hlist
  rw [SameLetters, word, String.toList_ofList]
  rw [hlist] at hs ⊢
  exact Symbol.forall₂_sameLetter hstart (List.all_eq_true.mp hsymbols) hs

end Opening

end Regex

namespace Pattern

/-- Whether a group captures nothing but words. -/
def isWorded (p : Pattern) (slot : Nat) : Bool :=
  (p.openings slot).all Opening.isWord

/-- The words that a group may capture. -/
def words (p : Pattern) (slot : Nat) : List String :=
  (p.openings slot).map Opening.word

/-- What a worded group captures has the letters of one of its words. -/
lemma exists_sameLetters_word {p : Pattern} {slot : Nat} (hp : p.isWorded slot = true)
    {text : Array Char} (htext : ∀ c ∈ text.toList, c.toNat < 0x80) {m : Match}
    (h : p.search? text = some m) {capture : String} (hcapture : m.word? slot = some capture) :
    ∃ word ∈ p.words slot, SameLetters capture word := by
  obtain ⟨o, ho, hfits⟩ := fits_of_group h hcapture
  obtain ⟨-, hmem⟩ := mem_language_of_group h hcapture
  exact ⟨o.word, List.mem_map_of_mem ho,
    o.sameLetters_word (List.all_eq_true.mp hp o ho) (fun c hc => htext c (hmem c hc)) hfits⟩

end Pattern

/-! ### Values from words -/

/-- Of the built-in transforms, the one with this name gives the lower case. -/
lemma Transforms.function_eq_lower {t : Transform} (h : ∃ token, builtIn.find? token = some t)
    (hname : (t.name == "lowerize") = true) : t.function = .lower := by
  obtain ⟨token, htoken⟩ := h
  have htrim : ("trim" == "lowerize") = false := by decide
  have hnamed : (t.name == "lowerize") = true → t.function = .lower :=
    forall_find?_builtIn (P := fun t => (t.name == "lowerize") = true → t.function = .lower)
      (fun _ => rfl) (fun h => Bool.noConfusion (htrim.symm.trans h)) htoken
  exact hnamed hname

namespace FieldSpec

/-- Whether a specification lowers what it makes of a capture, whose case it does not look at. The
transform is known by its name. -/
def lowers : FieldSpec → Bool
  | transform _ t => t.name == "lowerize"
  | substituteTransform _ s t => t.name == "lowerize" && s.search.node.ignoresCase
  | copy _ | literal _ _ | substitute _ _ | mapped _ _ => false

/-- The transform of a specification, if it has one, is a built-in one. -/
def OfBuiltIn (spec : FieldSpec) : Prop :=
  ∀ t, spec.transform? = some t → ∃ token, Transforms.builtIn.find? token = some t

/-- A specification that lowers gives the same value for the same letters. -/
lemma resolve_eq_of_sameLetters {spec : FieldSpec} (hbuiltIn : spec.OfBuiltIn)
    (hspec : spec.lowers = true) {s t : String} (h : SameLetters s t) :
    spec.resolve (some s) = spec.resolve (some t) := by
  cases spec with
  | transform name f =>
    have happly : f.apply (some s) = f.apply (some t) := by
      rw [Transform.apply, Transform.apply, Transforms.function_eq_lower (hbuiltIn f rfl) hspec]
      exact h.lower_eq
    simpa [resolve] using happly
  | substituteTransform name sub f =>
    obtain ⟨hname, hcase⟩ := Bool.and_eq_true_iff.mp hspec
    have happly : f.apply (some (sub.apply s)) = f.apply (some (sub.apply t)) := by
      rw [Transform.apply, Transform.apply, Transforms.function_eq_lower (hbuiltIn f rfl) hname]
      exact (sub.sameLetters_apply hcase h).lower_eq
    rw [resolve, resolve, onCapture, onCapture, h.isEmpty_eq, happly]
  | copy name | literal name value | substitute name sub | mapped name table => cases hspec

/-- Whether a specification applies a transform with a name to the capture itself. -/
def appliesNamed (token : String) : FieldSpec → Bool
  | transform _ t => t.name == token
  | copy _ | literal _ _ | substitute _ _ | mapped _ _ | substituteTransform _ _ _ => false

lemma resolve_of_appliesNamed {spec : FieldSpec} (hbuiltIn : spec.OfBuiltIn)
    (hspec : spec.appliesNamed "lowerize" = true) (capture : String) :
    spec.resolve (some capture) = lower capture := by
  cases spec with
  | transform name t =>
    have happly : t.apply (some capture) = lower capture := by
      rw [Transform.apply, Transforms.function_eq_lower (hbuiltIn t rfl) hspec]
      rfl
    simpa [resolve] using happly
  | _ => cases hspec

/-- Whether a specification gives nothing but values of a vocabulary for the captures of a slot. -/
def within (vocabulary : List String) (p : Pattern) (slot : Nat) : FieldSpec → Bool
  | literal _ value => vocabulary.contains value
  | spec => spec.lowers && p.isWorded slot && vocabulary.contains (spec.resolve none) &&
      (p.words slot).all fun word => vocabulary.contains (spec.resolve (some word))

end FieldSpec

namespace Rule

/-- Whether a match of a pattern of the rule gives a field nothing but values of a vocabulary. -/
def within (vocabulary : List String) (r : Rule) (field : String) (p : Pattern) : Bool :=
  match r.source? field with
  | some source => source.1.within vocabulary p source.2
  | none => vocabulary.contains unset

/-- In an ASCII text a field has a value of the vocabulary that its rule keeps within. -/
theorem setting_mem_of_within {r : Rule} (hbuiltIn : ∀ spec ∈ r.fields, spec.OfBuiltIn)
    {field : String} {vocabulary : List String} {p : Pattern}
    (hr : r.within vocabulary field p = true) {text : Array Char}
    (htext : ∀ c ∈ text.toList, c.toNat < 0x80) {m : Match} (h : p.search? text = some m) :
    r.setting m field ∈ vocabulary := by
  rw [within] at hr
  rw [setting_eq]
  cases hsource : r.source? field with
  | none =>
    rw [hsource] at hr
    exact List.contains_iff_mem.mp hr
  | some source =>
    have hofBuiltIn := hbuiltIn _ (mem_fields_of_source? hsource)
    obtain ⟨spec, slot⟩ := source
    rw [hsource] at hr
    show spec.resolve (m.word? slot) ∈ vocabulary
    -- A constant is one of the values; else the capture is absent or a word in some case.
    have hcaptured : (spec.lowers && p.isWorded slot && vocabulary.contains (spec.resolve none) &&
        (p.words slot).all fun word => vocabulary.contains (spec.resolve (some word))) = true →
          spec.resolve (m.word? slot) ∈ vocabulary := by
      intro hspec
      simp only [Bool.and_eq_true] at hspec
      obtain ⟨⟨⟨hlowers, hworded⟩, hnone⟩, hwords⟩ := hspec
      cases hword : m.word? slot with
      | none => exact List.contains_iff_mem.mp hnone
      | some capture =>
        obtain ⟨word, hmem, hletters⟩ := Pattern.exists_sameLetters_word hworded htext h hword
        rw [FieldSpec.resolve_eq_of_sameLetters hofBuiltIn hlowers hletters]
        exact List.contains_iff_mem.mp (List.all_eq_true.mp hwords word hmem)
    cases spec with
    | literal name value => exact List.contains_iff_mem.mp hr
    | copy _ | transform _ _ | substitute _ _ | mapped _ _ | substituteTransform _ _ _ =>
      exact hcaptured hr

end Rule

namespace RuleSet

lemma BuiltIn.ofBuiltIn_of_mem {c : Category} {rule : Rule} (hrule : rule ∈ builtIn.group c) :
    ∀ spec ∈ rule.fields, spec.OfBuiltIn :=
  fun _ hspec _ ht => exists_find?_of_mem hrule hspec ht

/-! ### Architectures -/

/-- The architectures that the built-in rules tell apart. -/
def architectures : List String :=
  ["amd64", "ia32", "arm64", "armhf", "arm", "ppc", "ppc64", "sparc", "sparc64", "avr32", "ia64",
    "68k", "irix", "irix64", "mips", "mips64", "pa-risc"]

lemma BuiltIn.within_architectures : ∀ rule ∈ builtIn.group .cpu,
    rule.patterns.all (rule.within (unset :: architectures) "architecture") := by
  refine forall_rules ?_
  decide +kernel

/-- Under the built-in rules the architecture that an ASCII text tells is unset or one of the known
ones. -/
theorem architecture_builtIn_mem {u : String} (hu : ∀ c ∈ u.toList, c.toNat < 0x80) :
    ∃ architecture ∈ unset :: architectures,
      Assoc.get? "architecture" (builtIn.record u .cpu).value = some architecture := by
  have hrecord : (builtIn.record u .cpu).value =
      ((builtIn.group .cpu).classify Category.cpu.fields u).value := rfl
  rw [hrecord]
  rcases RuleGroup.noMatch_or_firstMatch (builtIn.group .cpu) u.toList.toArray with
    hnone | ⟨i, j, rule, m, hfirst⟩
  · refine ⟨unset, List.mem_cons_self, ?_⟩
    rw [RuleGroup.value_classify_of_noMatch hnone]
    decide
  · obtain ⟨hrule, p, hp, -, hm⟩ := hfirst.exists_pattern
    have hwithin := List.all_eq_true.mp (BuiltIn.within_architectures rule hrule) p hp
    have hsetting := Rule.setting_mem_of_within (BuiltIn.ofBuiltIn_of_mem hrule) hwithin hu hm
    exact ⟨rule.setting m "architecture", hsetting,
      RuleGroup.get?_classify_of_firstMatch hfirst (by decide)⟩

theorem architecture_builtIn_powerPC :
    (∀ c ∈ "PowerPC;".toList, c.toNat < 0x80) ∧
      ∃ architecture ∈ unset :: architectures,
        Assoc.get? "architecture" (builtIn.record "PowerPC;" .cpu).value = some architecture := by
  have hascii : ∀ c ∈ "PowerPC;".toList, c.toNat < 0x80 := by simp
  exact ⟨hascii, architecture_builtIn_mem hascii⟩

/-! ### Types of devices -/

/-- The types of devices that the built-in rules tell apart. -/
def deviceTypes : List String :=
  ["mobile", "tablet", "smarttv", "console", "wearable", "embedded"]

/-- The body of the pattern for tablets that are not known better. Its capture is the type. -/
def tabletToken : String := "\\b(tablet|tab)[;\\/]"

/-- Whether a pattern of a rule captures one of the words of `tabletToken`, and the rule lowers it. -/
def BuiltIn.lowersTablet (rule : Rule) (p : Pattern) : Bool :=
  ((rule.source? "type").any fun source => source.1.appliesNamed "lowerize" && source.2 == 0) &&
    p.alwaysCaptures 0 && p.isWorded 0 && decide (p.words 0 = ["tablet", "tab"])

lemma BuiltIn.within_deviceTypes : ∀ rule ∈ builtIn.group .device, rule.patterns.all fun p =>
    if p.body = tabletToken then BuiltIn.lowersTablet rule p
    else rule.within (unset :: deviceTypes) "type" p := by
  refine forall_rules ?_
  decide +kernel

/-- The rule for tablets gives one of its two words, in small letters. -/
lemma BuiltIn.exists_tablet_word {rule : Rule} (hbuiltIn : ∀ spec ∈ rule.fields, spec.OfBuiltIn)
    {p : Pattern} (hp : lowersTablet rule p = true) {text : Array Char}
    (htext : ∀ c ∈ text.toList, c.toNat < 0x80) {m : Match}
    (h : p.search? text = some m) : ∃ word, m.word? 0 = some word ∧
      (lower word = "tablet" ∨ lower word = "tab") ∧ rule.setting m "type" = lower word := by
  simp only [lowersTablet, Bool.and_eq_true, decide_eq_true_eq] at hp
  obtain ⟨⟨⟨hsource, hcaptures⟩, hworded⟩, hwords⟩ := hp
  obtain ⟨word, hword⟩ := Pattern.exists_word hcaptures h
  obtain ⟨w, hw, hletters⟩ := Pattern.exists_sameLetters_word hworded htext h hword
  refine ⟨word, hword, ?_, ?_⟩
  · rw [hletters.lower_eq]
    rw [hwords] at hw
    have htablet : lower "tablet" = "tablet" := lower_eq_self (by simp [asciiLower])
    have htab : lower "tab" = "tab" := lower_eq_self (by simp [asciiLower])
    rcases List.mem_pair.mp hw with rfl | rfl
    · exact .inl htablet
    · exact .inr htab
  · obtain ⟨⟨spec, slot⟩, hsource, hspec⟩ := (Option.any_eq_true _ _).mp hsource
    obtain ⟨happlies, hslot⟩ := Bool.and_eq_true_iff.mp hspec
    obtain rfl : slot = 0 := beq_iff_eq.mp hslot
    rw [Rule.setting_eq, hsource, Option.map_some, Option.getD_some, hword]
    exact FieldSpec.resolve_of_appliesNamed (hbuiltIn _ (Rule.mem_fields_of_source? hsource))
      happlies word

/-- The type of a raw record is unset or one of the known ones, unless it is a word of `tabletToken`. -/
lemma BuiltIn.type_rawRecord_cases {u : String} (hu : ∀ c ∈ u.toList, c.toNat < 0x80) :
    ((builtIn.rawRecord u .device).value.value "type" ∈ unset :: deviceTypes ∧
      ∀ word, ¬ (builtIn.group .device).Takes u.toList.toArray tabletToken 0 word) ∨
    ∃ word, (∀ word', (builtIn.group .device).Takes u.toList.toArray tabletToken 0 word' ↔
        word' = word) ∧ (lower word = "tablet" ∨ lower word = "tab") ∧
      (builtIn.rawRecord u .device).value.value "type" = lower word := by
  rcases RuleGroup.noMatch_or_firstMatch (builtIn.group .device) u.toList.toArray with
    hnone | ⟨i, j, rule, m, hfirst⟩
  · refine .inl ⟨?_, fun word => hnone.not_takes⟩
    rw [rawRecord, RuleGroup.value_classify_of_noMatch hnone]
    decide
  · obtain ⟨hrule, p, hp, hj, hm⟩ := hfirst.exists_pattern
    have hcheck := List.all_eq_true.mp (within_deviceTypes rule hrule) p hp
    rw [value_rawRecord_of_firstMatch hfirst (by decide)]
    -- The pattern for tablets publishes its capture; every other one gives a type of the list.
    split_ifs at hcheck with hbody
    · obtain ⟨word, hword, hlower, hsetting⟩ := exists_tablet_word (ofBuiltIn_of_mem hrule) hcheck hu hm
      refine .inr ⟨word, fun word' => ?_, hlower, hsetting⟩
      rw [hfirst.takes_iff hj, hword, Option.some_inj]
      exact ⟨fun h => h.2.symm, fun h => ⟨hbody, h.symm⟩⟩
    · have hsetting := Rule.setting_mem_of_within (ofBuiltIn_of_mem hrule) hcheck hu hm
      refine .inl ⟨hsetting, fun word h => ?_⟩
      exact hbody ((hfirst.takes_iff hj).mp h).1

/-- Under the built-in rules the type that an ASCII text tells of a device is unset or one of the known
ones, unless the first match is one of `tabletToken` by its shorter word: then that word is the type. -/
theorem type_builtIn_mem_iff {u : String} (hu : ∀ c ∈ u.toList, c.toNat < 0x80) :
    ((∃ type ∈ unset :: deviceTypes,
        Assoc.get? "type" (builtIn.record u .device).value = some type) ↔
      ∀ word, (builtIn.group .device).Takes u.toList.toArray tabletToken 0 word →
        lower word ≠ "tab") ∧
    ∀ word, (builtIn.group .device).Takes u.toList.toArray tabletToken 0 word → lower word = "tab" →
      Assoc.get? "type" (builtIn.record u .device).value = some "tab" := by
  have hfields := builtIn.hasFields_rawRecord u .device
  have hget : Assoc.get? "type" (builtIn.record u .device).value =
      some (if (builtIn.rawRecord u .device).value.value "type" = unset ∧
          (builtIn.record u .os).value.isAndroid = true then Record.androidType
        else (builtIn.rawRecord u .device).value.value "type") := by
    rw [record_device, (hfields.refineDevice _).get?_eq (by decide),
      (Record.value_refineDevice hfields _).1]
  rw [hget]
  rcases BuiltIn.type_rawRecord_cases hu with ⟨hmem, htakes⟩ | ⟨word, htakes, hlower, htype⟩
  · refine ⟨⟨fun _ word h => absurd h (htakes word), fun _ => ⟨_, ?_, rfl⟩⟩, fun word h =>
      absurd h (htakes word)⟩
    split_ifs
    · decide
    · exact hmem
  · -- The word is not empty, so Android does not tell the type.
    have hset : lower word ≠ unset := by
      rcases hlower with h | h
      · rw [h]
        decide
      · rw [h]
        decide
    simp only [htype, hset, false_and, if_false, htakes, forall_eq, Option.some_inj]
    rcases hlower with h | h
    · simp only [h]
      decide
    · simp only [h]
      decide

lemma BuiltIn.type_tab : Assoc.get? "type" (builtIn.record "Tab;" .device).value = some "tab" := by
  rw [record_tokens.2.1]
  rfl

theorem type_builtIn_takesTab :
    (∀ c ∈ "Tab;".toList, c.toNat < 0x80) ∧
      ∃ word, (builtIn.group .device).Takes "Tab;".toList.toArray tabletToken 0 word ∧
        lower word = "tab" := by
  have hascii : ∀ c ∈ "Tab;".toList, c.toNat < 0x80 := by simp
  refine ⟨hascii, ?_⟩
  by_contra htakes
  push Not at htakes
  obtain ⟨type, hmem, htype⟩ := (type_builtIn_mem_iff hascii).1.mpr htakes
  obtain rfl : "tab" = type := Option.some_inj.mp (BuiltIn.type_tab.symm.trans htype)
  exact absurd hmem (by decide)

/-- The shorter word is published as a type. -/
theorem type_builtIn_tab :
    (∀ c ∈ "Tab;".toList, c.toNat < 0x80) ∧
      Assoc.get? "type" (builtIn.record "Tab;" .device).value = some "tab" ∧
      "tab" ∉ unset :: deviceTypes :=
  ⟨by simp, BuiltIn.type_tab, by decide⟩

end RuleSet

end UserAgent
