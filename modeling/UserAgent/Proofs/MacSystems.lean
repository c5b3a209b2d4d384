import UserAgent.Proofs.SystemPatterns

/-!
# Mac OS by name

One of the built-in rules gives the name of Mac OS. Where the search comes to it, it takes the user
agents that name Mac OS X, and those that name a Macintosh with no Haiku after it, and no others
(`RuleSet.macOs_builtIn_iff`). The name that a Mac with the processor Power PC has elsewhere is not
enough: the alternative for it looks ahead to an underscore and then reads white space, so it has no way
(`RuleSet.not_way_powerPcNode`).
-/

namespace UserAgent

open Regex

/-! ### What a text names -/

namespace Text

/-- A text names Mac OS X, with any white space between the words. -/
def NamesMacOsX (cs : List Char) : Prop :=
  Symbol.OccurIn RuleSet.macOsXName cs

/-- A text begins with a line that goes on, after at least one character, to name Haiku. -/
def GoesOnToHaiku (cs : List Char) : Prop :=
  ∃ line token rest, cs = line ++ token ++ rest ∧ line ≠ [] ∧ '\n' ∉ line ∧
    Symbol.Spell (Symbol.word "haiku") token

/-- A text names a Macintosh somewhere, and does not go on to Haiku there. -/
def NamesMacintosh (cs : List Char) : Prop :=
  ∃ before token after, cs = before ++ token ++ after ∧
    Symbol.Spell (Symbol.word "macintosh") token ∧ ¬ GoesOnToHaiku after

/-- A text names a Mac with the processor Power PC, and does not name Haiku after that. -/
def NamesPowerPc (cs : List Char) : Prop :=
  ∃ before token after, cs = before ++ token ++ after ∧
    Symbol.Spell (Symbol.word "mac_powerpc") token ∧ ¬ Symbol.OccurIn (Symbol.word "haiku") after

end Text

namespace RuleSet

variable {text : Array Char} {s t : State}

/-! ### Ways of the patterns -/

lemma exhaustive_macOsXNode : macOsXNode.exhaustive = true := by
  simp [macOsXNode, Node.exhaustive, Node.advances, Node.exhaustive_ofSymbols, Symbol.blank,
    Symbol.ofKind, Symbol.node]

lemma exhaustive_haikuNode : haikuNode.exhaustive = true := by
  simp [haikuNode, Node.exhaustive, Node.advances, Node.exhaustive_ofSymbols]

/-- None of the three patterns keeps a repetition from taking rounds back. -/
lemma exhaustive_macintoshNode : macintoshNode.exhaustive = true := by
  have hpowerPc : powerPcNode.exhaustive = true := by
    refine Node.exhaustive_ofSequence (List.forall_mem_append.mpr ⟨?_, ?_⟩)
    · exact List.forall_mem_map.mpr fun y _ => y.exhaustive_node
    · simp [Node.exhaustive, Node.exhaustive_ofSymbols, Symbol.exhaustive_node]
  simp [macintoshNode, Node.exhaustive, Node.exhaustive_ofSymbols, hpowerPc, exhaustive_haikuNode]

/-- A way through the first pattern begins where the name is spelled out. -/
lemma exists_way_macOsXNode : (∃ t, macOsXNode.Way text s t) ↔
    ∃ cs, Symbol.Spell macOsXName cs ∧ cs <+: text.toList.drop s.pos := by
  constructor
  · rintro ⟨t, u, ⟨v, hv, rfl⟩, -⟩
    obtain ⟨cs, hcs, hstarts, -⟩ := Node.way_ofSymbols_iff.mp hv
    exact ⟨cs, hcs, hstarts⟩
  · -- Nothing has to follow the name.
    rintro ⟨cs, hcs, hstarts⟩
    have hname := Node.way_ofSymbols_iff.mpr ⟨cs, hcs, hstarts, rfl⟩
    exact ⟨_, _, ⟨_, hname, rfl⟩, _, ⟨0, by simp, .zero _⟩, _, ⟨0, by simp, .zero _⟩, rfl⟩

/-- A way through the condition begins where the text goes on to the other system. -/
lemma exists_way_haikuNode : (∃ t, haikuNode.Way text s t) ↔
    Text.GoesOnToHaiku (text.toList.drop s.pos) := by
  constructor
  · rintro ⟨t, u, ⟨extra, -, hsteps⟩, hword⟩
    obtain ⟨line, hlength, hline, hstarts, rfl⟩ := Symbol.steps_reads_iff.mp hsteps
    obtain ⟨token, htoken, hstarts', -⟩ := Node.way_ofSymbols_iff.mp hword
    rw [← hlength] at hstarts'
    obtain ⟨rest, hrest⟩ := append_prefix_drop_iff.mpr ⟨hstarts, hstarts'⟩
    refine ⟨line, token, rest, hrest.symm, ?_, fun hmem => ?_, htoken⟩
    · rintro rfl
      rw [List.length_nil] at hlength
      omega
    · have hbreak := hline _ hmem
      simp [Symbol.accepts] at hbreak
  · rintro ⟨line, token, rest, hrest, hne, hline, htoken⟩
    obtain ⟨hstarts, hstarts'⟩ := append_prefix_drop_iff.mp ⟨rest, hrest.symm⟩
    obtain ⟨extra, hextra⟩ : ∃ extra, line.length = 1 + extra :=
      ⟨line.length - 1, by have := List.length_pos_iff.mpr hne; omega⟩
    have hsteps : Steps ((Symbol.any false).Reads text) (1 + extra) s
        { s with pos := s.pos + (1 + extra) } := by
      refine Symbol.steps_reads_iff.mpr ⟨line, hextra, fun c hc => ?_, hstarts, rfl⟩
      have hne : c ≠ '\n' := ne_of_mem_of_not_mem hc hline
      simpa [Symbol.accepts, ← Char.toNat_inj] using hne
    rw [hextra] at hstarts'
    exact ⟨_, _, ⟨extra, by simp, hsteps⟩, Node.way_ofSymbols_iff.mpr ⟨token, htoken, hstarts', rfl⟩⟩

/-- Nothing is both an underscore and white space. -/
lemma not_way_powerPcNode : ¬ powerPcNode.Way text s t := by
  intro h
  obtain ⟨u, -, hlook⟩ := Node.way_ofSequence_append_iff.mp h
  have hexact : Folding.full.forCode '_'.toNat = .exact := rfl
  refine Node.not_way_lookahead (y := .letter '_') (z := .blank) (fun n hn => ?_)
    (Symbol.word "powerpc") hlook
  rw [Symbol.letter, hexact] at hn
  have hcode : n = '_'.toNat := by
    simpa [Symbol.accepts, matchesCode, Folding.variants, Folding.lower] using hn
  rw [hcode, Symbol.blank, Symbol.accepts_ofKind]
  rfl

/-- A way through the second pattern begins where its word is spelled out and the text does not go
on to the other system. -/
lemma exists_way_macintoshNode : (∃ t, macintoshNode.Way text s t) ↔
    ∃ cs, Symbol.Spell (Symbol.word "macintosh") cs ∧ cs <+: text.toList.drop s.pos ∧
      ¬ Text.GoesOnToHaiku (text.toList.drop (s.pos + cs.length)) := by
  have hhaiku : ∀ u : State, haikuNode.run text some u = none ↔
      ¬ Text.GoesOnToHaiku (text.toList.drop u.pos) := fun u => by
    rw [Node.run_eq_none_iff exhaustive_haikuNode, ← not_exists, exists_way_haikuNode]
  constructor
  · rintro ⟨t, u, ⟨v, hv, rfl⟩, rfl, hlook⟩
    obtain ⟨cs, hcs, hstarts, rfl⟩ := Node.way_ofSymbols_iff.mp (hv.resolve_right not_way_powerPcNode)
    refine ⟨cs, hcs, hstarts, ?_⟩
    rw [← hcs.length_eq]
    exact (hhaiku _).mp (hlook (Nat.zero_le _))
  · rintro ⟨cs, hcs, hstarts, hnot⟩
    rw [← hcs.length_eq] at hnot
    have hname := Node.way_ofSymbols_iff.mpr ⟨cs, hcs, hstarts, rfl⟩
    exact ⟨_, _, ⟨_, .inl hname, rfl⟩, rfl, fun _ => (hhaiku _).mpr hnot⟩

/-! ### Matches of the patterns -/

lemma isSome_search?_macOsX {p : Pattern} (hp : p.node = macOsXNode) :
    (p.search? text).isSome ↔ Text.NamesMacOsX text.toList := by
  rw [Pattern.isSome_search?_iff (hp ▸ exhaustive_macOsXNode), hp, Text.NamesMacOsX,
    Symbol.occurIn_iff]
  exact exists_congr fun pos => and_congr_right fun _ => exists_way_macOsXNode

/-- The second pattern is found exactly in the texts that name a Macintosh. -/
lemma isSome_search?_macintosh {p : Pattern} (hp : p.node = macintoshNode) :
    (p.search? text).isSome ↔ Text.NamesMacintosh text.toList := by
  rw [Pattern.isSome_search?_iff (hp ▸ exhaustive_macintoshNode), hp]
  refine Iff.trans ?_ Symbol.exists_split_iff.symm
  exact exists_congr fun pos => and_congr_right fun _ => exists_way_macintoshNode

/-! ### The name -/

/-- The rule is known by its patterns and by the name that it gives. -/
lemma BuiltIn.isMacOs_iff {rule : Rule} : isMacOs rule = true ↔
    (∃ p p', rule.patterns = [p, p'] ∧ (p.body = macOsXPattern ∧ p.node = macOsXNode) ∧
      p'.body = macintoshPattern ∧ p'.node = macintoshNode) ∧
    rule.source? "name" = some (.literal "name" "Mac OS", 0) := by
  simp only [isMacOs, Bool.and_eq_true, decide_eq_true_eq, List.map_eq_cons_iff, List.map_eq_nil_iff,
    Prod.mk.injEq]
  refine and_congr_left fun _ => ⟨?_, ?_⟩
  · rintro ⟨p, _, hpatterns, hp, p', _, rfl, hp', rfl⟩
    exact ⟨p, p', hpatterns, hp, hp'⟩
  · rintro ⟨p, p', hpatterns, hp, hp'⟩
    exact ⟨p, _, hpatterns, hp, p', _, rfl, hp', rfl⟩

/-- The rule for Mac OS gives its name, whichever of its patterns matches. -/
lemma BuiltIn.setting_of_isMacOs {rule : Rule} (h : isMacOs rule = true) (m : Match) :
    rule.setting m "name" = "Mac OS" := by
  rw [Rule.setting_eq, (isMacOs_iff.mp h).2]
  rfl

section

variable {r : RuleSet} (hr : ∀ rule ∈ r.group .os, BuiltIn.isMacOs rule ||
  rule.patterns.all fun p => rule.avoids "Mac OS" "name" p && p.body != macOsXPattern) {u : String}

include hr

/-- No other rule gives the name of Mac OS. -/
lemma names_of_name_eq_macOs (hname : (r.rawRecord u .os).value.value "name" = "Mac OS") :
    Text.NamesMacOsX u.toList ∨ Text.NamesMacintosh u.toList := by
  rcases RuleGroup.noMatch_or_firstMatch (r.group .os) u.toList.toArray with
    hnone | ⟨i, j, rule, m, hfirst⟩
  · rw [rawRecord, RuleGroup.value_classify_of_noMatch hnone] at hname
    exact absurd hname (by decide)
  · obtain ⟨hrule, p, hp, -, hm⟩ := hfirst.exists_pattern
    have hsome : (p.search? u.toList.toArray).isSome := by
      rw [hm]
      rfl
    rcases Bool.or_eq_true_iff.mp (hr rule hrule) with hmac | havoids
    · obtain ⟨⟨p₁, p₂, hpatterns, ⟨-, hnode₁⟩, -, hnode₂⟩, -⟩ := BuiltIn.isMacOs_iff.mp hmac
      rw [hpatterns] at hp
      rcases List.mem_pair.mp hp with rfl | rfl
      · exact .inl ((isSome_search?_macOsX hnode₁).mp hsome)
      · exact .inr ((isSome_search?_macintosh hnode₂).mp hsome)
    · have hp := (Bool.and_eq_true_iff.mp (List.all_eq_true.mp havoids p hp)).1
      have hbegins := Rule.not_beginsWith_of_avoids hp hm
      rw [← value_rawRecord_of_firstMatch hfirst (by decide), hname] at hbegins
      exact absurd (Text.BeginsWith.refl _) hbegins

/-- Where the search comes to the rule for Mac OS and one of its patterns matches, the system has that
name. -/
lemma name_eq_macOs_of_names (h : (r.group .os).ComesTo u.toList.toArray macOsXPattern)
    (hnames : Text.NamesMacOsX u.toList ∨ Text.NamesMacintosh u.toList) :
    (r.rawRecord u .os).value.value "name" = "Mac OS" := by
  obtain ⟨i, j, rule, p, hi, hj, hbody, hbefore⟩ := h
  have hcheck := hr rule (List.mem_of_getElem? hi)
  have hmac : BuiltIn.isMacOs rule = true := by
    refine (Bool.or_eq_true_iff.mp hcheck).resolve_right fun havoids => ?_
    have hp := List.all_eq_true.mp havoids p (List.mem_of_getElem? hj)
    simp [hbody] at hp
  obtain ⟨⟨p₁, p₂, hpatterns, ⟨-, hnode₁⟩, -, hnode₂⟩, -⟩ := BuiltIn.isMacOs_iff.mp hmac
  -- The search comes to the first pattern of the rule, so no rule before it has a match.
  have hearlier : ∀ (i' : Nat) (rule' : Rule), (r.group .os)[i']? = some rule' → i' < i →
      rule'.NoMatch u.toList.toArray := by
    intro i' rule' hrule' hlt p' hp'
    obtain ⟨j', hj'⟩ := List.mem_iff_getElem?.mp hp'
    exact hbefore i' j' rule' p' hrule' hj' (.inl hlt)
  obtain ⟨m, hm⟩ : ∃ m, rule.search? u.toList.toArray = some m := by
    refine Option.ne_none_iff_exists'.mp fun h => ?_
    have hnone := Rule.search?_eq_none_iff.mp h
    rcases hnames with hx | hmacintosh
    · have hsome : (p₁.search? u.toList.toArray).isSome := (isSome_search?_macOsX hnode₁).mpr hx
      rw [hnone p₁ (by simp [hpatterns])] at hsome
      cases hsome
    · have hsome : (p₂.search? u.toList.toArray).isSome :=
        (isSome_search?_macintosh hnode₂).mpr hmacintosh
      rw [hnone p₂ (by simp [hpatterns])] at hsome
      cases hsome
  obtain ⟨j', hfirst⟩ := RuleGroup.firstMatch?_eq_some_iff.mp
    (RuleGroup.firstMatch?_eq_some_iff_search?.mpr ⟨hi, hm, hearlier⟩)
  rw [value_rawRecord_of_firstMatch hfirst (by decide), BuiltIn.setting_of_isMacOs hmac]

end

/-- Where the search of the built-in rules comes to the one for Mac OS, the system has that name exactly
if Mac OS X is named, or a Macintosh that does not go on to Haiku. -/
theorem macOs_builtIn_iff {u : String}
    (h : (builtIn.group .os).ComesTo u.toList.toArray macOsXPattern) :
    Assoc.get? "name" (builtIn.record u .os).value = some "Mac OS" ↔
      Text.NamesMacOsX u.toList ∨ Text.NamesMacintosh u.toList := by
  rw [get?_record_os builtIn u (by decide), Option.some_inj]
  exact ⟨names_of_name_eq_macOs BuiltIn.systems_seen.macOs,
    name_eq_macOs_of_names BuiltIn.systems_seen.macOs h⟩

theorem macOs_builtIn_macintosh :
    (builtIn.group .os).ComesTo macintoshAgent.toList.toArray macOsXPattern ∧
      Text.NamesMacintosh macintoshAgent.toList ∧
      Assoc.get? "name" (builtIn.record macintoshAgent .os).value = some "Mac OS" := by
  have hcomes := BuiltIn.systems_seen.comesTo_macintosh
  have hnames : Text.NamesMacintosh macintoshAgent.toList := by
    refine ⟨"Mac_PowerPC; ".toList, "Macintosh".toList, [], by simp [macintoshAgent], ?_, ?_⟩
    · refine (Symbol.spell_word_iff (by simp) (by simp)).mpr ?_
      simp [Text.SameLetters, Text.SameLetter, Unicode.asciiLower]
    · rintro ⟨line, token, rest, hnil, hne, -⟩
      simp [hne] at hnil
  exact ⟨hcomes, hnames, (macOs_builtIn_iff hcomes).mpr (.inr hnames)⟩

/-- The name of a Mac with the processor Power PC alone does not tell the system. -/
theorem macOs_builtIn_powerPc :
    Text.NamesPowerPc powerPcAgent.toList ∧
      (builtIn.group .os).ComesTo powerPcAgent.toList.toArray macOsXPattern ∧
      Assoc.get? "name" (builtIn.record powerPcAgent .os).value = some "" := by
  have hnames : Text.NamesPowerPc powerPcAgent.toList := by
    refine ⟨[], powerPcAgent.toList, [], by simp, ?_, ?_⟩
    · refine (Symbol.spell_word_iff (by simp) (by simp [powerPcAgent])).mpr ?_
      simp [powerPcAgent, Text.SameLetters, Text.SameLetter, Unicode.asciiLower]
    · rintro ⟨token, htoken, hpart⟩
      rw [List.infix_nil] at hpart
      have hlength := htoken.length_eq
      simp [hpart, Symbol.word] at hlength
  refine ⟨hnames, BuiltIn.systems_seen.comesTo_powerPc, ?_⟩
  rw [get?_record_os builtIn powerPcAgent (by decide), BuiltIn.systems_seen.name_powerPc]

end RuleSet

end UserAgent
