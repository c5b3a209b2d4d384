import UserAgent.Proofs.MappingTables
import UserAgent.Proofs.RefinedBrowsers

/-!
# Slashes in versions

A product token separates the version of a browser from its name by a slash. A rule gives a field no
value with a character if the group that it copies accepts it nowhere
(`Rule.not_mem_setting_of_excludes`). All built-in rules for browsers keep the slash out of the version
in this way but one, which looks up the build of an old Safari together with its slash: there a build
that the table does not know is the version as it stands (`RuleSet.slash_version_builtIn_iff`).
-/

namespace UserAgent

open Regex

/-! ### Characters that a field does not have -/

namespace FieldSpec

/-- Whether a specification gives no value with a character for the captures of a slot. -/
def excludes (c : Char) (p : Pattern) (slot : Nat) : FieldSpec → Bool
  | copy _ => p.excludes c slot
  | literal _ value => !value.toList.contains c
  | transform _ _ | substitute _ _ | mapped _ _ | substituteTransform _ _ _ => false

end FieldSpec

namespace Rule

variable {r : Rule} {p : Pattern} {text : Array Char} {m : Match} {field : String} {c : Char}

/-- Whether a match of a pattern of the rule gives a field no value with a character. -/
def excludes (c : Char) (r : Rule) (field : String) (p : Pattern) : Bool :=
  match r.source? field with
  | some source => source.1.excludes c p source.2
  | none => true

theorem not_mem_setting_of_excludes (hr : r.excludes c field p = true) (h : p.search? text = some m) :
    c ∉ (r.setting m field).toList := by
  rw [excludes] at hr
  rw [setting_eq]
  cases hsource : r.source? field with
  | none => simp [unset]
  | some source =>
    obtain ⟨spec, slot⟩ := source
    rw [hsource] at hr
    show c ∉ (spec.resolve (m.word? slot)).toList
    cases spec with
    | copy name =>
      rw [FieldSpec.resolve_copy]
      cases hword : m.word? slot with
      | none => simp [unset]
      | some word => exact Pattern.not_mem_of_excludes hr h hword
    | literal name value => simpa [FieldSpec.excludes, FieldSpec.resolve] using hr
    | transform _ _ | substitute _ _ | mapped _ _ | substituteTransform _ _ _ => cases hr

end Rule

/-! ### Lookups without a trigger -/

namespace MappingTable

/-- No trigger of the table occurs in a value. -/
def Untriggered (t : MappingTable) (value : String) : Prop :=
  ∀ entry ∈ t.entries, ∀ trigger ∈ entry.2, triggeredBy value trigger = false

/-- A value is looked up as itself if it has no trigger, and else as one of the labels. -/
lemma lookup_cases (t : MappingTable) (value : String) :
    (t.Untriggered value ∧ t.lookup value = value) ∨
      (¬ t.Untriggered value ∧ ∃ entry ∈ t.entries, t.lookup value = entry.1) := by
  rcases t.lookup_cases_split value with
    ⟨before, label, triggers, after, hsplit, hany, -, hlookup⟩ | ⟨hnone, hlookup⟩
  · have hentry : (label, triggers) ∈ t.entries := by simp [hsplit]
    refine .inr ⟨fun huntriggered => ?_, (label, triggers), hentry, hlookup⟩
    obtain ⟨trigger, htrigger, htriggered⟩ := List.any_eq_true.mp hany
    rw [huntriggered _ hentry trigger htrigger] at htriggered
    cases htriggered
  · refine .inl ⟨fun entry hentry trigger htrigger => ?_, hlookup⟩
    simpa using List.any_eq_false.mp (hnone entry hentry) trigger htrigger

end MappingTable

/-! ### Built-in rules -/

namespace RuleSet

/-- Refinement leaves the version of a browser as it is. -/
lemma get?_version_record (r : RuleSet) (u : String) :
    Assoc.get? "version" (r.record u .browser).value =
      some ((r.rawRecord u .browser).value.value "version") :=
  (Record.get?_version_refineBrowser _).trans
    ((r.hasFields_rawRecord u .browser).get?_eq (by decide))

lemma value_version_record (r : RuleSet) (u : String) :
    (r.record u .browser).value.value "version" =
      (r.rawRecord u .browser).value.value "version" := by
  rw [Record.value, get?_version_record, Option.getD_some]

/-- The body of the pattern for a Safari that tells its build and not its version. The build is captured
with its slash. -/
def safariBuild : String := "webkit.+?(mobile\\s?safari|safari)(\\/[\\w\\.]+)"

/-- Whether a rule looks its version up among the builds of Safari, by a capture that begins with a
slash. -/
def BuiltIn.looksUpBuild (rule : Rule) (p : Pattern) : Bool :=
  decide (rule.source? "version" = some (.mapped "version" .safari, 1)) &&
    (p.openings 1).all fun o => decide (o.symbols.head? = some (.char '/'.toNat false .exact))

/-- A user agent that tells the build of a Safari from before its first version. -/
def earlySafari : String := "AppleWebKit/60 Safari/60"

/-- What the rules for browsers do with slashes, and the version that they give one user agent. They are
compiled once for both. -/
lemma BuiltIn.slashes_seen : (∀ rule ∈ builtIn.group .browser, rule.patterns.all fun p =>
      if p.body = safariBuild then BuiltIn.looksUpBuild rule p else rule.excludes '/' "version" p) ∧
    (builtIn.rawRecord earlySafari .browser).value.value "version" = "/60" := by
  have hseen := test_group .browser (fun group => (group.all fun rule => rule.patterns.all fun p =>
      if p.body = safariBuild then looksUpBuild rule p else rule.excludes '/' "version" p) &&
    decide ((group.classify Category.browser.fields earlySafari).value.value "version" = "/60"))
    (by decide +kernel)
  obtain ⟨hrules, hversion⟩ := Bool.and_eq_true_iff.mp hseen
  exact ⟨List.all_eq_true.mp hrules, of_decide_eq_true hversion⟩

lemma BuiltIn.slash_not_mem_label : ∀ entry ∈ MappingTable.safari.entries, '/' ∉ entry.1.toList := by
  have hentries : MappingTable.safari.entries = [("1.0", ["/8"]), ("1.2", ["/1"]), ("1.3", ["/3"]),
      ("2.0", ["/412"]), ("2.0.2", ["/416"]), ("2.0.3", ["/417"]), ("2.0.4", ["/419"])] := rfl
  simp [hentries]

/-- A rule that looks up a build gives a version only for a capture, which has a slash. -/
lemma BuiltIn.version_of_build {rule : Rule} {p : Pattern} (hp : looksUpBuild rule p = true)
    {text : Array Char} {m : Match} (h : p.search? text = some m) :
    (m.word? 1 = none ∧ rule.setting m "version" = unset) ∨
      ∃ build, m.word? 1 = some build ∧ '/' ∈ build.toList ∧
        rule.setting m "version" = MappingTable.safari.lookup build := by
  obtain ⟨hsource, hslash⟩ := Bool.and_eq_true_iff.mp hp
  rw [Rule.setting_eq, of_decide_eq_true hsource, Option.map_some, Option.getD_some,
    FieldSpec.resolve, FieldSpec.onCapture_eq]
  cases hword : m.word? 1 with
  | none => exact .inl ⟨rfl, rfl⟩
  | some build =>
    -- Every way to begin the capture starts with the symbol of a slash.
    have hmem : '/' ∈ build.toList := by
      obtain ⟨o, ho, start, rest, hlist, hstart, -⟩ := Pattern.fits_of_group h hword
      obtain ⟨ys, hys⟩ := List.head?_eq_some_iff.mp
        (of_decide_eq_true (List.all_eq_true.mp hslash o ho))
      rw [hys] at hstart
      obtain ⟨c, cs, hc, -, rfl⟩ := List.forall₂_cons_left_iff.mp hstart
      have hcode : c.toNat = '/'.toNat := by
        simpa [Symbol.accepts, matchesCode, Folding.variants, Folding.lower] using hc
      rw [hlist, Char.toNat_inj.mp hcode]
      exact List.mem_cons_self
    refine .inr ⟨build, rfl, hmem, if_neg ?_⟩
    rintro rfl
    simp [unset] at hmem

/-- Under rules that look up a build after `safariBuild`, and keep the slash out of versions elsewhere, a
version has a slash exactly if it is a build without a trigger. -/
lemma slash_version_iff {r : RuleSet} (hr : ∀ rule ∈ r.group .browser, rule.patterns.all fun p =>
    if p.body = safariBuild then BuiltIn.looksUpBuild rule p else rule.excludes '/' "version" p)
    (u : String) :
    ('/' ∈ ((r.rawRecord u .browser).value.value "version").toList ↔
      ∃ build, (r.group .browser).Takes u.toList.toArray safariBuild 1 build ∧
        MappingTable.safari.Untriggered build) ∧
    ∀ build, (r.group .browser).Takes u.toList.toArray safariBuild 1 build →
      MappingTable.safari.Untriggered build →
        (r.rawRecord u .browser).value.value "version" = build := by
  rcases RuleGroup.noMatch_or_firstMatch (r.group .browser) u.toList.toArray with
    hnone | ⟨i, j, rule, m, hfirst⟩
  · have hunset : (r.rawRecord u .browser).value.value "version" = unset := by
      rw [rawRecord, RuleGroup.value_classify_of_noMatch hnone]
      rfl
    rw [hunset]
    refine ⟨iff_of_false (by simp [unset]) ?_, fun build h => absurd h hnone.not_takes⟩
    rintro ⟨build, htakes, -⟩
    exact hnone.not_takes htakes
  · obtain ⟨hrule, p, hp, hj, hm⟩ := hfirst.exists_pattern
    have hcheck := List.all_eq_true.mp (hr rule hrule) p hp
    rw [value_rawRecord_of_firstMatch hfirst (by decide)]
    simp only [hfirst.takes_iff hj]
    split_ifs at hcheck with hbody
    · -- The pattern for builds looks its capture up, and the capture begins with a slash.
      rcases BuiltIn.version_of_build hcheck hm with
        ⟨hword, hsetting⟩ | ⟨build, hword, hslash, hsetting⟩
      · simp [hword, hsetting, unset]
      · rw [hsetting]
        simp only [hbody, hword, true_and, Option.some_inj, exists_eq_left', forall_eq']
        rcases MappingTable.safari.lookup_cases build with
          ⟨huntriggered, hlookup⟩ | ⟨htriggered, entry, hentry, hlookup⟩
        · rw [hlookup]
          exact ⟨iff_of_true hslash huntriggered, fun _ => rfl⟩
        · rw [hlookup]
          exact ⟨iff_of_false (BuiltIn.slash_not_mem_label entry hentry) htriggered,
            fun h => absurd h htriggered⟩
    · -- No other pattern can capture one.
      have hslash := Rule.not_mem_setting_of_excludes hcheck hm
      simp [hbody, hslash]

/-- Under the built-in rules the version of a browser has a slash exactly if the first match is one of
`safariBuild` and captures a build that no trigger of the table occurs in; then the version is what was
captured. -/
theorem slash_version_builtIn_iff (u : String) :
    ('/' ∈ ((builtIn.record u .browser).value.value "version").toList ↔
      ∃ build, (builtIn.group .browser).Takes u.toList.toArray safariBuild 1 build ∧
        MappingTable.safari.Untriggered build) ∧
    ∀ build, (builtIn.group .browser).Takes u.toList.toArray safariBuild 1 build →
      MappingTable.safari.Untriggered build →
        Assoc.get? "version" (builtIn.record u .browser).value = some build := by
  obtain ⟨hslash, hbuild⟩ := slash_version_iff BuiltIn.slashes_seen.1 u
  rw [value_version_record]
  refine ⟨hslash, fun build htakes huntriggered => ?_⟩
  rw [get?_version_record, hbuild build htakes huntriggered]

theorem slash_version_earlySafari : ∃ build,
    (builtIn.group .browser).Takes earlySafari.toList.toArray safariBuild 1 build ∧
      MappingTable.safari.Untriggered build := by
  refine (slash_version_builtIn_iff earlySafari).1.mp ?_
  rw [value_version_record, BuiltIn.slashes_seen.2]
  simp

/-- A build that the table does not know is published with its slash. -/
theorem version_earlySafari :
    Assoc.get? "version" (builtIn.record earlySafari .browser).value = some "/60" ∧
      '/' ∈ "/60".toList := by
  rw [get?_version_record, BuiltIn.slashes_seen.2]
  simp

end RuleSet

end UserAgent
