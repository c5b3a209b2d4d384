import UserAgent.Proofs.RefinedBrowsers

/-!
# Records have names

A built-in rule that says anything about a browser, an engine or an operating system gives it a name,
and one that gives a device a model gives it a vendor. Whether a rule always sets a field can be seen
from its pattern and its specifications (`Rule.setting_ne_unset`), and refinement takes no name away
(`RuleSet.record_builtIn_of_unnamed`).
-/

namespace UserAgent

open Regex

/-! ### Fields that a rule always sets -/

namespace Rule

variable {r : Rule} {p : Pattern} {text : Array Char} {m : Match} {field : String}

/-- Whether a match of a pattern of the rule always gives a field a value that is not empty. -/
def fills (r : Rule) (field : String) (p : Pattern) : Bool :=
  (r.openings field p).all fun o => !o.symbols.isEmpty

/-- Whether a match of a pattern of the rule leaves a field unset. -/
def leaves (r : Rule) (field : String) (p : Pattern) : Bool :=
  (r.openings field p).all fun o => decide (o = .nothing)

/-- A rule that fills a field with a pattern sets it at every match. -/
theorem setting_ne_unset (hr : r.fills field p = true) (h : p.search? text = some m) :
    r.setting m field ≠ unset := by
  obtain ⟨o, ho, hfits⟩ := r.fits_setting h
  intro hempty
  rw [hempty] at hfits
  have hsymbols := List.all_eq_true.mp hr o ho
  rw [hfits.isEmpty_symbols] at hsymbols
  cases hsymbols

theorem setting_eq_unset (hr : r.leaves field p = true) (h : p.search? text = some m) :
    r.setting m field = unset := by
  obtain ⟨o, ho, hfits⟩ := r.fits_setting h
  rw [of_decide_eq_true (List.all_eq_true.mp hr o ho)] at hfits
  simpa [unset] using hfits.eq_nil

end Rule

/-! ### Refinement -/

namespace Record

/-- The canonical name of a browser with a name is not the unset value. -/
lemma canonicalBrowserName_ne_unset {name : String} (h : name ≠ unset) :
    canonicalBrowserName name ≠ unset := by
  have hall : ∀ entry ∈ browserAliases, entry.2 ≠ unset := by
    simp [browserAliases, unset]
  rw [canonicalBrowserName]
  cases hget : Assoc.get? (Text.lower name) browserAliases with
  | none => exact h
  | some canonical => exact hall _ (Assoc.mem_of_get?_eq_some hget)

lemma name_refineBrowser_ne_unset {r : Record} (h : r.value "name" ≠ unset) :
    r.refineBrowser.value "name" ≠ unset := by
  have hget : Assoc.get? "name" r = some (r.value "name") := (get?_eq_some_iff h).mpr rfl
  rw [value, get?_refineBrowser, if_neg (by decide), if_pos rfl, hget]
  exact canonicalBrowserName_ne_unset h

end Record

/-! ### Built-in rules -/

namespace RuleSet

/-- The categories whose built-in rules all give a name. -/
def namedCategories : List Category := [.browser, .engine, .os]

/-- The built-in rules give a name with each of their patterns. -/
lemma BuiltIn.fills_name {c : Category} (hc : c ∈ namedCategories) :
    ∀ rule ∈ builtIn.group c, rule.patterns.all (rule.fills "name") := by
  refine forall_rules ?_
  cases c with
  | browser => decide +kernel
  | engine => decide +kernel
  | os => decide +kernel
  | cpu | device => simp [namedCategories] at hc

lemma BuiltIn.fills_vendor : ∀ rule ∈ builtIn.group .device,
    rule.patterns.all fun p => rule.fills "vendor" p || rule.leaves "model" p := by
  refine forall_rules ?_
  decide +kernel

/-- Where nothing matches, the record is empty. -/
lemma record_of_noMatch {r : RuleSet} {u : String} {c : Category} (hc : c ∈ namedCategories)
    (h : (r.group c).NoMatch u.toList.toArray) : (r.record u c).value = c.emptyRecord := by
  have hraw : (r.rawRecord u c).value = c.emptyRecord := RuleGroup.value_classify_of_noMatch h
  cases c with
  | browser =>
    show (r.rawRecord u .browser).value.refineBrowser = _
    rw [hraw]
    rfl
  | engine => exact hraw
  | os =>
    show (r.rawRecord u .os).value.refineOs = _
    rw [hraw]
    rfl
  | cpu | device => simp [namedCategories] at hc

/-- A name that was captured is left by the refinement. -/
lemma name_record_ne_unset {r : RuleSet} {u : String} {c : Category} (hc : c ∈ namedCategories)
    (h : (r.rawRecord u c).value.value "name" ≠ unset) :
    (r.record u c).value.value "name" ≠ unset := by
  cases c with
  | browser => exact Record.name_refineBrowser_ne_unset h
  | engine => exact h
  | os =>
    show (r.rawRecord u .os).value.refineOs.value "name" ≠ unset
    rw [Record.value_refineOs]
    exact h
  | cpu | device => simp [namedCategories] at hc

/-- A device whose rule gives no vendor has no model. -/
lemma BuiltIn.model_rawRecord_of_vendor {u : String}
    (h : (builtIn.rawRecord u .device).value.value "vendor" = unset) :
    (builtIn.rawRecord u .device).value.value "model" = unset := by
  rcases RuleGroup.noMatch_or_firstMatch (builtIn.group .device) u.toList.toArray with
    hnone | ⟨i, j, rule, m, hfirst⟩
  · rw [rawRecord, RuleGroup.value_classify_of_noMatch hnone]
    decide
  · obtain ⟨hrule, p, hp, -, hm⟩ := hfirst.exists_pattern
    rw [value_rawRecord_of_firstMatch hfirst (by decide)] at h ⊢
    rcases Bool.or_eq_true_iff.mp (List.all_eq_true.mp (fills_vendor rule hrule) p hp) with
      hfills | hleaves
    · exact absurd h (Rule.setting_ne_unset hfills hm)
    · exact Rule.setting_eq_unset hleaves hm

/-- Under the built-in rules the record of a browser, an engine or an operating system without a name
is empty, and a device without a vendor has no model. -/
theorem record_builtIn_of_unnamed (u : String) :
    (∀ c ∈ namedCategories, (builtIn.record u c).value.value "name" = unset →
      ∀ entry ∈ (builtIn.record u c).value, entry.2 = unset) ∧
    ((builtIn.record u .device).value.value "vendor" = unset →
      (builtIn.record u .device).value.value "model" = unset) := by
  constructor
  · intro c hc hname
    rcases RuleGroup.noMatch_or_firstMatch (builtIn.group c) u.toList.toArray with
      hnone | ⟨i, j, rule, m, hfirst⟩
    · rw [record_of_noMatch hc hnone, Category.emptyRecord, Record.ofFields_eq_map]
      simp
    · -- A rule that matches gives a name, so there is no such record.
      obtain ⟨hrule, p, hp, -, hm⟩ := hfirst.exists_pattern
      have hfills := List.all_eq_true.mp (BuiltIn.fills_name hc rule hrule) p hp
      have hfield : ∀ c ∈ namedCategories, "name" ∈ c.fields := by
        decide
      refine absurd hname (name_record_ne_unset hc ?_)
      rw [value_rawRecord_of_firstMatch hfirst (hfield c hc)]
      exact Rule.setting_ne_unset hfills hm
  · intro hvendor
    obtain ⟨-, hvendor', hmodel⟩ := Record.value_refineDevice
      (builtIn.hasFields_rawRecord u .device) (builtIn.record u .os).value
    rw [record_device, hvendor'] at hvendor
    -- The refinement only ever adds a vendor.
    have hraw : (builtIn.rawRecord u .device).value.value "vendor" = unset := by
      split_ifs at hvendor
      · exact absurd hvendor (by decide)
      · exact hvendor
    have hsamsung : unset ≠ "Samsung" := by
      decide
    rw [record_device, hmodel, hraw, BuiltIn.model_rawRecord_of_vendor hraw,
      if_neg fun h => hsamsung h.1]
    rfl

theorem record_builtIn_unnamed_tab :
    ((builtIn.record "Tab;" .os).value.value "name" = unset ∧
      ∀ entry ∈ (builtIn.record "Tab;" .os).value, entry.2 = unset) ∧
    (builtIn.record "Tab;" .device).value.value "vendor" = unset ∧
      (builtIn.record "Tab;" .device).value.value "model" = unset := by
  have hname : (builtIn.record "Tab;" .os).value.value "name" = unset := by
    rw [BuiltIn.record_tokens.1]
    rfl
  have hvendor : (builtIn.record "Tab;" .device).value.value "vendor" = unset := by
    rw [BuiltIn.record_tokens.2.1]
    rfl
  obtain ⟨hnamed, hdevice⟩ := record_builtIn_of_unnamed "Tab;"
  exact ⟨⟨hname, hnamed .os (by decide) hname⟩, hvendor, hdevice hvendor⟩

end RuleSet

end UserAgent
