import UserAgent.Proofs.RefinedDevices

/-!
# Refined browser records

Whatever the rules are, the record of a browser can be relied on to have a name that no other name is
known for, and a major version that is read off its version, whether or not the rules give one of their
own. All else is as the rules give it, and a second refinement changes nothing
(`RuleSet.refinesBrowser_record`).
-/

namespace UserAgent

open Regex

/-! ### Common names -/

/-- The common names are closed: none of them goes by another name. -/
lemma browserAliases_closed :
    ∀ entry ∈ browserAliases, Text.lower entry.2 ∉ browserAliases.keys := by
  decide

/-- The aliases are written in small letters. -/
lemma browserAliases_lower : ∀ key ∈ browserAliases.keys, Text.lower key = key := by
  decide

lemma canonicalBrowserName_eq_self {name : String} (h : Text.lower name ∉ browserAliases.keys) :
    canonicalBrowserName name = name := by
  rw [canonicalBrowserName, Assoc.get?_eq_none_iff.mpr h, Option.getD_none]

/-- The canonical name is no alias. -/
lemma lower_canonicalBrowserName_not_mem (name : String) :
    Text.lower (canonicalBrowserName name) ∉ browserAliases.keys := by
  rw [canonicalBrowserName]
  cases hget : Assoc.get? (Text.lower name) browserAliases with
  | none => simpa only [Option.getD_none] using Assoc.get?_eq_none_iff.mp hget
  | some common =>
    have hmem := Assoc.mem_of_get?_eq_some hget
    simpa only [Option.getD_some] using browserAliases_closed _ hmem

/-- A canonical name stays as it is. -/
lemma canonicalBrowserName_idem (name : String) :
    canonicalBrowserName (canonicalBrowserName name) = canonicalBrowserName name :=
  canonicalBrowserName_eq_self (lower_canonicalBrowserName_not_mem name)

lemma canonicalBrowserName_unset : canonicalBrowserName unset = unset := by
  decide

/-! ### Major versions -/

/-- The decimal digits of all scripts, as the escape `\d` of a pattern has them. -/
def decimalClass : CharClass := ⟨.digit, false, false⟩

example : classEscape? 'd' = some (decimalClass.kind, decimalClass.negated) := rfl

/-- The digits of a version that precede its first point. -/
def leadingDigits (version : String) : String :=
  String.ofList ((Text.before '.' version).toList.filter fun c => decimalClass.contains c.toNat)

lemma contains_decimalClass (c : Char) : decimalClass.contains c.toNat = Template.isDigit c :=
  Bool.bne_false _

/-- It makes no difference whether the digits are chosen first, together with the marks, or the text is
cut off at the first mark. -/
lemma takeWhile_filter_or {α : Type} [DecidableEq α] (p : α → Bool) (mark : α) (l : List α) :
    (l.filter fun a => p a || a == mark).takeWhile (· != mark) =
      (l.takeWhile (· != mark)).filter p := by
  induction l with
  | nil => rfl
  | cons a l ih =>
    by_cases ha : a = mark
    · simp [ha]
    · cases hp : p a <;> simp [ha, hp, ih]

/-- The first number of a version is made of the digits that it begins with. -/
lemma majorVersion_eq (version : String) : majorVersion version = leadingDigits version := by
  rw [majorVersion, takeWhile_filter_or, leadingDigits, Text.before, String.toList_ofList]
  simp only [contains_decimalClass]

namespace Record

/-! ### Fields of refined records -/

/-- The refinement sets the first number, puts the canonical name in place of the name, and leaves
the other fields. -/
lemma get?_refineBrowser (r : Record) (field : String) : Assoc.get? field r.refineBrowser =
    if field = "major" then some (majorVersion (r.value "version"))
    else if field = "name" then (Assoc.get? "name" r).map canonicalBrowserName
    else Assoc.get? field r := by
  rw [refineBrowser]
  split_ifs with hmajor hname
  · rw [hmajor, Assoc.get?_insert_self]
  · rw [Assoc.get?_insert_of_ne (Ne.symm hmajor), hname]
    cases hget : Assoc.get? "name" r with
    | none => exact hget
    | some name =>
      -- An empty name is kept, but it would also be its own common name.
      by_cases hempty : name = unset
      · rw [hempty] at hget ⊢
        rw [Option.map_some, canonicalBrowserName_unset]
        exact hget
      · simp only [String.isEmpty_iff, show name ≠ "" from hempty, if_false,
          Assoc.get?_insert_self, Option.map_some]
  · rw [Assoc.get?_insert_of_ne (Ne.symm hmajor)]
    split
    · split_ifs
      · rfl
      · exact Assoc.get?_insert_of_ne (Ne.symm hname) _ _
    · rfl

lemma get?_version_refineBrowser (r : Record) :
    Assoc.get? "version" r.refineBrowser = Assoc.get? "version" r := by
  rw [get?_refineBrowser, if_neg (by decide), if_neg (by decide)]

lemma value_version_refineBrowser (r : Record) :
    r.refineBrowser.value "version" = r.value "version" := by
  rw [value, get?_version_refineBrowser, value]

/-- Refinement changes nothing of a browser but its name and its major version. -/
theorem differsAt_refineBrowser {r : Record} (hr : r.HasFields Category.browser.fields) :
    r.DiffersAt ["name", "major"] r.refineBrowser := by
  have hname : r.DiffersAt ["name", "major"]
      (Assoc.insert "name" (canonicalBrowserName (r.value "name")) r) :=
    .insert (by decide) (hr "name" (by decide)) _
  rw [refineBrowser, hr.get?_eq (by decide)]
  dsimp only
  split_ifs
  · exact .insert (by decide) (hr "major" (by decide)) _
  · exact hname.trans (.insert (by decide) (hname.hasFields hr "major" (by decide)) _)

/-- A record whose name is common, and whose major version is that of its version, is refined. -/
lemma refineBrowser_eq_self {r : Record}
    (hname : ∀ name, Assoc.get? "name" r = some name → canonicalBrowserName name = name)
    (hmajor : Assoc.get? "major" r = some (majorVersion (r.value "version"))) :
    r.refineBrowser = r := by
  rw [refineBrowser]
  cases hget : Assoc.get? "name" r with
  | none => exact Assoc.insert_of_get?_eq_some hmajor
  | some name =>
    simp only [hname name hget, Assoc.insert_of_get?_eq_some hget, ite_self]
    exact Assoc.insert_of_get?_eq_some hmajor

/-- To refine a browser twice is to refine it once. -/
theorem refineBrowser_idem (r : Record) : r.refineBrowser.refineBrowser = r.refineBrowser := by
  refine refineBrowser_eq_self (fun name hget => ?_) ?_
  · rw [get?_refineBrowser, if_neg (by decide), if_pos rfl] at hget
    obtain ⟨raw, -, rfl⟩ := Option.map_eq_some_iff.mp hget
    exact canonicalBrowserName_idem raw
  · rw [value_version_refineBrowser, get?_refineBrowser, if_pos rfl]

/-! ### Refined records -/

/-- What can be relied on of the record that refinement makes of the raw record of a browser. -/
structure RefinesBrowser (raw browser : Record) : Prop where
  name : ∃ name, Assoc.get? "name" browser = some name ∧
    ∀ key ∈ browserAliases.keys, Text.lower name ≠ Text.lower key
  major : Assoc.get? "major" browser = some (leadingDigits (browser.value "version"))
  major_of_unset : browser.value "version" = unset → Assoc.get? "major" browser = some unset
  others : DiffersAt ["name", "major"] raw browser
  fixed : browser.refineBrowser = browser

theorem refinesBrowser_refineBrowser {r : Record} (hr : r.HasFields Category.browser.fields) :
    RefinesBrowser r r.refineBrowser := by
  have hmajor : Assoc.get? "major" r.refineBrowser =
      some (leadingDigits (r.refineBrowser.value "version")) := by
    rw [get?_refineBrowser, if_pos rfl, value_version_refineBrowser, majorVersion_eq]
  refine ⟨?_, hmajor, ?_, differsAt_refineBrowser hr, refineBrowser_idem r⟩
  · refine ⟨canonicalBrowserName (r.value "name"), ?_, fun key hkey heq => ?_⟩
    · rw [get?_refineBrowser, if_neg (by decide), if_pos rfl, hr.get?_eq (by decide),
        Option.map_some]
    · refine lower_canonicalBrowserName_not_mem (r.value "name") ?_
      rwa [heq, browserAliases_lower key hkey]
  · intro hunset
    rw [hmajor, hunset]
    rfl

/-- A rule may give a major version of its own, and fields that no browser has. -/
example : refineBrowser
    [("name", "OPR"), ("version", "v38b2.0"), ("major", "x"), ("colour", "red")] =
      [("name", "Opera"), ("version", "v38b2.0"), ("major", "382"), ("colour", "red")] := by
  decide

end Record

namespace RuleSet

/-- Under any rules, and for any user agent, the record of a browser is what refinement makes of the one
that the rules give. -/
theorem refinesBrowser_record (r : RuleSet) (u : String) :
    Record.RefinesBrowser (r.rawRecord u .browser).value (r.record u .browser).value :=
  Record.refinesBrowser_refineBrowser (r.hasFields_rawRecord u .browser)

end RuleSet

end UserAgent
