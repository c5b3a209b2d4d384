import UserAgent.Proofs.LetterCase
import UserAgent.Proofs.RefinedDevices

/-!
# Devices under any rules

Whatever the rules are, the record of a device can be relied on to have no semicolon in its model, and
a type if the operating system is Android. It differs from what the rules give at its vendor, its model
and its type only, and at the vendor and the type only where Android tells them
(`RuleSet.refinesDevice_record`).
-/

namespace UserAgent

open Text

namespace Record

/-! ### Refined records -/

/-- What can be relied on of the record that refinement makes of the raw record of a device, given the
record of the operating system. -/
structure RefinesDevice (raw os device : Record) : Prop where
  model : ∃ model, Assoc.get? "model" device = some model ∧ ';' ∉ model.toList
  type_of_android : lower (os.value "name") = "android" → device.value "type" ≠ unset
  vendor_of_android : lower (os.value "name") = "android" → raw.value "type" = unset →
    device.value "vendor" ≠ unset
  kept : lower (os.value "name") ≠ "android" ∨ raw.value "type" ≠ unset →
    ∀ field ∈ ["vendor", "type"], Assoc.get? field device = Assoc.get? field raw
  others : DiffersAt ["vendor", "model", "type"] raw device

/-- What stands before the first mark has no mark. -/
lemma not_mem_before (mark : Char) (s : String) : mark ∉ (Text.before mark s).toList := by
  intro hmark
  rw [Text.before, String.toList_ofList] at hmark
  have hne := List.mem_takeWhile_imp hmark
  simp at hne

lemma isAndroid_iff {os : Record} : os.isAndroid = true ↔ lower (os.value "name") = "android" := by
  rw [isAndroid, beq_iff_eq]
  rfl

/-- A record with the fields of a device is refined in all five respects. -/
theorem refinesDevice_refineDevice {r : Record} (hr : r.HasFields Category.device.fields)
    (os : Record) : RefinesDevice r os (r.refineDevice os) := by
  have hfields := HasFields.refineDevice hr os
  obtain ⟨htype, hvendor, hmodel⟩ := value_refineDevice hr os
  simp only [isAndroid_iff] at htype hvendor
  refine ⟨?_, ?_, ?_, ?_, differsAt_refineDevice hr os⟩
  · refine ⟨_, hfields.get?_eq (by decide), ?_⟩
    rw [hmodel]
    exact not_mem_before _ _
  · intro handroid
    rw [htype]
    split_ifs with hfills
    · decide
    · exact fun hunset => hfills ⟨hunset, handroid⟩
  · intro handroid hunset
    rw [hvendor]
    split_ifs with hfills
    · decide
    · exact fun hempty => hfills ⟨⟨hunset, handroid⟩, hempty⟩
  · -- Without Android, or with a type, nothing is filled in.
    intro hkeeps field hfield
    have hfills : ¬ (r.value "type" = unset ∧ lower (os.value "name") = "android") := by
      rintro ⟨hunset, handroid⟩
      exact hkeeps.elim (· handroid) (· hunset)
    rw [if_neg hfills] at htype
    rw [if_neg fun h => hfills h.1] at hvendor
    rcases List.mem_pair.mp hfield with rfl | rfl
    · rw [hfields.get?_eq (by decide), hr.get?_eq (by decide), hvendor]
    · rw [hfields.get?_eq (by decide), hr.get?_eq (by decide), htype]

end Record

namespace RuleSet

/-- Under any rules, and for any user agent, the record of a device is what refinement makes of the one
that the rules give. -/
theorem refinesDevice_record (r : RuleSet) (u : String) :
    Record.RefinesDevice (r.rawRecord u .device).value (r.record u .os).value
      (r.record u .device).value :=
  Record.refinesDevice_refineDevice (r.hasFields_rawRecord u .device) _

/-- Rules that tell the same of every user agent: a system in capitals, and a device with a model of two
parts, a colour, and neither vendor nor type. -/
def redFoxes : RuleSet where
  groups := {
    os := [⟨[⟨"", {}, 0, [], .empty⟩], [.literal "name" "ANDROID"]⟩]
    device := [⟨[⟨"", {}, 0, [], .empty⟩], [.literal "model" "Fox;9", .literal "colour" "red"]⟩] }
  version := unknownVersion
  lastUpdated := unknownVersion
  source := none
  fileHash := none

theorem refinesDevice_record_redFoxes :
    lower ((redFoxes.record "" .os).value.value "name") = "android" ∧
      (redFoxes.rawRecord "" .device).value.value "type" = unset ∧
      Record.RefinesDevice (redFoxes.rawRecord "" .device).value (redFoxes.record "" .os).value
        [("vendor", "Generic"), ("model", "Fox"), ("type", "mobile"), ("colour", "red")] := by
  have hos : lower ((redFoxes.record "" .os).value.value "name") = "android" := by
    show lower "ANDROID" = "android"
    rw [← String.toList_inj, toList_lower_of_ascii (by simp)]
    simp [Unicode.asciiLower]
  have hdevice : (redFoxes.record "" .device).value =
      [("vendor", "Generic"), ("model", "Fox"), ("type", "mobile"), ("colour", "red")] := by
    rw [record_device, Record.refineDevice, Record.fillAndroid, Record.isAndroid_iff.mpr hos]
    rfl
  have hrefines := refinesDevice_record redFoxes ""
  rw [hdevice] at hrefines
  exact ⟨hos, rfl, hrefines⟩

end RuleSet

end UserAgent
