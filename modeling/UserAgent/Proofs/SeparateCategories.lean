import UserAgent.Proofs.AndroidDevices

/-!
# Categories do not interfere

Two rule sets with the same rules for a category give the same record of it, whatever their other rules
are. Only a device looks beyond its own category, and of the operating system it sees one bit: whether
it is Android. Even that bit is seen only if the rules have left the type of the device unset
(`RuleSet.record_of_group_eq`).
-/

namespace UserAgent

open Text

namespace Record

/-! ### What a device sees -/

variable {r : Record}

/-- Two operating systems that are both Android, or both are not, look the same to a device. -/
lemma refineDevice_congr (r : Record) {os os' : Record} (h : os.isAndroid = os'.isAndroid) :
    r.refineDevice os = r.refineDevice os' := by
  rw [refineDevice, refineDevice, fillAndroid, fillAndroid, h]

/-- A device that has a type does not look at the operating system. -/
lemma fillAndroid_of_type_ne_unset (hr : r.HasFields Category.device.fields)
    (htype : r.value "type" ≠ unset) (os : Record) : r.fillAndroid os = r := by
  have hget : (Assoc.get? "type" r == some unset) = false := by
    rw [beq_eq_false_iff_ne]
    exact mt (hr.get?_eq_unset_iff (by decide)).mp htype
  simp [fillAndroid, hget]

/-- The refined device tells whether the operating system is Android, if its type was unset. -/
lemma type_refineDevice_eq_unset_iff (hr : r.HasFields Category.device.fields)
    (htype : r.value "type" = unset) (os : Record) :
    (r.refineDevice os).value "type" = unset ↔ lower (os.value "name") ≠ "android" := by
  rw [(value_refineDevice hr os).1, ne_eq, ← isAndroid_iff]
  by_cases h : os.isAndroid = true
  · simp [htype, h, androidType, unset]
  · simp [htype, h]

/-- A device that is refined with two operating systems is the same exactly if it has a type, or if
the two are both Android or both not. -/
theorem refineDevice_eq_iff (hr : r.HasFields Category.device.fields) (os os' : Record) :
    r.refineDevice os = r.refineDevice os' ↔ r.value "type" ≠ unset ∨
      (lower (os.value "name") = "android" ↔ lower (os'.value "name") = "android") := by
  constructor
  · intro h
    by_cases htype : r.value "type" = unset
    · right
      have hos := type_refineDevice_eq_unset_iff hr htype os
      rw [h, type_refineDevice_eq_unset_iff hr htype os'] at hos
      exact (not_iff_not.mp hos).symm
    · exact .inl htype
  · rintro (htype | hbit)
    · rw [refineDevice, refineDevice, fillAndroid_of_type_ne_unset hr htype,
        fillAndroid_of_type_ne_unset hr htype]
    · apply refineDevice_congr
      rw [Bool.eq_iff_iff, isAndroid_iff, isAndroid_iff]
      exact hbit

end Record

namespace RuleSet

/-! ### Two rule sets -/

variable {r r' : RuleSet} {c : Category}

/-- The rules of a category decide its raw record, with all that is noted on the way to it. -/
lemma rawRecord_congr (h : r.group c = r'.group c) (u : String) :
    r.rawRecord u c = r'.rawRecord u c := by
  rw [rawRecord, rawRecord, h]

/-- The refinement of the other categories looks at the raw record only. -/
lemma record_congr (h : r.group c = r'.group c) (hc : c ≠ .device) (u : String) :
    r.record u c = r'.record u c := by
  have hraw := rawRecord_congr h u
  cases c with
  | device => exact absurd rfl hc
  | _ => simp only [record, hraw]

/-- Rule sets that share the rules of a category give the same record of it for every user agent. The
records of a device are the same exactly if the shared rules have set its type, or if the operating
systems that the two rule sets see are both Android or both not. -/
theorem record_of_group_eq (h : r.group c = r'.group c) (u : String) :
    (c ≠ .device → (r.record u c).value = (r'.record u c).value) ∧
      (c = .device → ((r.record u c).value = (r'.record u c).value ↔
        (r.rawRecord u .device).value.value "type" ≠ unset ∨
          (lower ((r.record u .os).value.value "name") = "android" ↔
            lower ((r'.record u .os).value.value "name") = "android"))) := by
  constructor
  · intro hc
    rw [record_congr h hc]
  · rintro rfl
    rw [record_device, record_device, ← rawRecord_congr h]
    exact Record.refineDevice_eq_iff (r.hasFields_rawRecord u .device) _ _

/-- Rules that tell the same of every user agent: a version of Android, and a model without a type. -/
def foxesOn (version : String) : RuleSet where
  groups := {
    os := [⟨[⟨"", {}, 0, [], .empty⟩], [.literal "name" "android", .literal "version" version]⟩]
    device := [⟨[⟨"", {}, 0, [], .empty⟩], [.literal "model" "Fox"]⟩] }
  version := unknownVersion
  lastUpdated := unknownVersion
  source := none
  fileHash := none

/-- The systems are told apart by their versions, and the devices are the same. -/
theorem record_of_group_eq_foxesOn : (foxesOn "4").group .device = (foxesOn "9").group .device ∧
    ((foxesOn "4").record "" .os).value ≠ ((foxesOn "9").record "" .os).value ∧
    ((foxesOn "4").record "" .device).value = ((foxesOn "9").record "" .device).value := by
  have hgroup : (foxesOn "4").group .device = (foxesOn "9").group .device := rfl
  have handroid : ∀ version,
      lower (((foxesOn version).record "" .os).value.value "name") = "android" := by
    intro version
    show lower "android" = "android"
    exact lower_eq_self (by simp [Unicode.asciiLower])
  obtain ⟨-, hdevice⟩ := record_of_group_eq hgroup ""
  refine ⟨hgroup, by decide, (hdevice rfl).mpr ?_⟩
  exact .inr (iff_of_true (handroid "4") (handroid "9"))

end RuleSet

end UserAgent
