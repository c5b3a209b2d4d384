import Mathlib.Data.List.TakeWhile
import UserAgent.Proofs.BuiltInRules
import UserAgent.Proofs.CapturedTexts

/-!
# Refined device records

The fields of a device record after its refinement, in terms of those before
(`Record.value_refineDevice`). A raw record has all the fields of its category
(`RuleSet.hasFields_rawRecord`).
-/

namespace UserAgent

namespace Record

/-! ### Values after a change -/

lemma value_insert (r : Record) (key value field : String) :
    Record.value (Assoc.insert key value r) field = if field = key then value else r.value field := by
  rw [Record.value, Record.value]
  split_ifs with h
  · rw [h, Assoc.get?_insert_self, Option.getD_some]
  · rw [Assoc.get?_insert_of_ne (Ne.symm h)]

lemma value_refineOs (r : Record) (field : String) : r.refineOs.value field = r.value field := by
  rw [refineOs, value_insert]
  split_ifs with h
  · rw [h]
  · rfl

lemma get?_eq_some_iff {r : Record} {key value : String} (hvalue : value ≠ unset) :
    Assoc.get? key r = some value ↔ r.value key = value := by
  rw [Record.value]
  cases Assoc.get? key r with
  | none => simpa using hvalue.symm
  | some v => simp

/-- A text without the mark is left whole. -/
lemma before_of_not_mem {mark : Char} {s : String} (h : mark ∉ s.toList) :
    Text.before mark s = s := by
  have hall : ∀ c ∈ s.toList, (c != mark) = true := by
    intro c hc
    exact bne_iff_ne.mpr fun heq => h (heq ▸ hc)
  rw [Text.before, List.takeWhile_eq_self_iff.mpr hall, String.ofList_toList]

/-- A model is cut at its first semicolon, and the other fields stay. -/
lemma value_cutModel (r : Record) (field : String) : r.cutModel.value field =
    if field = "model" then Text.before ';' (r.value "model") else r.value field := by
  rw [cutModel]
  cases hmodel : Assoc.get? "model" r with
  | none =>
    have hunset : r.value "model" = unset := by rw [Record.value, hmodel, Option.getD_none]
    split_ifs with h
    · rw [h, hunset]
      rfl
    · rfl
  | some model =>
    have hvalue : r.value "model" = model := by rw [Record.value, hmodel, Option.getD_some]
    rw [hvalue]
    by_cases hmark : ';' ∈ model.toList
    · simp only [List.contains_eq_mem, decide_eq_true hmark, if_true, value_insert]
    · simp only [List.contains_eq_mem, decide_eq_false hmark, Bool.false_eq_true, if_false,
        before_of_not_mem hmark]
      split_ifs with h
      · rw [h, hvalue]
      · rfl

/-- The model changes if it is the browser of Samsung, and the other fields stay. -/
lemma value_correctSamsung (r : Record) (field : String) : r.correctSamsung.value field =
    if field = "model" ∧ r.value "vendor" = "Samsung" ∧ r.value "model" = "Browser" then genericVendor
    else r.value field := by
  have hcorrects : (Assoc.get? "vendor" r == some "Samsung" &&
      Assoc.get? "model" r == some "Browser") = true ↔
      r.value "vendor" = "Samsung" ∧ r.value "model" = "Browser" := by
    rw [Bool.and_eq_true, beq_iff_eq, beq_iff_eq, get?_eq_some_iff (by decide),
      get?_eq_some_iff (by decide)]
  rw [correctSamsung]
  simp only [hcorrects]
  by_cases h : r.value "vendor" = "Samsung" ∧ r.value "model" = "Browser"
  · simp only [h, and_self, and_true, if_true, value_insert]
  · simp only [h, and_false, if_false]

/-! ### Devices -/

/-- A record that has each of some fields. -/
def HasFields (fields : List String) (r : Record) : Prop :=
  ∀ field ∈ fields, (Assoc.get? field r).isSome

namespace HasFields

variable {fields : List String} {r : Record} (h : r.HasFields fields)

include h

/-- A field that a record has holds its value. -/
lemma get?_eq {field : String} (hfield : field ∈ fields) :
    Assoc.get? field r = some (r.value field) := by
  obtain ⟨v, hv⟩ := Option.isSome_iff_exists.mp (h field hfield)
  rw [value, hv, Option.getD_some]

lemma get?_eq_unset_iff {field : String} (hfield : field ∈ fields) :
    Assoc.get? field r = some unset ↔ r.value field = unset := by
  rw [h.get?_eq hfield, Option.some_inj]

lemma insert (key value : String) : HasFields fields (Assoc.insert key value r) := by
  intro field hfield
  by_cases hkey : key = field
  · rw [hkey, Assoc.get?_insert_self]
    rfl
  · rw [Assoc.get?_insert_of_ne hkey]
    exact h field hfield

end HasFields

/-! ### Changes of some fields -/

/-- Two records with the same fields in the same order, whose values differ at some of them only. -/
structure DiffersAt (fields : List String) (r r' : Record) : Prop where
  keys_eq : Assoc.keys r' = Assoc.keys r
  get?_eq : ∀ field ∉ fields, Assoc.get? field r' = Assoc.get? field r

namespace DiffersAt

variable {fields : List String} {r r' r'' : Record}

lemma refl (fields : List String) (r : Record) : DiffersAt fields r r :=
  ⟨rfl, fun _ _ => rfl⟩

/-- Changes to the same fields may follow each other. -/
lemma trans (h : DiffersAt fields r r') (h' : DiffersAt fields r' r'') : DiffersAt fields r r'' where
  keys_eq := h'.keys_eq.trans h.keys_eq
  get?_eq field hfield := (h'.get?_eq field hfield).trans (h.get?_eq field hfield)

/-- A field that is there gets another value. -/
lemma insert {key : String} (hkey : key ∈ fields) (hr : (Assoc.get? key r).isSome) (value : String) :
    DiffersAt fields r (Assoc.insert key value r) where
  keys_eq := by
    refine Assoc.keys_insert_of_mem value (not_imp_comm.mp Assoc.get?_eq_none_iff.mpr ?_)
    exact Option.isSome_iff_ne_none.mp hr
  get?_eq field hfield := Assoc.get?_insert_of_ne (ne_of_mem_of_not_mem hkey hfield) value r

/-- A change to some fields takes none away. -/
lemma hasFields {others : List String} (h : DiffersAt fields r r') (hr : r.HasFields others) :
    r'.HasFields others := by
  intro field hfield
  have hsome := hr field hfield
  rw [Option.isSome_iff_ne_none, ne_eq, Assoc.get?_eq_none_iff] at hsome ⊢
  rwa [h.keys_eq]

end DiffersAt

/-- Refinement changes nothing of a device but the fields of its category. -/
theorem differsAt_refineDevice {r : Record} (hr : r.HasFields Category.device.fields) (os : Record) :
    r.DiffersAt Category.device.fields (r.refineDevice os) := by
  have hfilled : r.DiffersAt Category.device.fields (r.fillAndroid os) := by
    have hvendor : r.DiffersAt Category.device.fields (Assoc.insert "vendor" genericVendor r) :=
      .insert (by decide) (hr "vendor" (by decide)) _
    rw [fillAndroid]
    split_ifs
    · exact hvendor.trans (.insert (by decide) (hvendor.hasFields hr "type" (by decide)) _)
    · exact .insert (by decide) (hr "type" (by decide)) _
    · exact .refl _ r
  have hcorrected : r.DiffersAt Category.device.fields (r.fillAndroid os).correctSamsung := by
    rw [correctSamsung]
    split_ifs
    · exact hfilled.trans (.insert (by decide) (hfilled.hasFields hr "model" (by decide)) _)
    · exact hfilled
  rw [refineDevice, cutModel]
  split
  · split_ifs
    · exact hcorrected.trans (.insert (by decide) (hcorrected.hasFields hr "model" (by decide)) _)
    · exact hcorrected
  · exact hcorrected

lemma HasFields.refineDevice {r : Record} (hr : r.HasFields Category.device.fields) (os : Record) :
    (r.refineDevice os).HasFields Category.device.fields :=
  (differsAt_refineDevice hr os).hasFields hr

/-- Android tells the type of a device that has none, and a vendor if it has none either. -/
lemma value_fillAndroid {r : Record} (hr : r.HasFields Category.device.fields) (os : Record)
    (field : String) : (r.fillAndroid os).value field =
      if r.value "type" = unset ∧ os.isAndroid = true then
        if field = "type" then androidType
        else if field = "vendor" ∧ r.value "vendor" = unset then genericVendor else r.value field
      else r.value field := by
  have htype : Assoc.get? "type" r = some unset ↔ r.value "type" = unset :=
    hr.get?_eq_unset_iff (by decide)
  have hvendor : Assoc.get? "vendor" r = some unset ↔ r.value "vendor" = unset :=
    hr.get?_eq_unset_iff (by decide)
  rw [fillAndroid]
  simp only [Bool.and_eq_true, beq_iff_eq, htype, hvendor]
  by_cases hfills : r.value "type" = unset ∧ os.isAndroid = true
  · simp only [hfills, and_self, if_true, value_insert]
    by_cases hempty : r.value "vendor" = unset
    · simp only [hempty, and_true, if_true, value_insert]
    · simp only [hempty, and_false, if_false]
  · simp only [hfills, if_false]

/-- The fields of a refined device: the type and the vendor that Android tells, and the model, but for
one that is the name of a browser, up to the first semicolon. -/
theorem value_refineDevice {r : Record} (hr : r.HasFields Category.device.fields) (os : Record) :
    (r.refineDevice os).value "type" =
        (if r.value "type" = unset ∧ os.isAndroid = true then androidType else r.value "type") ∧
      (r.refineDevice os).value "vendor" =
        (if (r.value "type" = unset ∧ os.isAndroid = true) ∧ r.value "vendor" = unset then
          genericVendor else r.value "vendor") ∧
      (r.refineDevice os).value "model" = Text.before ';'
        (if r.value "vendor" = "Samsung" ∧ r.value "model" = "Browser" then genericVendor
          else r.value "model") := by
  have hmodel : (r.fillAndroid os).value "model" = r.value "model" := by
    rw [value_fillAndroid hr]
    split_ifs <;> simp_all
  have hvendor : (r.fillAndroid os).value "vendor" =
      if (r.value "type" = unset ∧ os.isAndroid = true) ∧ r.value "vendor" = unset then genericVendor
      else r.value "vendor" := by
    rw [value_fillAndroid hr]
    by_cases hfills : r.value "type" = unset ∧ os.isAndroid = true
    · simp [hfills]
    · simp only [hfills, if_false, false_and]
  -- The vendor that is filled in is another one.
  have hsamsung : (r.fillAndroid os).value "vendor" = "Samsung" ↔ r.value "vendor" = "Samsung" := by
    rw [hvendor]
    split_ifs with h
    · rw [h.2]
      decide
    · rfl
  refine ⟨?_, ?_, ?_⟩
  · rw [refineDevice, value_cutModel, if_neg (by decide), value_correctSamsung,
      if_neg (by rintro ⟨h, -⟩; exact absurd h (by decide)), value_fillAndroid hr]
    simp
  · rw [refineDevice, value_cutModel, if_neg (by decide), value_correctSamsung,
      if_neg (by rintro ⟨h, -⟩; exact absurd h (by decide)), hvendor]
  · rw [refineDevice, value_cutModel, if_pos rfl, value_correctSamsung]
    simp only [true_and, hsamsung, hmodel]

end Record

namespace RuleSet

lemma record_device (r : RuleSet) (userAgent : String) : (r.record userAgent .device).value =
    (r.rawRecord userAgent .device).value.refineDevice (r.record userAgent .os).value := rfl

lemma record_os (r : RuleSet) (userAgent : String) :
    (r.record userAgent .os).value = (r.rawRecord userAgent .os).value.refineOs := rfl

/-- A record has the fields of its category, whatever rules there are. -/
lemma hasFields_rawRecord (r : RuleSet) (userAgent : String) (c : Category) :
    (r.rawRecord userAgent c).value.HasFields c.fields := by
  intro field hfield
  rw [rawRecord]
  rcases RuleGroup.noMatch_or_firstMatch (r.group c) userAgent.toList.toArray with
    hnone | ⟨i, j, rule, m, hfirst⟩
  · rw [RuleGroup.value_classify_of_noMatch hnone, Record.ofFields_eq_map,
      Assoc.get?_map_of_mem (by simpa using hfield)]
    rfl
  · rw [RuleGroup.get?_classify_of_firstMatch hfirst hfield]
    rfl

/-- A field of a category has the value that the rule of the first match gives to it. -/
lemma value_rawRecord_of_firstMatch {r : RuleSet} {u : String} {c : Category} {i j : Nat}
    {rule : Rule} {m : Match} (h : (r.group c).FirstMatch u.toList.toArray i j rule m) {field : String}
    (hfield : field ∈ c.fields) : (r.rawRecord u c).value.value field = rule.setting m field := by
  rw [Record.value, rawRecord, RuleGroup.get?_classify_of_firstMatch h hfield, Option.getD_some]

namespace BuiltIn

/-- What can be seen of the records of systems and devices that the compiled rules give. -/
lemma records_of_compiled (test : (String → Record) → (String → Record) → Bool)
    (h : (spelled .os).compile.all (fun systems => (spelled .device).compile.all fun devices =>
      test (fun userAgent => (systems.classify Category.os.fields userAgent).value.refineOs)
        fun userAgent =>
          (devices.classify Category.device.fields userAgent).value.refineDevice
            (systems.classify Category.os.fields userAgent).value.refineOs) = true) :
    test (fun userAgent => (builtIn.record userAgent .os).value)
      (fun userAgent => (builtIn.record userAgent .device).value) = true := by
  -- The groups are named, so that nothing evaluates the built-in ones.
  obtain ⟨systems, hsystems⟩ : ∃ systems, builtIn.group .os = systems := ⟨_, rfl⟩
  obtain ⟨devices, hdevices⟩ : ∃ devices, builtIn.group .device = devices := ⟨_, rfl⟩
  have hcompiledSystems := value_ofTable.2 .os
  have hcompiledDevices := value_ofTable.2 .device
  rw [hsystems] at hcompiledSystems
  rw [hdevices] at hcompiledDevices
  rw [hcompiledSystems, Option.all_some, hcompiledDevices, Option.all_some] at h
  have hrecordOs : (fun userAgent => (builtIn.record userAgent .os).value) = fun userAgent =>
      (systems.classify Category.os.fields userAgent).value.refineOs := by
    funext userAgent
    rw [record_os, rawRecord, hsystems]
  have hrecordDevice : (fun userAgent => (builtIn.record userAgent .device).value) = fun userAgent =>
      (devices.classify Category.device.fields userAgent).value.refineDevice
        (systems.classify Category.os.fields userAgent).value.refineOs := by
    funext userAgent
    rw [record_device, congrFun hrecordOs userAgent, rawRecord, hdevices]
  rw [hrecordOs, hrecordDevice]
  exact h

/-- The records of two tokens that stand alone. They are evaluated together, so that the rules are
compiled once. -/
lemma record_tokens :
    (builtIn.record "Tab;" .os).value = [("name", ""), ("version", "")] ∧
      (builtIn.record "Tab;" .device).value = [("vendor", ""), ("model", ""), ("type", "tab")] ∧
      (builtIn.record "samsungbrowser" .device).value =
        [("vendor", "Samsung"), ("model", "browser"), ("type", "mobile")] :=
  of_decide_eq_true <| records_of_compiled (fun os device => decide
    (os "Tab;" = [("name", ""), ("version", "")] ∧
      device "Tab;" = [("vendor", ""), ("model", ""), ("type", "tab")] ∧
      device "samsungbrowser" = [("vendor", "Samsung"), ("model", "browser"), ("type", "mobile")]))
    (by decide +kernel)

end BuiltIn

end RuleSet

end UserAgent
