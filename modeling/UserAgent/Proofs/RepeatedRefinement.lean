import UserAgent.Proofs.AndroidDevices
import UserAgent.Proofs.Attempts

/-!
# Devices that are refined again

To refine a device again changes nothing, but for one kind of device: one of Samsung whose model is cut
off to the name of a browser. The name is looked for before the model is cut off, so only a second
refinement replaces it, and then nothing is left to do (`ValueRecord.refineDevice_again_iff`).
-/

namespace UserAgent

namespace Record

/-! ### Models that are cut off -/

/-- What stands before the first mark, in terms of the whole text. -/
lemma before_eq_iff {mark : Char} {s t : String} (ht : mark ∉ t.toList) :
    Text.before mark s = t ↔ s = t ∨ ∃ rest, s = t ++ String.ofList (mark :: rest) := by
  constructor
  · intro h
    have htake : s.toList.takeWhile (· != mark) = t.toList := by
      rw [← h, Text.before, String.toList_ofList]
    have hsplit := List.takeWhile_append_dropWhile (p := (· != mark)) (l := s.toList)
    rw [htake] at hsplit
    cases hdrop : s.toList.dropWhile (· != mark) with
    | nil =>
      rw [hdrop, List.append_nil] at hsplit
      exact .inl (String.toList_inj.mp hsplit.symm)
    | cons c rest =>
      have hc := List.head_dropWhile_not (p := (· != mark)) (l := s.toList) (by rw [hdrop]; simp)
      simp only [hdrop, List.head_cons, bne_eq_false_iff_eq] at hc
      rw [hdrop, hc] at hsplit
      refine .inr ⟨rest, String.toList_inj.mp ?_⟩
      rw [← hsplit, String.toList_append, String.toList_ofList]
  · rintro (rfl | ⟨rest, rfl⟩)
    · exact before_of_not_mem ht
    · have hall : ∀ c ∈ t.toList, (c != mark) = true := by
        intro c hc
        exact bne_iff_ne.mpr fun heq => ht (heq ▸ hc)
      rw [Text.before, String.toList_append, List.takeWhile_append_of_pos hall]
      simp

/-- A device of Samsung has a model that begins with the name of a browser and a semicolon. -/
def HidesBrowser (r : Record) : Prop :=
  r.value "vendor" = "Samsung" ∧ ∃ rest, r.value "model" = "Browser" ++ String.ofList (';' :: rest)

/-! ### Steps that have nothing to do -/

variable (r os : Record)

lemma fillAndroid_eq_self {r os : Record}
    (h : ¬(Assoc.get? "type" r = some unset ∧ os.isAndroid = true)) : r.fillAndroid os = r := by
  simp [fillAndroid, h]

/-- The correction changes nothing exactly if the model is not the browser of Samsung. -/
lemma correctSamsung_eq_self_iff :
    r.correctSamsung = r ↔ ¬(r.value "vendor" = "Samsung" ∧ r.value "model" = "Browser") := by
  constructor
  · rintro h ⟨hvendor, hmodel⟩
    have hvalue := r.value_correctSamsung "model"
    rw [h, if_pos ⟨rfl, hvendor, hmodel⟩, hmodel] at hvalue
    exact absurd hvalue (by decide)
  · intro h
    rw [← get?_eq_some_iff (by decide), ← get?_eq_some_iff (by decide)] at h
    simp [correctSamsung, h]

lemma cutModel_eq_self {r : Record} (h : ';' ∉ (r.value "model").toList) : r.cutModel = r := by
  rw [cutModel]
  cases hmodel : Assoc.get? "model" r with
  | none => rfl
  | some model =>
    rw [value, hmodel, Option.getD_some] at h
    simp [h]

/-! ### Fields that a step keeps -/

lemma get?_type_correctSamsung : Assoc.get? "type" r.correctSamsung = Assoc.get? "type" r := by
  rw [correctSamsung]
  split_ifs
  · exact Assoc.get?_insert_of_ne (by decide) _ _
  · rfl

lemma get?_type_cutModel : Assoc.get? "type" r.cutModel = Assoc.get? "type" r := by
  rw [cutModel]
  split
  · split_ifs
    · exact Assoc.get?_insert_of_ne (by decide) _ _
    · rfl
  · rfl

/-- Once the type is filled in, there is none to be filled in. -/
lemma not_fills_fillAndroid :
    ¬(Assoc.get? "type" (r.fillAndroid os) = some unset ∧ os.isAndroid = true) := by
  rintro ⟨htype, handroid⟩
  by_cases hr : Assoc.get? "type" r = some unset
  · rw [fillAndroid, handroid, hr] at htype
    simp [androidType, unset] at htype
  · rw [fillAndroid_eq_self fun h => hr h.1] at htype
    exact hr htype

lemma value_model_fillAndroid : (r.fillAndroid os).value "model" = r.value "model" := by
  rw [fillAndroid]
  split_ifs <;> simp [value_insert]

/-- The vendor that is filled in is another one. -/
lemma vendor_fillAndroid_eq_samsung_iff :
    (r.fillAndroid os).value "vendor" = "Samsung" ↔ r.value "vendor" = "Samsung" := by
  rw [fillAndroid]
  split_ifs with hfills hvendor
  · have hunset : r.value "vendor" = unset := by
      rw [value, beq_iff_eq.mp hvendor, Option.getD_some]
    simp [value_insert, hunset, genericVendor, unset]
  · simp [value_insert]
  · rfl

/-! ### Refined devices -/

lemma get?_type_refineDevice :
    Assoc.get? "type" (r.refineDevice os) = Assoc.get? "type" (r.fillAndroid os) := by
  rw [refineDevice, get?_type_cutModel, get?_type_correctSamsung]

/-- The model after the refinement: it is corrected first, and then cut. -/
lemma value_model_refineDevice : (r.refineDevice os).value "model" = Text.before ';'
    (if r.value "vendor" = "Samsung" ∧ r.value "model" = "Browser" then genericVendor
      else r.value "model") := by
  rw [refineDevice, value_cutModel, if_pos rfl, value_correctSamsung]
  simp only [true_and, vendor_fillAndroid_eq_samsung_iff, value_model_fillAndroid]

lemma vendor_refineDevice_eq_samsung_iff :
    (r.refineDevice os).value "vendor" = "Samsung" ↔ r.value "vendor" = "Samsung" := by
  rw [refineDevice, value_cutModel, if_neg (by decide), value_correctSamsung,
    if_neg fun h => absurd h.1 (by decide), vendor_fillAndroid_eq_samsung_iff]

/-- Of a refined device only the model can still be the name of a browser. -/
lemma hidesBrowser_iff : r.HidesBrowser ↔
    (r.refineDevice os).value "vendor" = "Samsung" ∧
      (r.refineDevice os).value "model" = "Browser" := by
  rw [HidesBrowser, vendor_refineDevice_eq_samsung_iff, value_model_refineDevice]
  refine and_congr_right fun hvendor => ?_
  by_cases hmodel : r.value "model" = "Browser"
  · rw [if_pos ⟨hvendor, hmodel⟩, hmodel]
    refine iff_of_false ?_ (by decide)
    rintro ⟨rest, hrest⟩
    have hlength := congrArg String.length hrest
    simp at hlength
  · rw [if_neg fun h => hmodel h.2, before_eq_iff (by decide), or_iff_right hmodel]

/-- None of the steps of the refinement has anything to do. -/
structure Settled (os r : Record) : Prop where
  type : ¬(Assoc.get? "type" r = some unset ∧ os.isAndroid = true)
  name : ¬(r.value "vendor" = "Samsung" ∧ r.value "model" = "Browser")
  model : ';' ∉ (r.value "model").toList

lemma Settled.refineDevice_eq {r os : Record} (h : Settled os r) : r.refineDevice os = r := by
  rw [refineDevice, fillAndroid_eq_self h.type, (correctSamsung_eq_self_iff r).mpr h.name,
    cutModel_eq_self h.model]

/-- After the refinement no type is left to be filled in. -/
lemma not_fills_refineDevice :
    ¬(Assoc.get? "type" (r.refineDevice os) = some unset ∧ os.isAndroid = true) := by
  rw [get?_type_refineDevice]
  exact not_fills_fillAndroid r os

/-- After the refinement the model has no semicolon. -/
lemma not_mem_model_refineDevice : ';' ∉ ((r.refineDevice os).value "model").toList := by
  rw [value_model_refineDevice]
  exact not_mem_before _ _

/-- The name of a browser is replaced by one that is neither that nor to be cut off. -/
lemma settled_correctSamsung_refineDevice : Settled os (r.refineDevice os).correctSamsung where
  type := by
    rw [get?_type_correctSamsung]
    exact not_fills_refineDevice r os
  name := by
    rw [value_correctSamsung, value_correctSamsung, if_neg fun h => absurd h.1 (by decide)]
    rintro ⟨hvendor, hmodel⟩
    split_ifs at hmodel with h
    · exact absurd hmodel (by decide)
    · exact h ⟨rfl, hvendor, hmodel⟩
  model := by
    rw [value_correctSamsung]
    split_ifs
    · decide
    · exact not_mem_model_refineDevice r os

/-- A second refinement is left with one step. -/
lemma refineDevice_refineDevice :
    (r.refineDevice os).refineDevice os = (r.refineDevice os).correctSamsung := by
  rw [refineDevice, fillAndroid_eq_self (not_fills_refineDevice r os)]
  exact cutModel_eq_self (settled_correctSamsung_refineDevice r os).model

lemma correctSamsung_refineDevice_eq_iff :
    (r.refineDevice os).correctSamsung = r.refineDevice os ↔ ¬r.HidesBrowser := by
  rw [correctSamsung_eq_self_iff, ← hidesBrowser_iff]

lemma toValues_inj {r r' : Record} : r.toValues = r'.toValues ↔ r = r' := by
  refine (List.map_injective_iff.mpr ?_).eq_iff
  rintro ⟨field, value⟩ ⟨field', value'⟩ h
  cases h
  rfl

end Record

/-! ### Records of other values -/

namespace ValueRecord

/-- The name of the operating system is no text, and does not count as none either. -/
def Unreadable (os : ValueRecord) : Prop :=
  ∃ value, Assoc.get? "name" os = some value ∧ value.isTruthy = true ∧ ∀ name, value ≠ .str name

/-- The question for Android fails exactly if the name of the system cannot be read as a text. -/
lemma isAndroid_eq_error_iff {os : ValueRecord} {e : Error} :
    os.isAndroid = .error e ↔ os.Unreadable ∧ e = .notText := by
  rw [isAndroid, Unreadable]
  constructor
  · intro h
    cases hname : Assoc.get? "name" os with
    | none =>
      rw [hname] at h
      cases h
    | some value =>
      rw [hname] at h
      cases value with
      | str name => cases h
      | _ =>
        dsimp only at h
        split_ifs at h with htruthy
        cases h
        exact ⟨⟨_, rfl, htruthy, fun name heq => by cases heq⟩, rfl⟩
  · rintro ⟨⟨value, hname, htruthy, htext⟩, rfl⟩
    rw [hname]
    cases value with
    | str name => exact absurd rfl (htext name)
    | _ => exact if_pos htruthy

/-- A device is refined with a system of other values as with a system of texts, as long as the name of
the system is read or not asked for. -/
lemma exists_texts (r : Record) (os : ValueRecord)
    (h : ¬(Assoc.get? "type" r = some unset ∧ os.Unreadable)) : ∃ os' : Record, ∀ r' : Record,
      (Assoc.get? "type" r' = some unset → Assoc.get? "type" r = some unset) →
        r'.toValues.refineDevice os = .ok (r'.refineDevice os').toValues := by
  cases hos : os.isAndroid with
  | ok isAndroid =>
    obtain ⟨os', hos'⟩ : ∃ os' : Record, os'.isAndroid = isAndroid := by
      cases isAndroid with
      | false => exact ⟨[], rfl⟩
      | true => exact ⟨[("name", "android")], rfl⟩
    refine ⟨os', fun r' _ => ?_⟩
    rw [← Record.refineDevice_toValues, refineDevice, refineDevice, fillAndroid, fillAndroid, hos,
      Record.isAndroid_toValues, hos']
  | error e =>
    have htype : Assoc.get? "type" r ≠ some unset :=
      fun hunset => h ⟨hunset, (isAndroid_eq_error_iff.mp hos).1⟩
    refine ⟨[], fun r' hr' => ?_⟩
    have hholds : r'.toValues.holds "type" unset = false := by
      rw [Record.holds_toValues, beq_eq_false_iff_ne]
      exact mt hr' htype
    rw [← Record.refineDevice_toValues, refineDevice, refineDevice, fillAndroid, fillAndroid, hholds]
    rfl

/-- A device is refined unless its type is unset and the name of the system is unreadable. A second
refinement changes it exactly if it hides the name of a browser, since only the step that looks for this
name is left to do, and after the second one no step is. -/
theorem refineDevice_again_iff (r : Record) (os : ValueRecord) :
    (Assoc.get? "type" r = some unset ∧ os.Unreadable ∧
      r.toValues.refineDevice os = .error .notText) ∨
    ∃ d d', r.toValues.refineDevice os = .ok d ∧ d.refineDevice os = .ok d' ∧
      (d' = d ↔ ¬r.HidesBrowser) ∧ (d.correctSamsung = d ↔ ¬r.HidesBrowser) ∧
      d.cutModel = .ok d ∧ d'.refineDevice os = .ok d' := by
  by_cases h : Assoc.get? "type" r = some unset ∧ os.Unreadable
  · refine .inl ⟨h.1, h.2, ?_⟩
    have hholds : r.toValues.holds "type" unset = true := by
      rw [Record.holds_toValues, beq_iff_eq]
      exact h.1
    rw [refineDevice, fillAndroid, hholds, isAndroid_eq_error_iff.mpr ⟨h.2, rfl⟩]
    rfl
  · -- Otherwise the system can be taken for a record of texts, and the device is refined as texts
    -- are.
    obtain ⟨os', hos'⟩ := exists_texts r os h
    let d := r.refineDevice os'
    have htype : Assoc.get? "type" d = some unset → Assoc.get? "type" r = some unset := by
      intro hd
      by_contra hr
      rw [Record.get?_type_refineDevice, Record.fillAndroid_eq_self fun h => hr h.1] at hd
      exact hr hd
    refine .inr ⟨d.toValues, d.correctSamsung.toValues, hos' r id, ?_, ?_, ?_, ?_, ?_⟩
    · rw [hos' d htype, Record.refineDevice_refineDevice]
    · rw [Record.toValues_inj, Record.correctSamsung_refineDevice_eq_iff]
    · rw [Record.correctSamsung_toValues, Record.toValues_inj,
        Record.correctSamsung_refineDevice_eq_iff]
    · rw [Record.cutModel_toValues,
        Record.cutModel_eq_self (Record.not_mem_model_refineDevice r os')]
    · -- A third refinement changes nothing: the model has no semicolon and is corrected.
      rw [hos' d.correctSamsung, (Record.settled_correctSamsung_refineDevice r os').refineDevice_eq]
      rw [Record.get?_type_correctSamsung]
      exact htype

/-- A device of Samsung whose model is the name of a browser up to a semicolon. -/
def browserModel : Record := [("vendor", "Samsung"), ("model", "Browser;9"), ("type", "mobile")]

/-- It is refined to a record that has the name of the browser as model, and refining that again gives
another one. -/
theorem browser_left_as_model : ∃ d d' : ValueRecord, browserModel.toValues.refineDevice [] = .ok d ∧
    d.refineDevice [] = .ok d' ∧ d' ≠ d ∧
    d = Record.toValues [("vendor", "Samsung"), ("model", "Browser"), ("type", "mobile")] ∧
    d' = Record.toValues [("vendor", "Samsung"), ("model", "Generic"), ("type", "mobile")] := by
  have hrefined : browserModel.refineDevice [] =
      [("vendor", "Samsung"), ("model", "Browser"), ("type", "mobile")] := by
    rfl
  have hagain : (browserModel.refineDevice []).refineDevice [] =
      [("vendor", "Samsung"), ("model", "Generic"), ("type", "mobile")] := by
    rfl
  refine ⟨_, _, browserModel.refineDevice_toValues [],
    (browserModel.refineDevice []).refineDevice_toValues [], ?_, ?_, ?_⟩
  · rw [ne_eq, Record.toValues_inj, hagain, hrefined]
    decide
  · rw [hrefined]
  · rw [hagain]

end ValueRecord

end UserAgent
