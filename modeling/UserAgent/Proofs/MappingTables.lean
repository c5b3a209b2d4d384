import UserAgent.Mapping
import UserAgent.Proofs.TextParts

/-!
# Mapping tables as they are written

A table that was read from its labels and triggers is written with the same labels in the same order,
and a label has one trigger or a list of them as before. So what is written is read as the same table,
and it decides what every value is looked up as (`MappingTable.ofDict_toDict_lookup`).
-/

namespace UserAgent

namespace Triggers

/-- One of the triggers occurs in a value, in lower case as the value is. -/
def OccurIn (triggers : Triggers) (value : String) : Prop :=
  ∃ trigger ∈ triggers.toList, (Text.lower trigger).toList <:+: (Text.lower value).toList

@[simp] lemma toList_ofList (triggers : List String) : (ofList triggers).toList = triggers := by
  rcases triggers with _ | ⟨first, _ | ⟨second, triggers⟩⟩ <;> rfl

end Triggers

namespace MappingTable

/-! ### Writing and reading -/

/-- The entries of a table that was read are those that were written, one for each label. -/
lemma entries_ofDict (name : String) (dict : List (String × Triggers)) :
    (ofDict name dict).entries =
      (Assoc.ofList dict).map fun entry => (entry.1, entry.2.toList) := rfl

/-- No label of a table is repeated. -/
lemma nodup_labels_ofDict (name : String) (dict : List (String × Triggers)) :
    (Assoc.keys (ofDict name dict).entries).Nodup := by
  rw [entries_ofDict, Assoc.keys, List.map_map]
  exact Assoc.nodup_keys_ofList dict

/-- A table without repeated labels is written entry by entry. -/
lemma toDict_of_nodup {t : MappingTable} (h : (Assoc.keys t.entries).Nodup) :
    t.toDict = t.entries.map fun entry => (entry.1, Triggers.ofList entry.2) := by
  refine Assoc.ofList_of_nodup_keys ?_
  rw [Assoc.keys, List.map_map]
  exact h

lemma ofDict_toDict_of_nodup {t : MappingTable} (h : (Assoc.keys t.entries).Nodup) (name : String) :
    ofDict name t.toDict = ⟨name, t.entries⟩ := by
  have hkeys : (Assoc.keys t.toDict).Nodup := Assoc.nodup_keys_ofList _
  rw [ofDict, Assoc.ofList_of_nodup_keys hkeys, toDict_of_nodup h, List.map_map]
  simp [Function.comp_def]

/-- What a table is written as decides its entries. -/
lemma entries_eq_of_toDict_eq {t t' : MappingTable} (h : (Assoc.keys t.entries).Nodup)
    (h' : (Assoc.keys t'.entries).Nodup) (heq : t.toDict = t'.toDict) : t.entries = t'.entries := by
  have hread := ofDict_toDict_of_nodup h t.name
  rw [heq, ofDict_toDict_of_nodup h'] at hread
  exact (MappingTable.mk.inj hread).2.symm

/-! ### Looking up -/

/-- A trigger occurs if its small letters are part of those of the value. -/
lemma triggeredBy_iff {value trigger : String} : triggeredBy value trigger = true ↔
    (Text.lower trigger).toList <:+: (Text.lower value).toList :=
  Text.occursIn_iff

/-- A value is looked up as the label of the first entry with a trigger in it, or else as itself. -/
lemma lookup_cases_split (t : MappingTable) (value : String) :
    (∃ before label triggers after, t.entries = before ++ (label, triggers) :: after ∧
        triggers.any (triggeredBy value) = true ∧
        (∀ entry ∈ before, entry.2.any (triggeredBy value) = false) ∧ t.lookup value = label) ∨
      (∀ entry ∈ t.entries, entry.2.any (triggeredBy value) = false) ∧ t.lookup value = value := by
  rw [lookup]
  cases hfind : t.entries.find? fun entry => entry.2.any (triggeredBy value) with
  | none =>
    refine .inr ⟨fun entry hentry => ?_, rfl⟩
    simpa using List.find?_eq_none.mp hfind entry hentry
  | some entry =>
    obtain ⟨label, triggers⟩ := entry
    obtain ⟨hany, before, after, hsplit, hbefore⟩ := List.find?_eq_some_iff_append.mp hfind
    exact .inl ⟨before, label, triggers, after, hsplit, hany, by simpa using hbefore, rfl⟩

lemma any_triggeredBy_iff {value : String} {triggers : Triggers} :
    triggers.toList.any (triggeredBy value) = true ↔ triggers.OccurIn value := by
  simp only [List.any_eq_true, triggeredBy_iff, Triggers.OccurIn]

lemma any_triggeredBy_eq_false_iff {value : String} {triggers : Triggers} :
    triggers.toList.any (triggeredBy value) = false ↔ ¬triggers.OccurIn value := by
  rw [← any_triggeredBy_iff, Bool.not_eq_true]

/-- A table that was read is the one that is read from what it is written as. Every value is looked up
as the label of the first entry, in the order in which the entries were declared, with a trigger that
occurs in it without regard to case, or as itself if there is none; a label that was given twice has its
first place and its last triggers. Tables that are written alike look up all values alike. -/
theorem ofDict_toDict_lookup (name : String) (dict : List (String × Triggers)) :
    ofDict (ofDict name dict).name (ofDict name dict).toDict = ofDict name dict ∧
      (∀ value,
        (∃ before label triggers after, Assoc.ofList dict = before ++ (label, triggers) :: after ∧
            triggers.OccurIn value ∧ (∀ entry ∈ before, ¬entry.2.OccurIn value) ∧
            (ofDict name dict).lookup value = label) ∨
          (∀ entry ∈ Assoc.ofList dict, ¬entry.2.OccurIn value) ∧
            (ofDict name dict).lookup value = value) ∧
      ∀ name' dict', (ofDict name dict).toDict = (ofDict name' dict').toDict →
        ∀ value, (ofDict name dict).lookup value = (ofDict name' dict').lookup value := by
  have hnodup := nodup_labels_ofDict name dict
  refine ⟨ofDict_toDict_of_nodup hnodup name, fun value => ?_, fun name' dict' heq value => ?_⟩
  · rcases (ofDict name dict).lookup_cases_split value with
      ⟨before, label, triggers, after, hsplit, hany, hbefore, hlookup⟩ | ⟨hnone, hlookup⟩
    · rw [entries_ofDict] at hsplit
      obtain ⟨before, rest, hdict, rfl, hrest⟩ := List.map_eq_append_iff.mp hsplit
      obtain ⟨⟨label', triggers'⟩, after, rfl, hentry, -⟩ := List.map_eq_cons_iff.mp hrest
      cases hentry
      rw [List.forall_mem_map] at hbefore
      exact .inl ⟨before, _, triggers', after, hdict, any_triggeredBy_iff.mp hany,
        fun entry hmem => any_triggeredBy_eq_false_iff.mp (hbefore entry hmem), hlookup⟩
    · rw [entries_ofDict, List.forall_mem_map] at hnone
      exact .inr ⟨fun entry hmem => any_triggeredBy_eq_false_iff.mp (hnone entry hmem), hlookup⟩
  · -- Tables with one written form have the same entries.
    rw [lookup, lookup, entries_eq_of_toDict_eq hnodup (nodup_labels_ofDict name' dict') heq]

end MappingTable

end UserAgent
