/-!
# Association lists

A list of keyed values in the order in which the keys were first given. Giving a key again replaces
its value and keeps its place.
-/

namespace UserAgent

/-- Keyed values in the order of their first appearance. -/
abbrev Assoc (α : Type u) (β : Type v) := List (α × β)

namespace Assoc

variable {α : Type u} {β : Type v} [DecidableEq α]

/-- The value of a key. -/
def get? (key : α) : Assoc α β → Option β
  | [] => none
  | (k, v) :: rest => if k = key then some v else get? key rest

/-- Whether a key has a value. -/
def contains (key : α) (entries : Assoc α β) : Bool :=
  (get? key entries).isSome

/-- Give a key a value: in its place if the key is there, else at the end. -/
def insert (key : α) (value : β) : Assoc α β → Assoc α β
  | [] => [(key, value)]
  | (k, v) :: rest => if k = key then (key, value) :: rest else (k, v) :: insert key value rest

/-- Give the keys of a list their values, one after the other. -/
def insertAll (entries : Assoc α β) (new : List (α × β)) : Assoc α β :=
  new.foldl (fun entries entry => insert entry.1 entry.2 entries) entries

/-- The association list of a list of keyed values, in which keys may repeat. -/
def ofList (entries : List (α × β)) : Assoc α β :=
  insertAll [] entries

/-- The keys in order. -/
def keys (entries : Assoc α β) : List α :=
  entries.map (·.1)

/-! ### Lookup after an insertion -/

@[simp] theorem get?_nil (key : α) : get? key ([] : Assoc α β) = none := rfl

theorem get?_cons (key k : α) (v : β) (rest : Assoc α β) :
    get? key ((k, v) :: rest) = if k = key then some v else get? key rest := rfl

/-- The value of a key that was inserted is the new one. -/
@[simp] theorem get?_insert_self (key : α) (value : β) (entries : Assoc α β) :
    get? key (insert key value entries) = some value := by
  induction entries with
  | nil => simp [insert, get?]
  | cons entry rest ih =>
    obtain ⟨k, v⟩ := entry
    by_cases h : k = key <;> simp [insert, get?, h, ih]

/-- Insertion leaves the value of every other key. -/
theorem get?_insert_of_ne {key key' : α} (h : key ≠ key') (value : β) (entries : Assoc α β) :
    get? key' (insert key value entries) = get? key' entries := by
  induction entries with
  | nil => simp [insert, get?, h]
  | cons entry rest ih =>
    obtain ⟨k, v⟩ := entry
    by_cases hk : k = key
    · subst hk
      simp [insert, get?, h]
    · simp [insert, get?, hk, ih]

/-! ### Keys -/

/-- A key has no value exactly if it is no key. -/
theorem get?_eq_none_iff {key : α} {entries : Assoc α β} :
    get? key entries = none ↔ key ∉ entries.keys := by
  induction entries with
  | nil => simp [keys]
  | cons entry rest ih =>
    obtain ⟨k, v⟩ := entry
    rw [get?_cons]
    by_cases h : k = key
    · simp [keys, h]
    · rw [if_neg h, ih]
      simp [keys, Ne.symm h]

theorem mem_of_get?_eq_some {key : α} {value : β} {entries : Assoc α β}
    (h : get? key entries = some value) : (key, value) ∈ entries := by
  induction entries with
  | nil => cases h
  | cons entry rest ih =>
    obtain ⟨k, v⟩ := entry
    rw [get?_cons] at h
    by_cases hk : k = key
    · rw [if_pos hk] at h
      cases h
      exact hk ▸ List.mem_cons_self
    · rw [if_neg hk] at h
      exact List.mem_cons_of_mem _ (ih h)

/-- A new key comes last. -/
theorem insert_of_get?_eq_none {key : α} {entries : Assoc α β} (value : β)
    (h : get? key entries = none) : insert key value entries = entries ++ [(key, value)] := by
  induction entries with
  | nil => rfl
  | cons entry rest ih =>
    obtain ⟨k, v⟩ := entry
    rw [get?_cons] at h
    by_cases hk : k = key
    · rw [if_pos hk] at h
      cases h
    · rw [if_neg hk] at h
      rw [insert, if_neg hk, ih h, List.cons_append]

/-- A key that is given the value that it has changes nothing. -/
theorem insert_of_get?_eq_some {key : α} {value : β} {entries : Assoc α β}
    (h : get? key entries = some value) : insert key value entries = entries := by
  induction entries with
  | nil => cases h
  | cons entry rest ih =>
    obtain ⟨k, v⟩ := entry
    rw [get?_cons] at h
    by_cases hk : k = key
    · rw [if_pos hk] at h
      cases h
      rw [insert, if_pos hk, hk]
    · rw [if_neg hk] at h
      rw [insert, if_neg hk, ih h]

/-- A key that is there keeps its place. -/
theorem keys_insert_of_mem {key : α} {entries : Assoc α β} (value : β) (h : key ∈ entries.keys) :
    (insert key value entries).keys = entries.keys := by
  induction entries with
  | nil => cases h
  | cons entry rest ih =>
    obtain ⟨k, v⟩ := entry
    by_cases hk : k = key
    · simp [insert, keys, hk]
    · have hrest : key ∈ keys rest := (List.mem_cons.mp h).resolve_left (Ne.symm hk)
      rw [insert, if_neg hk]
      exact congrArg (k :: ·) (ih hrest)

/-- Insertion does not repeat a key. -/
theorem nodup_keys_insert {key : α} {entries : Assoc α β} (value : β) (h : entries.keys.Nodup) :
    (insert key value entries).keys.Nodup := by
  by_cases hmem : key ∈ entries.keys
  · rw [keys_insert_of_mem value hmem]
    exact h
  · rw [insert_of_get?_eq_none value (get?_eq_none_iff.mpr hmem), keys, List.map_append,
      List.map_singleton]
    refine List.nodup_append.mpr ⟨h, by simp, fun k hk k' hk' heq => hmem ?_⟩
    have hkey : k = key := heq.trans (List.mem_singleton.mp hk')
    exact hkey ▸ hk

/-- Keys that repeat are joined. -/
theorem nodup_keys_ofList (entries : List (α × β)) : (ofList entries).keys.Nodup := by
  have hall : ∀ new : List (α × β), ∀ old : Assoc α β, old.keys.Nodup →
      (insertAll old new).keys.Nodup := by
    intro new
    induction new with
    | nil => exact fun _ h => h
    | cons entry new ih => exact fun old h => ih _ (nodup_keys_insert entry.2 h)
  exact hall entries [] List.nodup_nil

theorem insertAll_of_nodup_keys {entries : Assoc α β} {new : List (α × β)}
    (h : (keys (entries ++ new)).Nodup) : insertAll entries new = entries ++ new := by
  induction new generalizing entries with
  | nil => exact (List.append_nil entries).symm
  | cons entry new ih =>
    obtain ⟨key, value⟩ := entry
    have hnone : get? key entries = none := by
      rw [get?_eq_none_iff]
      intro hkey
      rw [keys, List.map_append] at h
      exact (List.nodup_append.mp h).2.2 key hkey key List.mem_cons_self rfl
    show insertAll (insert key value entries) new = _
    rw [insert_of_get?_eq_none value hnone, ih (by simpa using h), List.append_assoc,
      List.singleton_append]

/-- Entries with different keys are the association list. -/
theorem ofList_of_nodup_keys {entries : List (α × β)} (h : (keys entries).Nodup) :
    ofList entries = entries := by
  have hnil : (keys ([] ++ entries)).Nodup := h
  exact insertAll_of_nodup_keys hnil

end Assoc

end UserAgent
