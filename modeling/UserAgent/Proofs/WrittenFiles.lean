import UserAgent.Proofs.Agreement

/-!
# What is written is read again

After a file was written, its content is at the path that it was written to, and so is its text if it
has line feeds only.
-/

namespace UserAgent

open Compiled

/-! ### Contents -/

namespace FileTree

variable {t t' : FileTree} {location : Location}

lemma found_setEntry_self (h : location ≠ []) (entry : Entry) :
    entry? (t.setEntry location entry) location = some entry := by
  simp [setEntry, entry?, h]

/-- What stands at every other place stays. -/
lemma found_setEntry_of_ne {other : Location} (h : location ≠ other) (entry : Entry) :
    entry? (t.setEntry location entry) other = t.entry? other := by
  simp only [setEntry, entry?, Assoc.get?_insert_of_ne h]

/-- A path that leads to a location leads there still when something other than a directory was put
into its place. -/
lemma follow_setEntry {names : List String} {start : Location} (entry : Entry)
    (hfile : t.entry? location ≠ some .directory) (h : t.follow start names = .ok location) :
    (t.setEntry location entry).follow start names = .ok location := by
  induction names generalizing start with
  | nil => exact h
  | cons name names ih =>
    rw [follow] at h ⊢
    cases hstart : t.entry? start with
    | none => simp [hstart] at h
    | some found =>
      cases found with
      | file content => simp [hstart] at h
      | directory =>
        have hne : location ≠ start := by
          rintro rfl
          exact hfile hstart
        rw [hstart] at h
        rw [found_setEntry_of_ne hne, hstart]
        exact ih h

lemma locate_eq_ok {p : Path} : t.locate p = .ok location ↔
    t.follow (if p.isAbsolute then [] else t.workingDirectory) p.names = .ok location := by
  rw [locate]
  cases t.follow (if p.isAbsolute then [] else t.workingDirectory) p.names <;>
    simp [Except.mapError]

/-- A path leads where it led after its file is written. -/
lemma locate_setEntry {p : Path} (entry : Entry) (hfile : t.entry? location ≠ some .directory)
    (h : t.locate p = .ok location) : (t.setEntry location entry).locate p = .ok location :=
  locate_eq_ok.mpr (follow_setEntry entry hfile (locate_eq_ok.mp h))

/-- To write a file is to set the entry at its place, which is no directory. -/
lemma write_eq_ok {p : Path} {content : List UInt8} :
    t.write p content = .ok t' ↔ ∃ location, t.locate p = .ok location ∧
      t.entry? location ≠ some .directory ∧ t.setEntry location (.file content) = t' := by
  rw [write, update, bind_eq_ok]
  refine exists_congr fun location => and_congr_right fun _ => ?_
  cases t.entry? location with
  | none => simp [pure_eq_ok]
  | some entry => cases entry <;> simp [pure_eq_ok]

/-- A file that was written has the content that was written. -/
theorem read_of_write {p : Path} {content : List UInt8} (h : t.write p content = .ok t') :
    t'.read p = .ok content := by
  obtain ⟨location, hlocate, hfile, rfl⟩ := write_eq_ok.mp h
  have hne : location ≠ [] := by
    rintro rfl
    exact hfile rfl
  rw [read, bind_eq_ok]
  exact ⟨location, locate_setEntry _ hfile hlocate, by simp [found_setEntry_self hne, pure_eq_ok]⟩

end FileTree

/-! ### Texts -/

lemma Utf8.decode_encode (s : String) : Utf8.decode (Utf8.encode s) = .ok s := by
  have hbytes : (⟨s.toUTF8.data.toList.toArray⟩ : ByteArray) = s.toUTF8 := by simp
  have hvalid : s.toUTF8.IsValidUTF8 := s.isValidUTF8
  rw [decode, encode, hbytes, String.fromUTF8?, dif_pos hvalid]
  rfl

namespace Text

/-- The ends of lines are taken from the left. -/
lemma lineFeeds_cons (c : Char) (cs : List Char) : lineFeeds (c :: cs) =
    if c ≠ '\r' then c :: lineFeeds cs
    else if cs.head? = some '\n' then lineFeeds cs else '\n' :: lineFeeds cs := by
  split_ifs with hc hhead
  · rw [lineFeeds]
    · exact fun _ h _ => hc h
    · exact hc
  · obtain rfl := not_not.mp hc
    obtain ⟨cs', rfl⟩ := List.head?_eq_some_iff.mp hhead
    rw [lineFeeds, lineFeeds]
    · simp
    · simp
  · obtain rfl := not_not.mp hc
    rw [lineFeeds]
    rintro cs' rfl
    exact hhead rfl

lemma normalizeLines_eq_self {s : String} (h : '\r' ∉ s.toList) : normalizeLines s = s := by
  have hfeeds : ∀ cs : List Char, '\r' ∉ cs → lineFeeds cs = cs := by
    intro cs hcs
    induction cs with
    | nil => rfl
    | cons c cs ih =>
      obtain ⟨hc, hcs⟩ := not_or.mp (mt List.mem_cons.mpr hcs)
      rw [lineFeeds_cons, if_pos (Ne.symm hc), ih hcs]
  rw [normalizeLines, hfeeds _ h, String.ofList_toList]

end Text

namespace Machine

open Host

/-- The text of a file that was written is read again, if its lines end in line feeds. -/
theorem textAt_of_writeText {machine machine' : Machine} {path : Path} {text : String}
    (h : (writeText path text : StateM Machine (Except FileError Unit)) machine = (.ok (), machine'))
    (hlines : '\r' ∉ text.toList) : machine'.textAt path = .ok text := by
  have hrun : changeFiles (·.write path (Utf8.encode text)) machine = (.ok (), machine') := h
  rw [changeFiles] at hrun
  split at hrun
  · rename_i files hwrite
    cases hrun
    rw [textAt, FileTree.read_of_write hwrite]
    dsimp only
    rw [textOf, Utf8.decode_encode]
    show Except.ok (Text.normalizeLines text) = .ok text
    rw [Text.normalizeLines_eq_self hlines]
  · cases hrun

end Machine

end UserAgent
