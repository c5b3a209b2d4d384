import Mathlib.Data.List.Infix
import Mathlib.Tactic.Common
import UserAgent.Text.Slice

/-!
# Parts of texts

What occurs in a text, what a joined text consists of, and how texts that were joined are split again
(`Text.splitOn_joinWith`).
-/

namespace UserAgent.Text

/-- The search for a part decides whether there is one. -/
lemma occursIn_iff {part cs : List Char} : occursIn part cs = true ↔ part <:+: cs := by
  induction cs with
  | nil => rw [occursIn, List.isEmpty_iff, List.infix_nil]
  | cons c cs ih =>
    rw [occursIn, Bool.or_eq_true, List.isPrefixOf_iff_prefix, ih, List.infix_cons_iff]

/-! ### Joined texts -/

lemma toList_joinWith_cons (separator s t : String) (rest : List String) :
    (joinWith separator (s :: t :: rest)).toList =
      s.toList ++ (separator.toList ++ (joinWith separator (t :: rest)).toList) := by
  simp [joinWith]

lemma toList_joinWith (separator s : String) (rest : List String) :
    ∃ cs, (joinWith separator (s :: rest)).toList = s.toList ++ cs := by
  cases rest with
  | nil => exact ⟨[], by simp [joinWith]⟩
  | cons t rest => exact ⟨_, toList_joinWith_cons separator s t rest⟩

/-- The characters of a joined text are those of its parts and of the separator. -/
lemma forall_mem_joinWith {P : Char → Prop} {separator : String} {texts : List String}
    (hseparator : ∀ c ∈ separator.toList, P c) (htexts : ∀ s ∈ texts, ∀ c ∈ s.toList, P c) :
    ∀ c ∈ (joinWith separator texts).toList, P c := by
  induction texts with
  | nil => simp [joinWith]
  | cons s texts ih =>
    obtain ⟨hs, htexts⟩ := List.forall_mem_cons.mp htexts
    cases texts with
    | nil => exact hs
    | cons t texts =>
      rw [toList_joinWith_cons, List.forall_mem_append, List.forall_mem_append]
      exact ⟨hs, hseparator, ih htexts⟩

lemma not_mem_joinWith {mark : Char} {separator : String} {texts : List String}
    (hseparator : mark ∉ separator.toList) (htexts : ∀ s ∈ texts, mark ∉ s.toList) :
    mark ∉ (joinWith separator texts).toList := by
  simp only [List.forall_mem_ne.symm] at hseparator htexts ⊢
  exact forall_mem_joinWith hseparator htexts

/-! ### Texts between marks -/

variable {mark : Char}

/-- A text without the mark is one piece. -/
lemma splitAfter_of_not_mem {cs : List Char} (h : mark ∉ cs) (piece : List Char) :
    splitAfter mark piece cs = [piece.reverse ++ cs] := by
  induction cs generalizing piece with
  | nil => simp [splitAfter]
  | cons c cs ih =>
    obtain ⟨hc, hcs⟩ := not_or.mp (mt List.mem_cons.mpr h)
    rw [splitAfter, if_neg (by simpa using Ne.symm hc), ih hcs]
    simp

/-- A piece ends at the first mark. -/
lemma splitAfter_append {cs : List Char} (h : mark ∉ cs) (piece rest : List Char) :
    splitAfter mark piece (cs ++ mark :: rest) =
      (piece.reverse ++ cs) :: splitAfter mark [] rest := by
  induction cs generalizing piece with
  | nil => simp [splitAfter]
  | cons c cs ih =>
    obtain ⟨hc, hcs⟩ := not_or.mp (mt List.mem_cons.mpr h)
    rw [List.cons_append, splitAfter, if_neg (by simpa using Ne.symm hc), ih hcs]
    simp

/-- No piece has the mark. -/
lemma not_mem_of_mem_splitAfter {cs piece part : List Char} (hpiece : mark ∉ piece)
    (h : part ∈ splitAfter mark piece cs) : mark ∉ part := by
  induction cs generalizing piece with
  | nil =>
    obtain rfl : part = piece.reverse := by simpa [splitAfter] using h
    simpa using hpiece
  | cons c cs ih =>
    rw [splitAfter] at h
    split at h
    · rcases List.mem_cons.mp h with rfl | h
      · simpa using hpiece
      · exact ih List.not_mem_nil h
    · rename_i hc
      refine ih ?_ h
      rw [List.mem_cons, not_or]
      exact ⟨fun heq => hc (by simp [heq]), hpiece⟩

/-- Texts that do not contain a mark are the pieces between the marks that join them. -/
lemma splitOn_joinWith {texts : List String} (hne : texts ≠ [])
    (h : ∀ s ∈ texts, mark ∉ s.toList) :
    splitOn mark (joinWith (String.ofList [mark]) texts) = texts := by
  induction texts with
  | nil => exact absurd rfl hne
  | cons s texts ih =>
    obtain ⟨hs, htexts⟩ := List.forall_mem_cons.mp h
    cases texts with
    | nil => simp [splitOn, joinWith, splitAfter_of_not_mem hs]
    | cons t texts =>
      have hrest := ih (List.cons_ne_nil _ _) htexts
      rw [splitOn] at hrest ⊢
      rw [joinWith, String.toList_append, String.toList_append, String.toList_ofList,
        List.append_assoc, List.singleton_append, splitAfter_append hs, List.map_cons, hrest]
      simp

end UserAgent.Text
