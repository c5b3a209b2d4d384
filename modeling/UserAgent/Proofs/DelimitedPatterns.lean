import UserAgent.Proofs.PatternText

/-!
# Patterns that look delimited

The body of a pattern may itself have the form of a delimited text. Such a pattern is read back from the
text that it is written as exactly if it has a flag for which it is written with delimiters of its own
(`Pattern.reads_text_iff`); without one its delimiters are lost.
-/

namespace UserAgent.Pattern

open Regex Compiled

/-! ### Delimited texts -/

/-- A text begins with a slash, and after a later slash it has lower-case letters only, up to its end or
up to a line break that ends it. -/
def LooksDelimited (cs : List Char) : Prop :=
  ∃ body letters, (∀ c ∈ letters, 'a' ≤ c ∧ c ≤ 'z') ∧
    (cs = '/' :: (body ++ '/' :: letters) ∨ cs = '/' :: (body ++ '/' :: (letters ++ ['\n'])))

lemma isFlagLetter_iff {c : Char} : isFlagLetter c = true ↔ 'a' ≤ c ∧ c ≤ 'z' := by
  rw [isFlagLetter, Bool.and_eq_true, decide_eq_true_iff, decide_eq_true_iff]

lemma all_isFlagLetter_iff {letters : List Char} :
    letters.all isFlagLetter = true ↔ ∀ c ∈ letters, 'a' ≤ c ∧ c ≤ 'z' := by
  simp only [List.all_eq_true, isFlagLetter_iff]

/-- The texts that are read as delimited ones are those of the form. -/
lemma looksDelimited_iff {cs : List Char} :
    LooksDelimited cs ↔ ∃ body letters, delimited? cs = some (body, letters) := by
  simp only [LooksDelimited, delimited?_eq_some, all_isFlagLetter_iff]

/-- A text looks delimited exactly if the reader of patterns finds delimiters. -/
lemma looksDelimited_iff_ne_none {cs : List Char} : LooksDelimited cs ↔ delimited? cs ≠ none := by
  rw [looksDelimited_iff, Option.ne_none_iff_exists']
  exact ⟨fun ⟨body, letters, h⟩ => ⟨_, h⟩, fun ⟨⟨body, letters⟩, h⟩ => ⟨body, letters, h⟩⟩

/-! ### Flags that need delimiters -/

/-- A pattern has one of the flags that are written after a delimiter. -/
def HasExtraFlag (p : Pattern) : Prop :=
  p.flags.multiline ∨ p.flags.dotAll ∨ p.flags.verbose

lemma hasExtraFlag_iff (p : Pattern) : p.HasExtraFlag ↔ p.extraLetters ≠ [] := by
  unfold HasExtraFlag extraLetters
  cases p.flags.multiline <;> cases p.flags.dotAll <;> cases p.flags.verbose <;> simp

/-- A pattern is exportable exactly if it is written with letters, or if its body does not look
delimited. -/
lemma exportable_iff (p : Pattern) :
    p.Exportable ↔ p.HasExtraFlag ∨ ¬LooksDelimited p.body.toList := by
  rw [Exportable, hasExtraFlag_iff, looksDelimited_iff_ne_none, not_not, imp_iff_not_or]

/-! ### Reading back what was written -/

variable {text : String} {p q : Pattern}

/-- If a pattern without delimiters of its own looks delimited, what is read from its text has a part of
its body as body: what stands between its first and its last slash. -/
lemma body_of_compile_text [CharacterNames] (hflag : ¬p.HasExtraFlag)
    (hlooks : LooksDelimited p.body.toList)
    (hq : compile p.text = .ok q) : q.body.toList.length < p.body.toList.length := by
  have htext : p.text = p.body := by
    rw [hasExtraFlag_iff, not_not] at hflag
    simp [Pattern.text, hflag]
  obtain ⟨body, letters, hdelimited⟩ := looksDelimited_iff.mp hlooks
  rw [htext, compile, hdelimited] at hq
  obtain ⟨flags, -, hq⟩ := bind_eq_ok.mp hq
  rw [body_of_ofBody hq]
  exact delimited?_length_lt hdelimited

/-- The text that a compiled pattern is written as is read with its body and its flags exactly if the
pattern has a flag for which it is written with delimiters, or does not look delimited itself. What is
read is then the pattern in all its parts; otherwise, if anything is read at all, a part of the body is
lost. -/
theorem reads_text_iff [CharacterNames] (h : compile text = .ok p) :
    ((∃ q, compile p.text = .ok q ∧ q.body = p.body ∧ q.flags = p.flags) ↔
      p.HasExtraFlag ∨ ¬LooksDelimited p.body.toList) ∧
    (p.HasExtraFlag ∨ ¬LooksDelimited p.body.toList → compile p.text = .ok p) ∧
    (¬p.HasExtraFlag → LooksDelimited p.body.toList →
      ∀ q, compile p.text = .ok q → q.body.toList.length < p.body.toList.length) := by
  have hsame : p.HasExtraFlag ∨ ¬LooksDelimited p.body.toList → compile p.text = .ok p := by
    rw [← exportable_iff]
    exact (compile_text_iff h).mpr
  refine ⟨⟨?_, fun hp => ⟨p, hsame hp, rfl, rfl⟩⟩, hsame, fun hflag hlooks q =>
    body_of_compile_text hflag hlooks⟩
  rintro ⟨q, hq, hbody, -⟩
  by_contra hnot
  obtain ⟨hflag, hlooks⟩ := not_or.mp hnot
  have hlt := body_of_compile_text hflag (not_not.mp hlooks) hq
  rw [hbody] at hlt
  exact lt_irrefl _ hlt

/-- Between the delimiters of this text stands a delimited text. -/
def slashesInside : String := "//.+//gs"

/-- It is read back, since the dot stands for line breaks in it. -/
theorem reads_text_slashesInside : ∃ p, compile slashesInside = .ok p ∧ p.body = "/.+/" ∧
    p.HasExtraFlag ∧ LooksDelimited p.body.toList ∧ p.text = "//.+//is" ∧
    ∃ q, compile p.text = .ok q ∧ q.body = p.body ∧ q.flags = p.flags := by
  have hany : (compile slashesInside).toOption.any (fun p => decide (p.body = "/.+/" ∧
      p.flags.dotAll ∧ p.text = "//.+//is")) = true := by
    rfl
  obtain ⟨p, hp, h⟩ := exists_ok_of_any hany
  obtain ⟨hbody, hdotAll, htext⟩ := of_decide_eq_true h
  have hflag : p.HasExtraFlag := .inr (.inl hdotAll)
  have hlooks : LooksDelimited p.body.toList := by
    rw [hbody]
    exact ⟨['.', '+'], [], by simp, .inl rfl⟩
  obtain ⟨hiff, -, -⟩ := reads_text_iff hp
  exact ⟨p, hp, hbody, hflag, hlooks, htext, hiff.mpr (.inl hflag)⟩

end UserAgent.Pattern
