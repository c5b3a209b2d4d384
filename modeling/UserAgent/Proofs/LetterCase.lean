import Mathlib.Data.List.Forall2
import UserAgent.Refinement
import UserAgent.Mapping
import UserAgent.Transform

/-!
# Texts that differ in the case of letters

Two texts have the same letters if they agree up to the case of ASCII letters. What the program makes
of such texts without a pattern, in transforms, mapping tables and names of browsers, has the same
letters too.
-/

namespace UserAgent

open Unicode

/-! ### Lists in step -/

section Lists

variable {α β : Type} {R : α → β → Prop} {p : α → Bool} {q : β → Bool} {xs : List α} {ys : List β}

/-- Two related lists stay related if a beginning is dropped by conditions that agree. -/
lemma forall₂_dropWhile (h : List.Forall₂ R xs ys) (hpq : ∀ a b, R a b → p a = q b) :
    List.Forall₂ R (xs.dropWhile p) (ys.dropWhile q) := by
  induction h with
  | nil => exact .nil
  | cons hab htail ih =>
    rw [List.dropWhile_cons, List.dropWhile_cons, hpq _ _ hab]
    split
    · exact ih
    · exact .cons hab htail

lemma forall₂_takeWhile (h : List.Forall₂ R xs ys) (hpq : ∀ a b, R a b → p a = q b) :
    List.Forall₂ R (xs.takeWhile p) (ys.takeWhile q) := by
  induction h with
  | nil => exact .nil
  | cons hab htail ih =>
    rw [List.takeWhile_cons, List.takeWhile_cons, hpq _ _ hab]
    split
    · exact .cons hab ih
    · exact .nil

lemma forall₂_getElem? (h : List.Forall₂ R xs ys) (i : Nat) : Option.Rel R xs[i]? ys[i]? := by
  induction h generalizing i with
  | nil => exact .none
  | cons hab _ ih =>
    cases i with
    | zero => exact .some hab
    | succ i => exact ih i

/-- Optional values in step are both absent or both there. -/
lemma rel_cases {x : Option α} {y : Option β} (h : Option.Rel R x y) :
    (x = none ∧ y = none) ∨ ∃ a b, x = some a ∧ y = some b ∧ R a b := by
  cases h with
  | none => exact .inl ⟨rfl, rfl⟩
  | some hab => exact .inr ⟨_, _, rfl, rfl, hab⟩

/-- Searches that agree step by step agree in what they find. -/
lemma rel_findSome? {γ : Type} {f : γ → Option α} {g : γ → Option β} {cs : List γ}
    (h : ∀ c ∈ cs, Option.Rel R (f c) (g c)) :
    Option.Rel R (cs.findSome? f) (cs.findSome? g) := by
  induction cs with
  | nil => exact .none
  | cons c cs ih =>
    obtain ⟨hc, hcs⟩ := List.forall_mem_cons.mp h
    rw [List.findSome?_cons, List.findSome?_cons]
    rcases rel_cases hc with ⟨hf, hg⟩ | ⟨a, b, hf, hg, hab⟩
    · simpa only [hf, hg] using ih hcs
    · simpa only [hf, hg] using Option.Rel.some hab

end Lists

/-! ### Tables of runs -/

lemma Unicode.Shifts.toList_runs_ofRuns (runs : Array (Nat × Nat × Nat × Int)) :
    (Shifts.ofRuns runs).runs.toList =
      runs.toList.map fun run => ⟨run.1, run.2.1, run.2.2.1, run.2.2.2⟩ := by
  simp [Shifts.ofRuns]

/-- A table of shifts leaves a character, or moves it by one of its rows. -/
lemma Unicode.Shifts.apply_cases (s : Shifts) (n : Nat) :
    s.apply n = n ∨ ∃ r ∈ s.runs.toList, r.contains n = true ∧ s.apply n = r.apply n := by
  rw [Shifts.apply, Shifts.image?]
  split
  · rename_i r hr
    split_ifs with hcontains
    · exact .inr ⟨r, Array.mem_toList_iff.mpr (Array.mem_of_getElem? hr), hcontains, rfl⟩
    · exact .inl rfl
  · exact .inl rfl

namespace Text

/-! ### Characters -/

/-- The same character, or the same letter of ASCII in any case. -/
def SameLetter (c d : Char) : Prop :=
  c = d ∨ c.toNat < 0x80 ∧ d.toNat < 0x80 ∧ asciiLower c.toNat = asciiLower d.toNat

lemma SameLetter.refl (c : Char) : SameLetter c c :=
  .inl rfl

/-- What does not depend on the case of ASCII letters. -/
def CaseBlind {β : Type} (f : Nat → β) : Prop :=
  ∀ n < 0x80, f (asciiLower n) = f n

/-- What is blind to the case of letters takes the same value at the same letters. -/
lemma SameLetter.congr {β : Type} {f : Nat → β} (hf : CaseBlind f) {c d : Char}
    (h : SameLetter c d) : f c.toNat = f d.toNat := by
  rcases h with rfl | ⟨hc, hd, h⟩
  · rfl
  · rw [← hf _ hc, h, hf _ hd]

lemma asciiLower_lt {n : Nat} (h : n < 0x80) : asciiLower n < 0x80 := by
  simp only [asciiLower, Bool.and_eq_true, decide_eq_true_eq]
  split_ifs <;> omega

/-- To fold a character twice is to fold it once. -/
lemma asciiLower_asciiLower (n : Nat) : asciiLower (asciiLower n) = asciiLower n := by
  simp only [asciiLower, Bool.and_eq_true, decide_eq_true_eq]
  split_ifs <;> omega

lemma lowerCode_of_lt {n : Nat} (h : n < 0x80) : lowerCode n = asciiLower n := by
  rw [lowerCode, if_pos h]

lemma toNat_ofNat_of_lt {n : Nat} (h : n < 0x80) : (Char.ofNat n).toNat = n := by
  rw [Char.ofNat, dif_pos (.inl (Nat.lt_trans h (by decide)))]
  rfl

/-- The small letter of an ASCII character is the one of ASCII. -/
lemma lowerFull_of_lt {n : Nat} (h : n < 0x80) : lowerFull n = [asciiLower n] := by
  have hdotted : (n == dottedCapitalI) = false := by
    rw [beq_eq_false_iff_ne, dottedCapitalI]
    omega
  rw [lowerFull, hdotted, lowerCode_of_lt h]
  rfl

/-- What agrees on ASCII with something blind is blind. -/
lemma CaseBlind.of_ascii {β : Type} {f g : Nat → β} (hg : CaseBlind g) (h : ∀ n < 0x80, f n = g n) :
    CaseBlind f := by
  intro n hn
  rw [h _ (asciiLower_lt hn), h _ hn, hg n hn]

/-- Small letters are the same for both cases. -/
lemma caseBlind_lowerFull : CaseBlind lowerFull := by
  intro n hn
  rw [lowerFull_of_lt (asciiLower_lt hn), lowerFull_of_lt hn, asciiLower_asciiLower]

lemma caseBlind_isAsciiBlank : CaseBlind isAsciiBlank := by
  intro n _
  simp only [isAsciiBlank, asciiLower, Bool.and_eq_true, decide_eq_true_eq]
  grind

/-- No letter is white space, in either case. -/
lemma caseBlind_isBlank : CaseBlind Unicode.isBlank := by
  have hascii : CaseBlind fun n => isAsciiBlank n || (0x1c ≤ n && n ≤ 0x1f) := by
    intro n _
    simp only [isAsciiBlank, asciiLower, Bool.and_eq_true, decide_eq_true_eq]
    grind
  exact hascii.of_ascii fun n hn => by rw [Unicode.isBlank, if_pos hn]

lemma caseBlind_isAsciiDigit : CaseBlind isAsciiDigit := by
  intro n _
  simp only [isAsciiDigit, asciiLower, Bool.and_eq_true, decide_eq_true_eq]
  grind

/-- No letter is a digit, in either case. -/
lemma caseBlind_isDigit : CaseBlind Unicode.isDigit :=
  caseBlind_isAsciiDigit.of_ascii fun n hn => by rw [Unicode.isDigit, if_pos hn]

lemma caseBlind_isAsciiWord : CaseBlind isAsciiWord := by
  intro n _
  simp only [isAsciiWord, isAsciiAlphanumeric, asciiLower, Bool.and_eq_true, decide_eq_true_eq]
  grind

/-- Letters are parts of words in both cases. -/
lemma caseBlind_isWord : CaseBlind isWord :=
  caseBlind_isAsciiWord.of_ascii fun n hn => by
    rw [isWord, isAlphanumeric, if_pos hn, isAsciiWord]

lemma caseBlind_casedLetters : CaseBlind casedLetters.contains := by
  unfold CaseBlind
  decide +kernel

lemma caseBlind_caseIgnorables : CaseBlind caseIgnorables.contains := by
  unfold CaseBlind
  decide +kernel

/-- The comparison with a character that is no letter is blind to case. -/
lemma caseBlind_beq {k : Nat} (hk : isAsciiLetter k = false) : CaseBlind (· == k) := by
  intro n hn
  simp only [isAsciiLetter, asciiLower, Bool.or_eq_false_iff, Bool.and_eq_false_iff,
    decide_eq_false_iff_not, Bool.and_eq_true, decide_eq_true_eq] at hk ⊢
  rw [Bool.eq_iff_iff, beq_iff_eq, beq_iff_eq]
  split <;> omega

/-- A character that is no letter is not taken for another one. -/
lemma SameLetter.beq_eq {c d e : Char} (h : SameLetter c d) (he : isAsciiLetter e.toNat = false) :
    (c == e) = (d == e) := by
  have hcode : ∀ a : Char, (a == e) = (a.toNat == e.toNat) := by
    intro a
    rw [Bool.eq_iff_iff, beq_iff_eq, beq_iff_eq, Char.toNat_inj]
  rw [hcode, hcode]
  exact h.congr (caseBlind_beq he)

/-- A character beyond ASCII has no lower case in ASCII, apart from the capital I with a dot and the
Kelvin sign, which has the k. -/
lemma lowerCode_lt {n : Nat} (h : lowerCode n < 0x80) :
    n < 0x80 ∨ n = dottedCapitalI ∨ lowerCode n = 0x6b := by
  have hruns : ∀ r ∈ lowerShifts.runs.toList,
      0x80 ≤ r.first + r.distance ∨ r.first = r.last ∧ r.first + r.distance = 0x6b := by
    rw [lowerShifts, Shifts.toList_runs_ofRuns, List.forall_mem_map]
    decide +kernel
  rw [lowerCode] at h ⊢
  split_ifs at h ⊢ with hascii hdotted
  · exact .inl hascii
  · exact .inr (.inl (beq_iff_eq.mp hdotted))
  · rcases lowerShifts.apply_cases n with hkept | ⟨r, hr, hcontains, happly⟩
    · rw [hkept] at h
      exact .inl h
    · have hbound := hruns r hr
      simp only [Run.contains, Bool.and_eq_true, decide_eq_true_eq] at hcontains
      rw [happly, Run.apply] at h ⊢
      omega

lemma lt_of_isAsciiLetter {n : Nat} (h : isAsciiLetter n = true) : n < 0x80 := by
  simp only [isAsciiLetter, Bool.or_eq_true, Bool.and_eq_true, decide_eq_true_eq] at h
  omega

/-- A number that stands for a letter is a character's. -/
lemma toNat_ofNat_eq_of_isAsciiLetter {n : Nat} (h : isAsciiLetter (Char.ofNat n).toNat = true) :
    (Char.ofNat n).toNat = n := by
  by_cases hvalid : n.isValidChar
  · rw [Char.ofNat, dif_pos hvalid]
    rfl
  · rw [Char.ofNat, dif_neg hvalid] at h
    exact absurd h (by decide)

/-! ### Lower case of ASCII texts -/

lemma lowerAfter_cons_of_ascii {before cs : List Char} {c : Char} (hc : c.toNat < 0x80) :
    lowerAfter before (c :: cs) = Char.ofNat (asciiLower c.toNat) :: lowerAfter (c :: before) cs := by
  have hsigma : (c == capitalSigma) = false := by
    rw [beq_eq_false_iff_ne]
    rintro rfl
    exact absurd hc (by decide)
  rw [lowerAfter, hsigma, lowerFull_of_lt hc]
  rfl

/-- The small letters of an ASCII text, wherever it stands: there is no final sigma in it. -/
lemma lowerAfter_of_ascii {before cs : List Char} (hcs : ∀ c ∈ cs, c.toNat < 0x80) :
    lowerAfter before cs = cs.map fun c => Char.ofNat (asciiLower c.toNat) := by
  induction cs generalizing before with
  | nil => rfl
  | cons c cs ih =>
    obtain ⟨hc, hcs⟩ := List.forall_mem_cons.mp hcs
    rw [lowerAfter_cons_of_ascii hc, ih hcs, List.map_cons]

/-- An ASCII text is lowered character by character. -/
lemma toList_lower_of_ascii {s : String} (hs : ∀ c ∈ s.toList, c.toNat < 0x80) :
    (lower s).toList = s.toList.map fun c => Char.ofNat (asciiLower c.toNat) := by
  rw [lower, String.toList_ofList, lowerChars, lowerAfter_of_ascii hs]

/-- An ASCII text without capitals is its own lower case. -/
lemma lower_eq_self {s : String} (hs : ∀ c ∈ s.toList, c.toNat < 0x80 ∧ asciiLower c.toNat = c.toNat) :
    lower s = s := by
  have hself : ∀ c ∈ s.toList, Char.ofNat (asciiLower c.toNat) = c := by
    intro c hc
    rw [(hs c hc).2, Char.ofNat_toNat]
  rw [← String.toList_inj, toList_lower_of_ascii fun c hc => (hs c hc).1, List.map_congr_left hself,
    List.map_id']

/-! ### Texts -/

/-- Texts that agree up to the case of ASCII letters. -/
def SameLetters (s t : String) : Prop :=
  List.Forall₂ SameLetter s.toList t.toList

lemma forall₂_refl (cs : List Char) : List.Forall₂ SameLetter cs cs :=
  List.forall₂_same.mpr fun c _ => .refl c

namespace SameLetters

variable {s t s' t' : String}

lemma refl (s : String) : SameLetters s s :=
  forall₂_refl s.toList

lemma ofList {cs ds : List Char} (h : List.Forall₂ SameLetter cs ds) :
    SameLetters (String.ofList cs) (String.ofList ds) := by
  simpa [SameLetters] using h

lemma append (h : SameLetters s t) (h' : SameLetters s' t') : SameLetters (s ++ s') (t ++ t') := by
  rw [SameLetters, String.toList_append, String.toList_append]
  exact List.rel_append h h'

lemma isEmpty_eq (h : SameLetters s t) : s.isEmpty = t.isEmpty := by
  have hlength := h.length_eq
  rw [Bool.eq_iff_iff, String.isEmpty_iff, String.isEmpty_iff, ← String.toList_eq_nil_iff,
    ← String.toList_eq_nil_iff, ← List.length_eq_zero_iff, ← List.length_eq_zero_iff, hlength]

/-! ### Lower case -/

/-- Texts with the same letters begin alike as to whether a letter with case comes first. -/
lemma startsCased_eq {cs ds : List Char} (h : List.Forall₂ SameLetter cs ds) :
    startsCased cs = startsCased ds := by
  have hdrop := forall₂_dropWhile h fun c d (hcd : SameLetter c d) =>
    hcd.congr caseBlind_caseIgnorables
  rw [startsCased, startsCased]
  revert hdrop
  generalize cs.dropWhile _ = cs'
  generalize ds.dropWhile _ = ds'
  rintro (_ | ⟨hcd, _⟩)
  · rfl
  · exact hcd.congr caseBlind_casedLetters

/-- Texts with the same letters have the same small letters. -/
lemma lowerAfter_eq {before before' cs ds : List Char} (hbefore : List.Forall₂ SameLetter before before')
    (h : List.Forall₂ SameLetter cs ds) : lowerAfter before cs = lowerAfter before' ds := by
  induction h generalizing before before' with
  | nil => rfl
  | @cons c d cs ds hcd htail ih =>
    rw [lowerAfter, lowerAfter, ih (.cons hcd hbefore), hcd.beq_eq (by decide),
      hcd.congr caseBlind_lowerFull, lowerSigma, lowerSigma, startsCased_eq hbefore,
      startsCased_eq htail]

lemma lower_eq (h : SameLetters s t) : lower s = lower t := by
  rw [lower, lower, lowerChars, lowerChars, lowerAfter_eq .nil h]

/-- ASCII characters with the same small letter are the same letter. -/
lemma sameLetter_of_lower_eq {c d : Char} (hc : c.toNat < 0x80) (hd : d.toNat < 0x80)
    (h : Char.ofNat (asciiLower c.toNat) = Char.ofNat (asciiLower d.toNat)) : SameLetter c d := by
  refine .inr ⟨hc, hd, ?_⟩
  rw [← toNat_ofNat_of_lt (asciiLower_lt hc), h, toNat_ofNat_of_lt (asciiLower_lt hd)]

/-- ASCII texts with the same small letters have the same letters. -/
lemma forall₂_of_lowerAfter_eq {before before' cs ds : List Char}
    (hcs : ∀ c ∈ cs, c.toNat < 0x80) (hds : ∀ d ∈ ds, d.toNat < 0x80)
    (h : lowerAfter before cs = lowerAfter before' ds) : List.Forall₂ SameLetter cs ds := by
  induction cs generalizing before before' ds with
  | nil =>
    cases ds with
    | nil => exact .nil
    | cons d ds =>
      rw [lowerAfter_cons_of_ascii (hds d List.mem_cons_self)] at h
      cases h
  | cons c cs ih =>
    obtain ⟨hc, hcs⟩ := List.forall_mem_cons.mp hcs
    rw [lowerAfter_cons_of_ascii hc] at h
    cases ds with
    | nil => cases h
    | cons d ds =>
      obtain ⟨hd, hds⟩ := List.forall_mem_cons.mp hds
      rw [lowerAfter_cons_of_ascii hd] at h
      obtain ⟨hhead, htail⟩ := List.cons.inj h
      exact .cons (sameLetter_of_lower_eq hc hd hhead) (ih hcs hds htail)

/-- ASCII texts with one lower case have the same letters. -/
lemma of_lower_eq (hs : ∀ c ∈ s.toList, c.toNat < 0x80) (ht : ∀ c ∈ t.toList, c.toNat < 0x80)
    (h : lower s = lower t) : SameLetters s t :=
  forall₂_of_lowerAfter_eq hs ht (String.ofList_injective h)

/-- A text is ASCII if its lower case has ASCII letters only, and no k, which the Kelvin sign has for its
lower case. -/
lemma toNat_lt_of_lowerAfter {before cs : List Char}
    (h : ∀ d ∈ lowerAfter before cs, isAsciiLetter d.toNat = true ∧ d ≠ 'k') :
    ∀ c ∈ cs, c.toNat < 0x80 := by
  induction cs generalizing before with
  | nil => exact List.forall_mem_nil _
  | cons c cs ih =>
    rw [lowerAfter, List.forall_mem_append] at h
    refine List.forall_mem_cons.mpr ⟨?_, ih h.2⟩
    obtain ⟨hhead, -⟩ := h
    split_ifs at hhead
    · -- Neither form of the small sigma is an ASCII letter.
      have hsigma := (hhead _ (List.mem_singleton_self _)).1
      rw [lowerSigma] at hsigma
      split_ifs at hsigma <;> exact absurd hsigma (by decide)
    · rw [lowerFull] at hhead
      split_ifs at hhead with hdotted
      · have hdot := (hhead (Char.ofNat 0x307) (by simp [ofCodes])).1
        exact absurd hdot (by decide)
      · obtain ⟨hletter, hk⟩ := hhead (Char.ofNat (lowerCode c.toNat)) (by simp [ofCodes])
        have hcode := toNat_ofNat_eq_of_isAsciiLetter hletter
        rw [hcode] at hletter
        rcases lowerCode_lt (lt_of_isAsciiLetter hletter) with hc | hc | hc
        · exact hc
        · exact absurd (beq_iff_eq.mpr hc) hdotted
        · rw [hc] at hk
          exact absurd rfl hk

/-- A text whose lower case is a word of ASCII letters without a k has the letters of that word. -/
lemma of_lower_eq_word (ht : ∀ d ∈ t.toList, isAsciiLetter d.toNat = true ∧ d ≠ 'k')
    (hlower : lower t = t) (h : lower s = t) : SameLetters s t := by
  have htAscii : ∀ d ∈ t.toList, d.toNat < 0x80 := fun d hd => lt_of_isAsciiLetter (ht d hd).1
  have hsAscii : ∀ c ∈ s.toList, c.toNat < 0x80 := by
    rw [← h, lower, String.toList_ofList] at ht
    exact toNat_lt_of_lowerAfter ht
  exact of_lower_eq hsAscii htAscii (h.trans hlower.symm)

/-! ### Other functions on texts -/

/-- The same letters are left if an end is dropped by a condition that is blind to case. -/
lemma dropEndWhile {p : Char → Bool} (h : SameLetters s t)
    (hp : ∀ c d, SameLetter c d → p c = p d) :
    SameLetters (Text.dropEndWhile p s) (Text.dropEndWhile p t) :=
  ofList (List.forall₂_reverse_iff.mpr (forall₂_dropWhile (List.forall₂_reverse_iff.mpr h) hp))

/-- Texts with the same letters have the same letters between their white space. -/
lemma trim (h : SameLetters s t) : SameLetters (Text.trim s) (Text.trim t) := by
  have hblank : ∀ c d, SameLetter c d → isBlank c = isBlank d := fun c d hcd =>
    hcd.congr caseBlind_isBlank
  exact (ofList (forall₂_dropWhile h hblank)).dropEndWhile hblank

end SameLetters

end Text

/-! ### Values of fields -/

section Values

variable {s t : String} (h : Text.SameLetters s t)

include h

/-- A table gives one label, or leaves both texts as they are. -/
lemma MappingTable.sameLetters_lookup (table : MappingTable) :
    Text.SameLetters (table.lookup s) (table.lookup t) := by
  have htriggered : triggeredBy s = triggeredBy t := by
    funext trigger
    rw [triggeredBy, triggeredBy, h.lower_eq]
  rw [lookup, lookup, htriggered]
  generalize table.entries.find? _ = found
  cases found with
  | none => exact h
  | some entry => exact .refl entry.1

/-- The canonical names of browsers have the same letters if the names do. -/
lemma sameLetters_canonicalBrowserName :
    Text.SameLetters (canonicalBrowserName s) (canonicalBrowserName t) := by
  rw [canonicalBrowserName, canonicalBrowserName, h.lower_eq]
  cases Assoc.get? (Text.lower t) browserAliases with
  | none => exact h
  | some name => exact .refl name

/-- So have the first numbers of versions. -/
lemma sameLetters_majorVersion : Text.SameLetters (majorVersion s) (majorVersion t) := by
  refine .ofList (forall₂_takeWhile (List.rel_filter (fun c d hcd => ?_) h) fun c d hcd => ?_)
  · have hdigit : Template.isDigit c = Template.isDigit d := hcd.congr Text.caseBlind_isDigit
    show (Template.isDigit c || c == '.') = true ↔ (Template.isDigit d || d == '.') = true
    rw [hdigit, hcd.beq_eq (by decide)]
  · rw [bne, bne, hcd.beq_eq (by decide)]

end Values

end UserAgent
