import UserAgent.Proofs.DelimitedPatterns
import UserAgent.Proofs.Loading

/-!
# Letters after a delimiter

In a text of the form `/body/letters` the body reaches from the first slash to the last one, whatever
slashes and line breaks stand in it. The letters name flags, in any order and as often as one likes, and
two of them name none. A letter that is not among these is refused, whatever the body is:
`FieldSpec.compilePattern_delimitedText`.
-/

namespace UserAgent

open Regex Compiled

namespace Pattern

/-! ### Flags by their letters -/

/-- The letters that may follow a delimiter. -/
def flagLetters : List Char := ['i', 'm', 's', 'x', 'g', 'u']

/-- The flags that letters name. Case is ignored in any event. -/
def flagsOf (letters : List Char) : Flags where
  ignoreCase := true
  multiline := letters.contains 'm'
  dotAll := letters.contains 's'
  verbose := letters.contains 'x'

/-- Only the letters of three flags count, and of these only which ones are there. -/
lemma flagsOf_congr {letters others : List Char}
    (h : ∀ c ∈ ['m', 's', 'x'], c ∈ letters ↔ c ∈ others) : flagsOf letters = flagsOf others := by
  simp only [List.forall_mem_cons] at h
  obtain ⟨hm, hs, hx, -⟩ := h
  simp [flagsOf, hm, hs, hx]

/-- One more letter adds the flag that it names. -/
lemma flagsOf_concat {letter : Char} (h : letter ∈ flagLetters) (letters : List Char) :
    ∃ flag, delimiterFlag? letter = some flag ∧
      (flagsOf letters).union flag = flagsOf (letters ++ [letter]) := by
  simp only [flagLetters, List.mem_cons, List.not_mem_nil, or_false] at h
  rcases h with rfl | rfl | rfl | rfl | rfl | rfl <;>
    exact ⟨_, rfl, by simp [flagsOf, Flags.union]⟩

lemma delimiterFlag?_eq_none {letter : Char} (h : letter ∉ flagLetters) :
    delimiterFlag? letter = none := by
  unfold delimiterFlag?
  split <;> simp_all [flagLetters]

/-- Letters that may follow a delimiter are read one after the other. -/
lemma addLetters_flagsOf {letters : List Char} (h : ∀ c ∈ letters, c ∈ flagLetters)
    (before : List Char) : addLetters (flagsOf before) letters = .ok (flagsOf (before ++ letters)) := by
  induction letters generalizing before with
  | nil => simp [addLetters]
  | cons letter letters ih =>
    obtain ⟨hletter, hletters⟩ := List.forall_mem_cons.mp h
    obtain ⟨flag, hflag, hunion⟩ := flagsOf_concat hletter before
    simp only [addLetters, hflag, hunion]
    simpa using ih hletters (before ++ [letter])

/-- The first letter that may not follow a delimiter is refused. -/
lemma addLetters_unsupported {before after : List Char} {letter : Char}
    (hbefore : ∀ c ∈ before, c ∈ flagLetters) (hletter : letter ∉ flagLetters) (flags : Flags) :
    addLetters flags (before ++ letter :: after) = .error (.unsupportedFlag letter) := by
  induction before generalizing flags with
  | nil => simp [addLetters, delimiterFlag?_eq_none hletter]
  | cons c before ih =>
    obtain ⟨hc, hrest⟩ := List.forall_mem_cons.mp hbefore
    obtain ⟨flag, hflag, -⟩ := flagsOf_concat hc []
    simp only [List.cons_append, addLetters, hflag]
    exact ih hrest _

/-- Letters are either all among those that may follow a delimiter, or there is a first one that is
not. -/
lemma letters_cases (letters : List Char) : (∀ c ∈ letters, c ∈ flagLetters) ∨
    ∃ before letter after, letters = before ++ letter :: after ∧
      (∀ c ∈ before, c ∈ flagLetters) ∧ letter ∉ flagLetters := by
  induction letters with
  | nil => exact .inl (by simp)
  | cons c letters ih =>
    by_cases hc : c ∈ flagLetters
    · rcases ih with hall | ⟨before, letter, after, rfl, hbefore, hletter⟩
      · exact .inl (List.forall_mem_cons.mpr ⟨hc, hall⟩)
      · exact .inr ⟨c :: before, letter, after, rfl, List.forall_mem_cons.mpr ⟨hc, hbefore⟩, hletter⟩
    · exact .inr ⟨[], c, letters, rfl, by simp, hc⟩

/-! ### Delimited texts -/

/-- A body between slashes, with letters after the second one. -/
def delimitedText (body letters : String) : String :=
  "/" ++ body ++ "/" ++ letters

section Delimited

variable [CharacterNames] {text : String} {body letters : List Char}

/-- A delimited text stands for its body with the flags of its letters. -/
lemma compile_of_delimited? (h : delimited? text.toList = some (body, letters))
    (hletters : ∀ c ∈ letters, c ∈ flagLetters) : compile text = ofBody body (flagsOf letters) := by
  have hflags : addLetters { ignoreCase := true } letters = .ok (flagsOf letters) :=
    addLetters_flagsOf hletters []
  rw [compile, h]
  simp only [hflags]
  rfl

lemma compile_of_delimited?_unsupported {before after : List Char} {letter : Char}
    (h : delimited? text.toList = some (body, before ++ letter :: after))
    (hbefore : ∀ c ∈ before, c ∈ flagLetters) (hletter : letter ∉ flagLetters) :
    compile text = .error (.unsupportedFlag letter) := by
  rw [compile, h]
  simp only [addLetters_unsupported hbefore hletter]
  rfl

/-- A delimited text is read as a pattern exactly if its letters name flags and its body is a pattern
under these. -/
lemma compile_delimited?_eq_ok {p : Pattern} (h : delimited? text.toList = some (body, letters)) :
    compile text = .ok p ↔
      (∀ c ∈ letters, c ∈ flagLetters) ∧ ofBody body (flagsOf letters) = .ok p := by
  rcases letters_cases letters with hall | ⟨before, letter, after, rfl, hbefore, hletter⟩
  · rw [compile_of_delimited? h hall]
    exact (and_iff_right hall).symm
  · rw [compile_of_delimited?_unsupported h hbefore hletter]
    constructor
    · intro hp
      cases hp
    · rintro ⟨hall, -⟩
      exact absurd (hall letter (by simp)) hletter

end Delimited

/-- The last slash before letters is the one that ends the body. -/
lemma delimited?_delimitedText (body : String) {letters : String}
    (hletters : ∀ c ∈ letters.toList, 'a' ≤ c ∧ c ≤ 'z') :
    delimited? (delimitedText body letters).toList = some (body.toList, letters.toList) := by
  refine delimited?_eq_some.mpr ⟨all_isFlagLetter_iff.mpr hletters, .inl ?_⟩
  simp [delimitedText]

end Pattern

namespace FieldSpec

open Pattern

/-- A text of the form `/body/letters` is read as its body is under the flags that its letters name, if
these all name flags, and then other letters that name the same flags make no difference. Otherwise the
first letter that names none is refused. -/
theorem compilePattern_delimitedText [CharacterNames] (body letters : String)
    (hletters : ∀ c ∈ letters.toList, 'a' ≤ c ∧ c ≤ 'z') :
    ((∀ c ∈ letters.toList, c ∈ flagLetters) →
      (∀ p, compilePattern (delimitedText body letters) = .ok p ↔
        ofBody body.toList (flagsOf letters.toList) = .ok p) ∧
      (∀ p, compilePattern (delimitedText body letters) = .ok p →
        p.body = body ∧ flagsOf letters.toList ≤ p.flags) ∧
      ∀ others : String, (∀ c ∈ others.toList, c ∈ flagLetters) →
        (∀ c ∈ ['m', 's', 'x'], c ∈ letters.toList ↔ c ∈ others.toList) →
        Pattern.compile (delimitedText body letters) = Pattern.compile (delimitedText body others)) ∧
    ∀ before letter after, letters.toList = before ++ letter :: after →
      (∀ c ∈ before, c ∈ flagLetters) → letter ∉ flagLetters →
      compilePattern (delimitedText body letters) =
        refuse (.unsupportedFlag letter (delimitedText body letters)) := by
  have hdelimited := delimited?_delimitedText body hletters
  constructor
  · intro hall
    have hcompile := compile_of_delimited? hdelimited hall
    refine ⟨?_, ?_, ?_⟩
    · intro p
      rw [compilePattern_eq_ok, hcompile]
    · intro p hp
      rw [compilePattern_eq_ok, hcompile] at hp
      exact ⟨String.toList_inj.mp (body_of_ofBody hp), le_flags_of_ofBody hp⟩
    · intro others hothers hsame
      -- the letters of the other word are letters of the alphabet, since each of them names a flag
      have hlower : ∀ c ∈ others.toList, 'a' ≤ c ∧ c ≤ 'z' := by
        intro c hc
        have hc := hothers c hc
        simp only [flagLetters, List.mem_cons, List.not_mem_nil, or_false] at hc
        rcases hc with rfl | rfl | rfl | rfl | rfl | rfl <;> decide
      rw [hcompile, compile_of_delimited? (delimited?_delimitedText body hlower) hothers,
        flagsOf_congr hsame]
  · intro before letter after heq hbefore hletter
    rw [heq] at hdelimited
    rw [compilePattern, compile_of_delimited?_unsupported hdelimited hbefore hletter]

/-- Slashes and a line break in the body, flags named twice, and a letter that names none before another
one: the conditions are met. -/
theorem compilePattern_delimitedText_slashes :
    (∀ c ∈ "gsmsi".toList, c ∈ flagLetters) ∧
    (∃ p, compilePattern "/a/b\n//gsmsi" = .ok p ∧ p.body = "a/b\n/") ∧
    Pattern.compile "/a/b\n//gsmsi" = Pattern.compile "/a/b\n//ms" ∧
    compilePattern "/(/gyz" = refuse (.unsupportedFlag 'y' "/(/gyz") := by
  have hknown : ∀ c ∈ "gsmsi".toList, c ∈ flagLetters := by
    have hall : ("gsmsi".toList.all fun c => flagLetters.contains c) = true := rfl
    simpa using hall
  obtain ⟨hread, -⟩ := compilePattern_delimitedText "a/b\n/" "gsmsi" (all_isFlagLetter_iff.mp rfl)
  obtain ⟨-, hbody, hothers⟩ := hread hknown
  obtain ⟨-, hrefused⟩ := compilePattern_delimitedText "(" "gyz" (all_isFlagLetter_iff.mp rfl)
  have hany : (compilePattern "/a/b\n//gsmsi").toOption.any (fun _ => true) = true := by rfl
  obtain ⟨p, hp, -⟩ := exists_ok_of_any hany
  refine ⟨hknown, ⟨p, hp, (hbody p hp).1⟩, ?_, ?_⟩
  · exact hothers "ms" (by simp [flagLetters]) (by simp)
  · exact hrefused ['g'] 'y' ['z'] rfl (by simp [flagLetters]) (by decide)

end FieldSpec

end UserAgent
