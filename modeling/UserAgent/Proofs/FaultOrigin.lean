import UserAgent.Proofs.Readers

/-!
# Where the faults of patterns come from

What a fault complains of stands in the text of the pattern, unless it is a fault of the grammar: a
count that is out of range or has too many digits stands after a brace, and flags that exclude each
other are given by their letters, in groups.
-/

namespace UserAgent

open Compiled

namespace Regex

variable {ctx : Context} {g : Groups} {flags : Flags} {ts : List Token}

/-! ### Parts of a pattern -/

/-- Every part that is read with some fuel is read from its tokens. -/
structure PartsRead [CharacterNames] (fuel : Nat) : Prop where
  alternatives : ∀ {ctx g done ts}, Reads ts (·.2.2) (parseAlternatives fuel ctx g done ts)
  sequence : ∀ {ctx g done ts}, Reads ts (·.2.2) (parseSequence fuel ctx g done ts)
  group : ∀ {ctx g ts}, Reads ts (·.2.2) (parseGroup fuel ctx g ts)
  capture : ∀ {ctx g name ts}, Reads ts (·.2.2) (parseCapture fuel ctx g name ts)
  look : ∀ {ctx g behind positive ts}, Reads ts (·.2.2) (parseLook fuel ctx g behind positive ts)
  branches : ∀ {ctx g index ts}, Reads ts (·.2.2) (parseBranches fuel ctx g index ts)
  body : ∀ {ctx g ts}, Reads ts (·.2.2) (parseBody fuel ctx g ts)

section Parts

variable [CharacterNames] {fuel : Nat} (ih : PartsRead fuel)

include ih in
/-- Alternatives leave an end of the tokens, or fail at something in them, given that their parts do. -/
lemma reads_parseAlternatives {done : List (List Piece)} :
    Reads ts (·.2.2) (parseAlternatives (fuel + 1) ctx g done ts) := by
  rw [parseAlternatives]
  split
  · rename_i hfault
    exact ih.sequence.of_error hfault
  · rename_i hsequence
    exact ih.sequence.of_ok hsequence (ih.alternatives.of_suffix (List.suffix_cons _ _))
  · rename_i hsequence
    exact ih.sequence.of_ok hsequence (.ok List.suffix_rfl)

include ih in
lemma reads_parseBody : Reads ts (·.2.2) (parseBody (fuel + 1) ctx g ts) := by
  rw [parseBody]
  split
  · rename_i hfault
    exact ih.alternatives.of_error hfault
  · rename_i halternatives
    exact ih.alternatives.of_ok halternatives
      (reads_closeGroup.bind fun _ _ => .pure List.suffix_rfl)

omit [CharacterNames] in
lemma reads_opened {name : Option String} : Reads ts (fun _ => ts) (g.opened name) := by
  cases name with
  | none => exact .ok List.suffix_rfl
  | some name =>
    rw [Groups.opened]
    split_ifs
    · exact .error rfl
    · exact .ok List.suffix_rfl

include ih in
/-- So does a group that captures, which ends with a parenthesis. -/
lemma reads_parseCapture {name : Option String} :
    Reads ts (·.2.2) (parseCapture (fuel + 1) ctx g name ts) := by
  rw [parseCapture]
  split
  · rename_i hfault
    exact reads_opened.of_error hfault
  · dsimp only
    split
    · rename_i hfault
      exact ih.body.of_error hfault
    · rename_i hbody
      exact ih.body.of_ok hbody (.ok List.suffix_rfl)

include ih in
lemma reads_parseLook {behind positive : Bool} :
    Reads ts (·.2.2) (parseLook (fuel + 1) ctx g behind positive ts) := by
  rw [parseLook]
  dsimp only
  split
  · rename_i hfault
    exact ih.body.of_error hfault
  · rename_i hbody
    exact ih.body.of_ok hbody (.ok List.suffix_rfl)

include ih in
/-- So do the branches after a condition. -/
lemma reads_parseBranches {index : Nat} :
    Reads ts (·.2.2) (parseBranches (fuel + 1) ctx g index ts) := by
  rw [parseBranches]
  split
  · rename_i hfault
    exact ih.sequence.of_error hfault
  · rename_i hpresent
    refine ih.sequence.of_ok hpresent (Reads.of_suffix ?_ (List.suffix_cons _ _))
    split
    · rename_i hfault
      exact ih.sequence.of_error hfault
    · rename_i habsent
      exact ih.sequence.of_ok habsent (reads_closeGroup.bind fun _ _ => .pure List.suffix_rfl)
  · rename_i hpresent
    exact ih.sequence.of_ok hpresent (reads_closeGroup.bind fun _ _ => .pure List.suffix_rfl)

include ih in
/-- What follows an opening parenthesis is read to the end of the group; by the marks at its
beginning, there is a case for each kind of group. -/
lemma reads_parseGroup : Reads ts (·.2.2) (parseGroup (fuel + 1) ctx g ts) := by
  unfold parseGroup
  split
  · -- a named group
    refine Reads.of_suffix ?_ (List.suffix_append [_, _, _] _)
    split
    · rename_i hfault
      exact reads_readName.of_error hfault
    · rename_i hname
      exact reads_readName.of_ok hname ih.capture
  · -- a reference by name
    refine Reads.of_suffix (reads_readName.bind ?_) (List.suffix_append [_, _, _] _)
    rintro ⟨name, rest⟩ _
    dsimp only
    split
    · exact .error rfl
    · exact reads_checkReference.bind fun _ _ => .pure List.suffix_rfl
  · -- a group that does not capture
    refine Reads.of_suffix ?_ (List.suffix_append [_, _] _)
    split
    · rename_i hfault
      exact ih.body.of_error hfault
    · rename_i hbody
      exact ih.body.of_ok hbody (.ok List.suffix_rfl)
  · -- a comment
    refine Reads.of_suffix (reads_skipComment.bind ?_) (List.suffix_append [_, _] _)
    exact fun _ _ => .pure List.suffix_rfl
  · -- looking ahead and behind, for a match or for none
    exact ih.look.of_suffix (List.suffix_append [_, _] _)
  · exact ih.look.of_suffix (List.suffix_append [_, _] _)
  · exact ih.look.of_suffix (List.suffix_append [_, _, _] _)
  · exact ih.look.of_suffix (List.suffix_append [_, _, _] _)
  · -- a group that is not taken back
    refine Reads.of_suffix ?_ (List.suffix_append [_, _] _)
    split
    · rename_i hfault
      exact ih.body.of_error hfault
    · rename_i hbody
      exact ih.body.of_ok hbody (.ok List.suffix_rfl)
  · -- a condition
    refine Reads.of_suffix ?_ (List.suffix_append [_, _] _)
    split
    · rename_i hfault
      exact reads_readCondition.of_error hfault
    · rename_i hcondition
      exact reads_readCondition.of_ok hcondition ih.branches
  · -- flags for a part of the pattern
    split_ifs
    · refine Reads.of_suffix ?_ (List.suffix_cons _ _)
      split
      · rename_i hfault
        exact reads_readFlags.of_error hfault
      · exact .error rfl
      · rename_i hflags
        refine reads_readFlags.of_ok hflags ?_
        dsimp only
        split
        · rename_i hfault
          exact ih.body.of_error hfault
        · rename_i hbody
          exact ih.body.of_ok hbody (.ok List.suffix_rfl)
    · exact .error rfl
  · exact .error rfl
  · -- a group without a name
    exact ih.capture

include ih in
/-- A sequence is read part by part, each with the repetitions behind it. -/
lemma reads_parseSequence {done : List Item} :
    Reads ts (·.2.2) (parseSequence (fuel + 1) ctx g done ts) := by
  refine Reads.of_suffix ?_ (skip_suffix ctx ts)
  unfold parseSequence
  generalize ctx.skip ts = ts
  split
  · exact .ok List.suffix_rfl
  · exact .error rfl
  · -- an escape
    refine Reads.of_suffix ?_ (List.suffix_cons _ _)
    split
    · rename_i hfault
      exact reads_readEscape.of_error hfault
    · rename_i hescape
      exact reads_readEscape.of_ok hescape ih.sequence
  · exact .ok List.suffix_rfl
  · exact .ok List.suffix_rfl
  · -- a set of characters
    refine Reads.of_suffix ?_ (List.suffix_cons _ _)
    split
    · rename_i hfault
      exact reads_readSet.of_error hfault
    · rename_i hset
      exact reads_readSet.of_ok hset ih.sequence
  · exact ih.sequence.of_suffix (List.suffix_cons _ _)
  · exact ih.sequence.of_suffix (List.suffix_cons _ _)
  · exact ih.sequence.of_suffix (List.suffix_cons _ _)
  · -- a group
    refine Reads.of_suffix ?_ (List.suffix_cons _ _)
    split
    · rename_i hfault
      exact ih.group.of_error hfault
    · rename_i hgroup
      exact ih.group.of_ok hgroup ih.sequence
  · -- a character that may be a repetition; only its counts have faults of their own
    split
    · rename_i hfault
      exact reads_readCounts.of_error hfault
    · exact ih.sequence.of_suffix (List.suffix_cons _ _)
    · rename_i hcounts
      refine reads_readCounts.of_ok hcounts (Reads.of_suffix ?_ readGreed_suffix)
      dsimp only
      split
      · rename_i hfault
        exact reads_repeatLast.of_error hfault
      · exact ih.sequence

end Parts

/-- Whatever is read of a pattern is read from its tokens. -/
theorem partsRead [CharacterNames] (fuel : Nat) : PartsRead fuel := by
  induction fuel with
  | zero => constructor <;> intros <;> exact .error rfl
  | succ fuel ih =>
    exact {
      alternatives := reads_parseAlternatives ih
      sequence := reads_parseSequence ih
      group := reads_parseGroup ih
      capture := reads_parseCapture ih
      look := reads_parseLook ih
      branches := reads_parseBranches ih
      body := reads_parseBody ih }

/-- The flags at the beginning leave an end of the tokens, or fail at something in them. -/
lemma reads_leadingFlags {fuel : Nat} : Reads ts Prod.snd (leadingFlags fuel flags ts) := by
  induction fuel generalizing flags ts with
  | zero => exact .ok List.suffix_rfl
  | succ fuel ih =>
    refine Reads.of_suffix ?_ (skip_suffix ⟨flags, none⟩ ts)
    unfold leadingFlags
    generalize Context.skip ⟨flags, none⟩ ts = ts
    split
    · refine Reads.of_suffix (reads_skipComment.bind ?_) (List.suffix_append [_, _, _] _)
      exact fun _ _ => ih
    · dsimp only
      split_ifs
      · split
        · rename_i hfault
          exact (reads_readFlags.of_error hfault).of_suffix (List.suffix_append [_, _] _)
        · rename_i hflags
          exact (reads_readFlags.of_ok hflags ih).of_suffix (List.suffix_append [_, _] _)
        · exact .ok List.suffix_rfl
      · exact .ok List.suffix_rfl
    · exact .ok List.suffix_rfl

/-! ### Letters of flags -/

/-- A flag with its letter. -/
structure IsFlag (letter : Char) (isSet : Flags → Bool) : Prop where
  empty : isSet {} = false
  union : ∀ f g : Flags, isSet (f.union g) = (isSet f || isSet g)
  ofLetter : ∀ {c : Char} {f : Flags}, Flags.ofLetter? c = some f → isSet f = true → c = letter

lemma isFlag_ascii : IsFlag 'a' Flags.ascii where
  empty := rfl
  union := fun _ _ => rfl
  ofLetter := by
    intro c f h
    unfold Flags.ofLetter? at h
    split at h <;> cases h <;> decide

lemma isFlag_unicode : IsFlag 'u' Flags.unicode where
  empty := rfl
  union := fun _ _ => rfl
  ofLetter := by
    intro c f h
    unfold Flags.ofLetter? at h
    split at h <;> cases h <;> decide

section Letters

variable {letter : Char} {isSet : Flags → Bool} (hflag : IsFlag letter isSet)

include hflag in
/-- A flag that a group sets has its letter there. -/
lemma mem_of_readFlags {first : Bool} {added F : Flags} {rest : List Token}
    (h : readFlags first added ts = .ok (.whole F, rest)) (hF : isSet F = true) :
    isSet added = true ∨ .char letter ∈ ts := by
  induction ts generalizing first added with
  | nil => cases h
  | cons t ts ih =>
    cases t with
    | char c =>
      rw [readFlags] at h
      split_ifs at h
      · obtain ⟨⟨removed, rest'⟩, _, h⟩ := bind_eq_ok.mp h
        dsimp only at h
        split_ifs at h
        cases h
      · cases h
        exact .inl hF
      · cases h
      · split at h
        · rename_i flag hc
          dsimp only at h
          split_ifs at h
          rcases ih h with hadded | hmem
          · rw [hflag.union, Bool.or_eq_true] at hadded
            refine hadded.imp_right fun hset => ?_
            rw [hflag.ofLetter hc hset]
            exact List.mem_cons_self
          · exact .inr (List.mem_cons_of_mem _ hmem)
        · cases h
    | _ => cases h

include hflag in
/-- A flag that is set at the start of a pattern has its letter there, in a group. -/
lemma mem_of_leadingFlags {fuel : Nat} {f F : Flags} {rest : List Token}
    (h : leadingFlags fuel f ts = .ok (F, rest)) (hF : isSet F = true) :
    isSet f = true ∨ [.char '(', .char '?'] <:+: ts ∧ .char letter ∈ ts := by
  induction fuel generalizing f ts with
  | zero =>
    cases h
    exact .inl hF
  | succ fuel ih =>
    have hskip := skip_suffix ⟨f, none⟩ ts
    rcases leadingFlags_cases h with
      rfl | ⟨t, t', heq, hcomment, h⟩ | ⟨c, t, added, t', heq, _, _, hread, h⟩
    · exact .inl hF
    · -- a comment before the flags
      rw [heq] at hskip
      have hrest : t' <:+ ts :=
        ((reads_skipComment.suffix hcomment).trans (List.suffix_append [_, _, _] t)).trans hskip
      refine (ih h).imp_right ?_
      rintro ⟨hgroup, hmem⟩
      exact ⟨hgroup.trans hrest.isInfix, hrest.mem hmem⟩
    · -- flags, and then perhaps more of them
      rw [heq] at hskip
      have hgroup : [.char '(', .char '?'] <:+: ts :=
        List.IsInfix.trans ⟨[], .char c :: t, rfl⟩ hskip.isInfix
      have hflags : .char c :: t <:+ ts := (List.suffix_append [_, _] _).trans hskip
      rcases ih h with hset | ⟨_, hmem⟩
      · rw [hflag.union, Bool.or_eq_true] at hset
        refine hset.imp_right fun hadded => ?_
        rcases mem_of_readFlags hflag hread hadded with hempty | hmem
        · rw [hflag.empty] at hempty
          cases hempty
        · exact ⟨hgroup, hflags.mem hmem⟩
      · exact .inr ⟨hgroup, ((reads_readFlags.suffix hread).trans hflags).mem hmem⟩

end Letters

/-! ### Whole patterns -/

/-- What the text of a pattern holds if reading it ends with a fault that is not one of the grammar. -/
def Holds (cs : List Char) : Fault → Prop
  | .countTooLarge => ∃ ds, HoldsCount ds cs ∧ countLimit ≤ numeral 10 ds
  | .tooManyDigits count => ∃ ds, HoldsCount ds cs ∧ ds.length = count ∧ maxNumeralDigits < count
  | .conflictingFlags => ['(', '?'] <:+: cs ∧ 'a' ∈ cs ∧ 'u' ∈ cs
  | _ => False

/-- A longer text holds what gives rise to a fault as well. -/
lemma Holds.mono {cs cs' : List Char} {fault : Fault} (h : Holds cs fault) (hcs : cs <:+: cs') :
    Holds cs' fault := by
  cases fault with
  | countTooLarge => exact h.imp fun _ => And.imp_left (·.mono hcs)
  | tooManyDigits => exact h.imp fun _ => And.imp_left (·.mono hcs)
  | conflictingFlags => exact ⟨h.1.trans hcs, hcs.mem h.2.1, hcs.mem h.2.2⟩
  | _ => exact h

/-- What gives rise to a fault stands in the text where it stands in the tokens. -/
lemma holds_of_holdsFault {cs : List Char} {fault : Fault}
    (h : HoldsFault (Token.ofChars cs) fault) : Holds cs fault := by
  obtain ⟨cs', ds, hinside, hholds, hcount⟩ := h
  replace hholds := hholds.mono (Token.infix_of_ofChars hinside)
  rw [readCount] at hcount
  split_ifs at hcount with hnil hdigits hlarge
  · cases hcount
    exact ⟨ds, hholds, rfl, hdigits⟩
  · cases hcount
    exact ⟨ds, hholds, hlarge⟩

/-- A body that is read without flags for a range of characters holds what its fault complains of. -/
lemma holds_of_parseTree [CharacterNames] {f : Flags} {body : List Char} {fault : Fault}
    (h : parseTree f body = .error fault) (hascii : f.ascii = false) (hunicode : f.unicode = false) :
    fault.failure? = none ∨ Holds body fault := by
  rw [parseTree, bind_eq_error] at h
  rcases h with h | ⟨⟨F, ts⟩, hlead, h⟩
  · exact (reads_leadingFlags.fault h).imp_right holds_of_holdsFault
  · dsimp only at h
    split at h
    · rename_i hfault
      cases h
      refine ((partsRead _).alternatives.fault hfault).imp_right fun hholds => ?_
      exact holds_of_holdsFault (hholds.of_suffix (reads_leadingFlags.suffix hlead))
    · split_ifs at h with hconflict
      · cases h
        obtain ⟨hF, hF'⟩ := Bool.and_eq_true_iff.mp hconflict
        rcases mem_of_leadingFlags isFlag_ascii hlead hF with h | ⟨hgroup, ha⟩
        · rw [hascii] at h
          cases h
        rcases mem_of_leadingFlags isFlag_unicode hlead hF' with h | ⟨_, hu⟩
        · rw [hunicode] at h
          cases h
        refine .inr ⟨?_, Token.mem_of_ofChars ha, Token.mem_of_ofChars hu⟩
        exact Token.infix_of_ofChars hgroup
      all_goals
        cases h
        exact .inl rfl

end Regex

namespace Pattern

open Regex

/-- A fault that is not one of the grammar comes from something that the body holds. -/
lemma holds_of_ofBody [CharacterNames] {body : List Char} {f : Flags} {fault : Fault}
    (h : ofBody body f = .error (.malformed fault)) (hascii : f.ascii = false)
    (hunicode : f.unicode = false) : fault.failure? = none ∨ Holds body fault := by
  rw [ofBody] at h
  split at h
  · cases h
  · rename_i hfault
    cases h
    exact holds_of_parseTree hfault hascii hunicode

/-- Letters behind the delimiters may be refused, but they are not malformed. -/
lemma addLetters_ne_malformed {f : Flags} {letters : List Char} {fault : Fault} :
    addLetters f letters ≠ .error (.malformed fault) := by
  induction letters generalizing f with
  | nil => exact fun h => by cases h
  | cons letter letters ih =>
    rw [addLetters]
    split
    · exact ih
    · exact fun h => by cases h

/-- A text that is no pattern, for a fault that is not one of the grammar, holds what the fault
complains of. -/
theorem holds_of_compile [CharacterNames] {text : String} {fault : Fault}
    (h : compile text = .error (.malformed fault)) :
    fault.failure? = none ∨ Holds text.toList fault := by
  rw [compile] at h
  split at h
  · rename_i body letters hdelimited
    rcases bind_eq_error.mp h with h | ⟨f, hf, h⟩
    · exact absurd h addLetters_ne_malformed
    · obtain ⟨_, hascii, hunicode⟩ := addLetters_eq_ok hf
      refine (holds_of_ofBody h hascii hunicode).imp_right fun hholds => hholds.mono ?_
      rcases (delimited?_eq_some.mp hdelimited).2 with heq | heq
      · exact ⟨['/'], '/' :: letters, by simp [heq]⟩
      · exact ⟨['/'], '/' :: (letters ++ ['\n']), by simp [heq]⟩
  · exact holds_of_ofBody h rfl rfl

end Pattern

end UserAgent
