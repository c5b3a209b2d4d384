import Mathlib.Data.List.Infix
import UserAgent.Proofs.PatternText

/-!
# What readers leave

A reader of patterns takes tokens from the front and leaves an end of them. The only faults that are
not faults of the grammar are those of counts, and such a count stands in the tokens, after a brace.
`Reads` says both of one reader; readers that follow each other are put together with `Reads.of_ok`
and `Reads.bind`.
-/

namespace UserAgent

open Compiled

namespace Regex

/-! ### Characters and tokens -/

namespace Token

/-- The characters that are taken and the tokens behind them are all the tokens. -/
lemma spanChars_append (test : Char → Bool) (limit : Nat) (ts : List Token) :
    (spanChars test limit ts).1.map char ++ (spanChars test limit ts).2 = ts := by
  induction limit generalizing ts with
  | zero => rfl
  | succ limit ih =>
    match ts with
    | .char c :: rest =>
      rw [spanChars]
      split_ifs
      · exact congrArg (char c :: ·) (ih rest)
      · rfl
    | [] | .escape _ :: _ | .dangling :: _ => rfl

lemma all_spanChars (test : Char → Bool) (limit : Nat) (ts : List Token) :
    (spanChars test limit ts).1.all test = true := by
  induction limit generalizing ts with
  | zero => rfl
  | succ limit ih =>
    match ts with
    | .char c :: rest =>
      rw [spanChars]
      split_ifs with hc
      · exact List.all_cons.trans (Bool.and_eq_true_iff.mpr ⟨hc, ih rest⟩)
      · rfl
    | [] | .escape _ :: _ | .dangling :: _ => rfl

/-- What is left is an end of the tokens. -/
lemma spanChars_suffix (test : Char → Bool) (limit : Nat) (ts : List Token) :
    (spanChars test limit ts).2 <:+ ts :=
  ⟨_, spanChars_append test limit ts⟩

lemma spanName_suffix {terminator : Char} {ts rest : List Token} {name : List Char}
    (h : spanName terminator ts = some (name, rest)) : rest <:+ ts := by
  induction ts generalizing name with
  | nil => cases h
  | cons t ts ih =>
    cases t with
    | char c =>
      rw [spanName] at h
      split_ifs at h
      · cases h
        exact List.suffix_cons _ _
      · obtain ⟨⟨name', rest'⟩, hspan, heq⟩ := Option.map_eq_some_iff.mp h
        cases heq
        exact (ih hspan).trans (List.suffix_cons _ _)
    | _ => cases h

/-- Characters that stand next to each other as tokens stand so in the text. -/
lemma prefix_of_ofChars {ds cs : List Char} (h : ds.map char <+: ofChars cs) : ds <+: cs := by
  induction cs using ofChars.induct generalizing ds with
  | case1 => simpa [ofChars] using h
  | case2 =>
    cases ds with
    | nil => exact List.nil_prefix
    | cons d ds => simp [ofChars, List.cons_prefix_cons] at h
  | case3 c cs ih =>
    cases ds with
    | nil => exact List.nil_prefix
    | cons d ds => simp [ofChars, List.cons_prefix_cons] at h
  | case4 c cs hdangling hescape ih =>
    cases ds with
    | nil => exact List.nil_prefix
    | cons d ds =>
      rw [ofChars.eq_4 c cs hdangling hescape, List.map_cons, List.cons_prefix_cons] at h
      obtain ⟨heq, h⟩ := h
      cases heq
      exact List.cons_prefix_cons.mpr ⟨rfl, ih h⟩

/-- Characters that stand together among the tokens do so in the text. -/
lemma infix_of_ofChars {ds cs : List Char} (h : ds.map char <:+: ofChars cs) : ds <:+: cs := by
  induction cs using ofChars.induct with
  | case1 => simpa [ofChars] using h
  | case2 =>
    rcases List.infix_cons_iff.mp h with h | h
    · exact (prefix_of_ofChars h).isInfix
    · simp [List.map_eq_nil_iff.mp (List.infix_nil.mp h)]
  | case3 c cs ih =>
    rcases List.infix_cons_iff.mp h with h | h
    · exact (prefix_of_ofChars h).isInfix
    · exact (ih h).trans (List.suffix_append [_, c] cs).isInfix
  | case4 c cs hdangling hescape ih =>
    rw [ofChars.eq_4 c cs hdangling hescape] at h
    rcases List.infix_cons_iff.mp h with h | h
    · rw [← ofChars.eq_4 c cs hdangling hescape] at h
      exact (prefix_of_ofChars h).isInfix
    · exact (ih h).trans (List.suffix_cons _ _).isInfix

lemma mem_of_ofChars {c : Char} {cs : List Char} (h : char c ∈ ofChars cs) : c ∈ cs :=
  (List.singleton_infix_iff _ _).mp (infix_of_ofChars ((List.singleton_infix_iff _ _).mpr h))

end Token

/-- The digits of a count stand in a list of characters: after a brace, and maybe after another count
and a comma. -/
def HoldsCount (ds cs : List Char) : Prop :=
  ds.all isDecimal = true ∧ ∃ lead : List Char, (∀ c ∈ lead, isDecimal c = true ∨ c = ',') ∧
    '\x7b' :: (lead ++ ds) <:+: cs

lemma HoldsCount.mono {ds cs cs' : List Char} (h : HoldsCount ds cs) (hcs : cs <:+: cs') :
    HoldsCount ds cs' := by
  obtain ⟨hds, lead, hlead, hinside⟩ := h
  exact ⟨hds, lead, hlead, hinside.trans hcs⟩

/-! ### Readers -/

/-- The tokens hold the digits of a count that is refused with a fault. -/
def HoldsFault (ts : List Token) (fault : Fault) : Prop :=
  ∃ cs ds : List Char, cs.map Token.char <:+: ts ∧ HoldsCount ds cs ∧ readCount ds = .error fault

/-- What an end of the tokens holds, the tokens hold. -/
lemma HoldsFault.of_suffix {ts ts' : List Token} {fault : Fault} (h : HoldsFault ts fault)
    (hts : ts <:+ ts') : HoldsFault ts' fault := by
  obtain ⟨cs, ds, hcs, hholds, hcount⟩ := h
  exact ⟨cs, ds, hcs.trans hts.isInfix, hholds, hcount⟩

/-- What is read from tokens leaves an end of them. A fault that is not one of the grammar is in
them. -/
structure Reads {α : Type} (ts : List Token) (rest : α → List Token) (x : Except Fault α) : Prop where
  suffix : ∀ {a : α}, x = .ok a → rest a <:+ ts
  fault : ∀ {fault : Fault}, x = .error fault → fault.failure? = none ∨ HoldsFault ts fault

namespace Reads

variable {α β : Type} {ts ts' : List Token} {rest : α → List Token} {rest' : β → List Token}
  {x : Except Fault α} {y : Except Fault β}

/-- A reader that succeeds leaves an end of the tokens. -/
lemma ok {a : α} (h : rest a <:+ ts) : Reads ts rest (.ok a) where
  suffix := by
    rintro _ ⟨⟩
    exact h
  fault := by
    rintro _ ⟨⟩

/-- A fault of the grammar says nothing of the tokens. -/
lemma error {fault : Fault} (h : fault.failure? = none) : Reads ts rest (.error fault) where
  suffix := by
    rintro _ ⟨⟩
  fault := by
    rintro _ ⟨⟩
    exact .inl h

/-- Other tokens may stand before those that are read. -/
lemma of_suffix (hx : Reads ts rest x) (h : ts <:+ ts') : Reads ts' rest x where
  suffix := fun ha => (hx.suffix ha).trans h
  fault := fun he => (hx.fault he).imp_right (HoldsFault.of_suffix · h)

/-- A fault of a part is one of the whole. -/
lemma of_error (hx : Reads ts rest x) {fault : Fault} (h : x = .error fault) :
    Reads ts rest' (.error fault) where
  suffix := by
    rintro _ ⟨⟩
  fault := by
    rintro _ ⟨⟩
    exact hx.fault h

/-- After a part, the next one is read from what is left. -/
lemma of_ok (hx : Reads ts rest x) {a : α} (h : x = .ok a) (hy : Reads (rest a) rest' y) :
    Reads ts rest' y :=
  hy.of_suffix (hx.suffix h)

/-- A reader that goes on where another one stopped reads from the same tokens. -/
lemma bind {g : α → Except Fault β} (hx : Reads ts rest x)
    (hg : ∀ a, x = .ok a → Reads (rest a) rest' (g a)) : Reads ts rest' (x >>= g) := by
  cases h : x with
  | error e => exact hx.of_error h
  | ok a => exact hx.of_ok h (hg a h)

lemma pure {a : α} (h : rest a <:+ ts) : Reads ts rest (Pure.pure a) :=
  ok h

end Reads

/-! ### Escapes and sets -/

variable {ctx : Context} {g : Groups} {flags : Flags} {ts : List Token}

lemma reads_checkReference {index : Nat} : Reads ts (fun _ => ts) (g.checkReference ctx index) := by
  rw [Groups.checkReference]
  split_ifs
  · exact .error rfl
  · split
    · split_ifs
      · exact .error rfl
      · exact .ok List.suffix_rfl
    · exact .ok List.suffix_rfl

/-- Digits are read one by one. -/
lemma reads_readHex {count : Nat} : Reads ts Prod.snd (readHex count ts) := by
  rw [readHex]
  dsimp only
  split_ifs
  · exact .ok (Token.spanChars_suffix _ _ _)
  · exact .error rfl

/-- The name of a character ends with a brace, and the fault of an unknown one is one of the
grammar. -/
lemma reads_readCharacterName [CharacterNames] : Reads ts Prod.snd (readCharacterName ts) := by
  unfold readCharacterName
  split
  · split
    · rename_i hspan
      split
      · exact .ok ((Token.spanName_suffix hspan).trans (List.suffix_cons _ _))
      · exact .error rfl
    · exact .error rfl
  · exact .error rfl

/-- The escapes that stand for a code are read as digits or as a name. -/
lemma reads_readCodeEscape [CharacterNames] {c : Char} : Reads ts Prod.snd
    (readCodeEscape c ts) := by
  unfold readCodeEscape
  split
  · exact reads_readHex
  · exact reads_readHex
  · exact reads_readHex
  · exact reads_readCharacterName
  · split_ifs
    · exact .error rfl
    · exact .ok List.suffix_rfl

/-- An escape inside a set is a class or a code. -/
lemma reads_readSetEscape [CharacterNames] {c : Char} : Reads ts Prod.snd
    (readSetEscape flags c ts) := by
  unfold readSetEscape
  split
  · exact .ok List.suffix_rfl
  · exact .ok List.suffix_rfl
  · dsimp only
    split_ifs
    · exact .ok (Token.spanChars_suffix _ _ _)
    · exact .error rfl
    · exact .error rfl
    · exact reads_readCodeEscape.bind fun a _ => .pure List.suffix_rfl

/-- A reference to a group takes one or two digits, or three for a code. -/
lemma reads_readReference {c : Char} : Reads ts Prod.snd (readReference ctx g c ts) := by
  -- A group that is referred to exists, or the reference is a fault of the grammar.
  have hreference : ∀ (ds : List Char) (rest : List Token), rest <:+ ts →
      Reads ts Prod.snd (if numeral 10 ds ≤ g.count then do
        g.checkReference ctx (numeral 10 ds)
        return (Item.other (.backref (numeral 10 ds) ctx.flags.folding), rest)
      else .error .unknownGroup) := by
    intro ds rest hrest
    split_ifs
    · exact reads_checkReference.bind fun _ _ => .pure hrest
    · exact .error rfl
  unfold readReference
  dsimp only
  split
  · split
    · split
      · split
        · split_ifs
          · exact .ok (List.suffix_append [_, _] _)
          · exact .error rfl
        · exact hreference _ _ (List.suffix_cons _ _)
      · exact hreference _ _ (List.suffix_cons _ _)
    · exact hreference _ _ List.suffix_rfl
  · exact hreference _ _ List.suffix_rfl

section

variable [CharacterNames]

lemma reads_readEscape {c : Char} : Reads ts Prod.snd (readEscape ctx g c ts) := by
  unfold readEscape
  split
  · exact .ok List.suffix_rfl
  · exact .ok List.suffix_rfl
  · exact .ok List.suffix_rfl
  · dsimp only
    split_ifs
    · exact .ok (Token.spanChars_suffix _ _ _)
    · exact reads_readReference
    · exact reads_readCodeEscape.bind fun a _ => .pure List.suffix_rfl

lemma reads_readSetItem : Reads ts Prod.snd (readSetItem flags ts) := by
  unfold readSetItem
  split
  · exact .ok (List.suffix_cons _ _)
  · exact reads_readSetEscape.of_suffix (List.suffix_cons _ _)
  · exact .error rfl
  · exact .error rfl

/-- The items of a set are read one by one, up to the bracket. -/
lemma reads_readSetItems {fuel : Nat} {done : List SetItem} :
    Reads ts Prod.snd (readSetItems flags fuel done ts) := by
  induction fuel generalizing done ts with
  | zero => exact .error rfl
  | succ fuel ih =>
    unfold readSetItems
    split
    · exact .ok (List.suffix_cons _ _)
    · refine reads_readSetItem.bind ?_
      rintro ⟨low, rest⟩ _
      dsimp only
      split
      · exact .pure (List.suffix_append [_, _] _)
      · refine (reads_readSetItem.bind ?_).of_suffix (List.suffix_cons _ _)
        rintro ⟨high, rest⟩ _
        dsimp only
        split
        · split_ifs
          · exact .error rfl
          · exact ih
        · exact .error rfl
      · exact ih

lemma reads_readSet : Reads ts Prod.snd (readSet flags ts) := by
  unfold readSet
  split
  rename_i negated ts' hmark
  have hsuffix : ts' <:+ ts := by
    split at hmark
    · cases hmark
      exact List.suffix_cons _ _
    · cases hmark
      exact List.suffix_rfl
  refine (reads_readSetItems.bind ?_).of_suffix hsuffix
  rintro ⟨items, rest⟩ _
  dsimp only
  split
  · exact .pure List.suffix_rfl
  · exact .pure List.suffix_rfl

end

/-! ### Counts -/

/-- A count is refused for its digits. -/
lemma reads_readCount {ds cs : List Char} (hcs : cs.map Token.char <:+: ts) (h : HoldsCount ds cs) :
    Reads ts (fun _ => ts) (readCount ds) where
  suffix := fun _ => List.suffix_rfl
  fault := fun he => .inr ⟨cs, ds, hcs, h, he⟩

/-- What is left when braces are read; they may be left themselves. -/
def unread {α : Type} (ts : List Token) (result : Option (α × List Token)) : List Token :=
  (result.map Prod.snd).getD ts

/-- The digits of the second count stand after those of the first one, or are the same. -/
lemma exists_lead_of_span {limit : Nat} {low high : List Char} {rest rest' : List Token}
    (hhigh : (match rest with
      | .char ',' :: rest => Token.spanChars isDecimal limit rest
      | rest => (low, rest)) = (high, rest'))
    (hts : low.map Token.char ++ rest = ts) (hlow : low.all isDecimal = true) :
    ∃ lead : List Char, (∀ c ∈ lead, isDecimal c = true ∨ c = ',') ∧ high.all isDecimal = true ∧
      (lead ++ high).map Token.char ++ rest' = ts := by
  split at hhigh
  · rename_i after
    have hafter := Token.spanChars_append isDecimal limit after
    have hhighDigits := Token.all_spanChars isDecimal limit after
    rw [hhigh] at hafter hhighDigits
    refine ⟨low ++ [','], ?_, hhighDigits, ?_⟩
    · intro c hc
      rcases List.mem_append.mp hc with hc | hc
      · exact .inl (List.all_eq_true.mp hlow c hc)
      · exact .inr (List.mem_singleton.mp hc)
    · rw [← hts, ← hafter]
      simp
  · cases hhigh
    exact ⟨[], by simp, hlow, hts⟩

/-- Braces that hold no counts are read as characters; too large a count stands in the text. -/
lemma reads_readBraces : Reads (.char '\x7b' :: ts) (unread ts) (readBraces ts) := by
  have hnone : unread ts (none : Option (Counts × List Token)) <:+ .char '\x7b' :: ts :=
    List.suffix_cons _ _
  unfold readBraces
  split
  · exact .ok hnone
  · split
    rename_i low rest hlow
    have hts := Token.spanChars_append isDecimal ts.length ts
    have hlowDigits := Token.all_spanChars isDecimal ts.length ts
    rw [hlow] at hts hlowDigits
    split
    rename_i high rest' hhigh
    -- The second count stands behind the first one and a comma; without a comma it is the first one
    -- again.
    obtain ⟨lead, hlead, hhighDigits, hspan⟩ := exists_lead_of_span hhigh hts hlowDigits
    dsimp only
    split
    · exact .error rfl
    · rename_i after _
      have hlowInfix : ('\x7b' :: low).map Token.char <:+: .char '\x7b' :: ts :=
        ⟨[], rest, by simp [← hts]⟩
      have hhighInfix : ('\x7b' :: (lead ++ high)).map Token.char <:+: .char '\x7b' :: ts :=
        ⟨[], _, by simpa using hspan⟩
      have hholdsLow : HoldsCount low ('\x7b' :: low) := ⟨hlowDigits, [], by simp, List.infix_rfl⟩
      have hholdsHigh : HoldsCount high ('\x7b' :: (lead ++ high)) :=
        ⟨hhighDigits, lead, hlead, List.infix_rfl⟩
      have hafter : after <:+ .char '\x7b' :: ts :=
        ⟨.char '\x7b' :: ((lead ++ high).map Token.char ++ [.char '\x7d']), by simpa using hspan⟩
      -- Each count is too large only if its digits stand in the text.
      refine (reads_readCount hlowInfix hholdsLow).bind fun _ _ => ?_
      refine (reads_readCount hhighInfix hholdsHigh).bind fun _ _ => ?_
      split_ifs
      · exact .error rfl
      · exact .pure hafter
    · exact .ok hnone

/-- Counts are one of three marks, or stand between braces. -/
lemma reads_readCounts {c : Char} : Reads (.char c :: ts) (unread ts) (readCounts c ts) := by
  unfold readCounts
  split
  · exact .ok (List.suffix_cons _ _)
  · exact .ok (List.suffix_cons _ _)
  · exact .ok (List.suffix_cons _ _)
  · exact reads_readBraces
  · exact .ok (List.suffix_cons _ _)

lemma readGreed_suffix : (readGreed ts).2 <:+ ts := by
  unfold readGreed
  split
  · exact List.suffix_cons _ _
  · exact List.suffix_cons _ _
  · exact List.suffix_rfl

/-- To repeat the last item takes no token. -/
lemma reads_repeatLast {done : List Item} {counts : Counts} {greed : Greed} :
    Reads ts (fun _ => ts) (repeatLast done counts greed) := by
  unfold repeatLast
  split
  · exact .error rfl
  · split
    · exact .error rfl
    · exact .error rfl
    · exact .ok List.suffix_rfl

/-! ### Flags, comments and names -/

/-- Flags that are removed are read up to a colon. -/
lemma reads_readRemoved {first : Bool} {removed : Flags} :
    Reads ts Prod.snd (readRemoved first removed ts) := by
  induction ts generalizing first removed with
  | nil => exact .error rfl
  | cons t ts ih =>
    cases t with
    | char c =>
      rw [readRemoved]
      split_ifs
      · exact .ok (List.suffix_cons _ _)
      · split
        · split_ifs
          · exact ih.of_suffix (List.suffix_cons _ _)
          · exact .error rfl
        · exact .error rfl
    | _ => exact .error rfl

/-- Flags are read up to a mark that ends them. -/
lemma reads_readFlags {first : Bool} {added : Flags} :
    Reads ts Prod.snd (readFlags first added ts) := by
  induction ts generalizing first added with
  | nil => exact .error rfl
  | cons t ts ih =>
    cases t with
    | char c =>
      rw [readFlags]
      split_ifs
      · refine (reads_readRemoved.bind ?_).of_suffix (List.suffix_cons _ _)
        rintro ⟨removed, rest⟩ _
        dsimp only
        split_ifs
        · exact .pure List.suffix_rfl
        · exact .error rfl
      · exact .ok (List.suffix_cons _ _)
      · exact .ok (List.suffix_cons _ _)
      · split
        · dsimp only
          split_ifs
          · exact .error rfl
          · exact ih.of_suffix (List.suffix_cons _ _)
        · exact .error rfl
    | _ => exact .error rfl

/-- Layout is skipped up to an end of the tokens. -/
lemma skipLayout_suffix {inComment : Bool} : skipLayout inComment ts <:+ ts := by
  induction ts generalizing inComment with
  | nil => cases inComment <;> exact List.suffix_rfl
  | cons t ts ih =>
    have hrest : ∀ inComment, skipLayout inComment ts <:+ t :: ts := fun _ =>
      ih.trans (List.suffix_cons _ _)
    cases inComment with
    | true =>
      cases t with
      | dangling => exact List.suffix_rfl
      | _ => exact hrest _
    | false =>
      cases t with
      | char c =>
        rw [skipLayout]
        split_ifs
        · exact hrest _
        · exact hrest _
        · exact List.suffix_rfl
      | _ => exact List.suffix_rfl

lemma skip_suffix (ctx : Context) (ts : List Token) : ctx.skip ts <:+ ts := by
  rw [Context.skip]
  split_ifs
  · exact skipLayout_suffix
  · exact List.suffix_rfl

/-- A comment is skipped up to its parenthesis. -/
lemma reads_skipComment : Reads ts id (skipComment ts) := by
  induction ts with
  | nil => exact .error rfl
  | cons t ts ih =>
    unfold skipComment
    split
    · rename_i heq
      cases heq
      exact .ok (List.suffix_cons _ _)
    · exact .error rfl
    · rename_i heq
      cases heq
      exact ih.of_suffix (List.suffix_cons _ _)
    · exact .error rfl

/-- The name of a group is read up to the mark behind it. -/
lemma reads_readName {terminator : Char} : Reads ts Prod.snd (readName terminator ts) := by
  rw [readName]
  split
  · rename_i hspan
    split_ifs
    · exact .ok (Token.spanName_suffix hspan)
    · exact .error rfl
  · exact .error rfl

lemma reads_ask {name : List Char} : Reads ts (fun _ => ts) (g.ask name) := by
  rw [Groups.ask]
  split_ifs
  · split
    · exact .ok List.suffix_rfl
    · exact .error rfl
  · split
    · exact .ok List.suffix_rfl
    · exact .error rfl

/-- A condition names a group, or gives its number. -/
lemma reads_readCondition : Reads ts (·.2.2) (readCondition ctx g ts) := by
  rw [readCondition]
  split
  · exact .error rfl
  · rename_i hspan
    refine Reads.of_suffix (reads_ask.bind ?_) (Token.spanName_suffix hspan)
    rintro ⟨index, g⟩ _
    dsimp only
    split_ifs
    · exact reads_checkReference.bind fun _ _ => .pure List.suffix_rfl
    · exact .pure List.suffix_rfl

lemma reads_closeGroup : Reads ts id (closeGroup ts) := by
  unfold closeGroup
  split
  · exact .ok (List.suffix_cons _ _)
  · exact .error rfl

end Regex

end UserAgent
