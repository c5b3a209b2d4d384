import Mathlib.Data.List.TakeWhile
import UserAgent.FieldSpec
import UserAgent.Proofs.Compiled

/-!
# Texts of patterns

A pattern that was compiled is written back as a text. Compiling that text gives the pattern again,
unless the pattern is written without delimiters and its body happens to look like a delimited text.

The flags that a pattern sets for itself at its start may as well be given from outside:
`parseTree_of_le`.
-/

namespace UserAgent

open Compiled

namespace Regex

/-! ### Flags -/

namespace Flags

lemma union_self (f : Flags) : f.union f = f := by
  cases f; simp [union]

lemma union_comm (f g : Flags) : f.union g = g.union f := by
  cases f; cases g; simp [union, Bool.or_comm]

lemma union_assoc (f g h : Flags) : (f.union g).union h = f.union (g.union h) := by
  cases f; cases g; cases h; simp [union, Bool.or_assoc]

/-- All flags of the first are set in the second. -/
instance : LE Flags := ⟨fun f g => f.union g = g⟩

lemma le_def {f g : Flags} : f ≤ g ↔ f.union g = g := Iff.rfl

lemma le_refl (f : Flags) : f ≤ f := union_self f

/-- Flags are ordered by what they add to each other. -/
lemma le_trans {f g h : Flags} (hfg : f ≤ g) (hgh : g ≤ h) : f ≤ h := by
  rw [le_def] at *
  rw [← hgh, ← union_assoc, hfg]

lemma le_antisymm {f g : Flags} (hfg : f ≤ g) (hgf : g ≤ f) : f = g := by
  rw [le_def] at *
  rw [← hgf, union_comm, hfg]

lemma le_union_left (f g : Flags) : f ≤ f.union g := by
  rw [le_def, ← union_assoc, union_self]

lemma union_le_union_right {f g : Flags} (h : f ≤ g) (k : Flags) : f.union k ≤ g.union k := by
  rw [le_def] at *
  rw [union_comm f k, union_assoc, ← union_assoc f g k, h, union_comm k, union_assoc, union_self]

/-- The union of flags is the least one above both. -/
lemma union_le {f g h : Flags} (hf : f ≤ h) (hg : g ≤ h) : f.union g ≤ h := by
  rw [le_def] at *
  rw [union_assoc, hg, hf]

/-- More flags keep the layout of patterns ignored. -/
lemma verbose_of_le {f g : Flags} (h : f ≤ g) (hf : f.verbose = true) : g.verbose = true := by
  have := congrArg Flags.verbose (le_def.mp h)
  simpa [union, hf] using this.symm

lemma ignoreCase_of_le {f g : Flags} (h : f ≤ g) (hf : f.ignoreCase = true) :
    g.ignoreCase = true := by
  have := congrArg Flags.ignoreCase (le_def.mp h)
  simpa [union, hf] using this.symm

end Flags

/-! ### Flags at the start of a pattern -/

/-- Being verbose makes no difference before a parenthesis. -/
lemma skip_of_le {f g : Flags} (hfg : f ≤ g) {ts rest : List Token}
    (h : (Context.mk f none).skip ts = .char '(' :: rest) :
    (Context.mk g none).skip ts = .char '(' :: rest := by
  cases hf : f.verbose with
  | true =>
    have hg := Flags.verbose_of_le hfg hf
    simpa [Context.skip, hf, hg] using h
  | false =>
    have hts : ts = .char '(' :: rest := by simpa [Context.skip, hf] using h
    subst hts
    cases hg : g.verbose with
    | false => simp [Context.skip, hg]
    | true => simp [Context.skip, hg, skipLayout, isLayout, Unicode.isAsciiBlank]

/-- What reading the flags at the start of a pattern does first: it ends, skips a comment, or adds
the flags of a group. -/
lemma leadingFlags_cases {fuel : Nat} {f F : Flags} {ts rest : List Token}
    (h : leadingFlags (fuel + 1) f ts = .ok (F, rest)) :
    F = f ∨
    (∃ t t', (Context.mk f none).skip ts = .char '(' :: .char '?' :: .char '#' :: t ∧
      skipComment t = .ok t' ∧ leadingFlags fuel f t' = .ok (F, rest)) ∨
    (∃ c t added t', (Context.mk f none).skip ts = .char '(' :: .char '?' :: .char c :: t ∧
      c ≠ '#' ∧ (Flags.ofLetter? c).isSome = true ∧
      readFlags true {} (.char c :: t) = .ok (.whole added, t') ∧
      leadingFlags fuel (f.union added) t' = .ok (F, rest)) := by
  rw [leadingFlags] at h
  split at h
  · rename_i t hskip
    obtain ⟨t', ht', h⟩ := bind_eq_ok.mp h
    exact .inr (.inl ⟨t, t', hskip, ht', h⟩)
  · rename_i c t hc hskip
    simp only at h
    split at h
    · rename_i hletter
      split at h
      · cases h
      · rename_i added t' hread
        refine .inr (.inr ⟨c, t, added, t', hskip, ?_, hletter, hread, h⟩)
        rintro rfl
        exact hc rfl
      · cases h; exact .inl rfl
    · cases h; exact .inl rfl
  · cases h; exact .inl rfl

/-- Reading the flags at the start of a pattern only adds flags. -/
lemma le_of_leadingFlags {fuel : Nat} {f F : Flags} {ts rest : List Token}
    (h : leadingFlags fuel f ts = .ok (F, rest)) : f ≤ F := by
  induction fuel generalizing f ts with
  | zero => cases h; exact Flags.le_refl _
  | succ fuel ih =>
    rcases leadingFlags_cases h with rfl | ⟨t, t', _, _, h⟩ | ⟨c, t, added, t', _, _, _, _, h⟩
    · exact Flags.le_refl _
    · exact ih h
    · exact Flags.le_trans (Flags.le_union_left _ added) (ih h)

/-- Flags that a pattern sets at its start may be set before it is read. -/
lemma leadingFlags_of_le {fuel : Nat} {f g F : Flags} {ts rest : List Token}
    (h : leadingFlags fuel f ts = .ok (F, rest)) (hfg : f ≤ g) (hgF : g ≤ F) :
    leadingFlags fuel g ts = .ok (F, rest) := by
  induction fuel generalizing f g ts with
  | zero =>
    cases h
    rw [Flags.le_antisymm hfg hgF]
    rfl
  | succ fuel ih =>
    rcases leadingFlags_cases h with
      rfl | ⟨t, t', hskip, hcomment, h'⟩ | ⟨c, t, added, t', hskip, hc, hletter, hread, h'⟩
    · rwa [← Flags.le_antisymm hfg hgF]
    · rw [leadingFlags, skip_of_le hfg hskip]
      exact bind_eq_ok.mpr ⟨t', hcomment, ih h' hfg hgF⟩
    · -- The flags that are added now are among the last ones.
      have hle : g.union added ≤ F := by
        refine Flags.union_le hgF (Flags.le_trans ?_ (le_of_leadingFlags h'))
        rw [Flags.union_comm]
        exact Flags.le_union_left added f
      rw [leadingFlags, skip_of_le hfg hskip]
      split
      · rename_i heq
        cases heq
        exact absurd rfl hc
      · rename_i heq
        cases heq
        simp only [hletter, if_true, hread]
        exact ih h' (Flags.union_le_union_right hfg added) hle
      · rename_i hne
        exact absurd rfl (hne c t)

/-- A pattern is read if its items are, up to its end, and its flags and look-behinds are in
order. -/
lemma parseTree_eq_ok [CharacterNames] {f : Flags} {body : List Char} {tree : Tree} :
    parseTree f body = .ok tree ↔ ∃ F ts pieces g,
      leadingFlags (Token.ofChars body).length f (Token.ofChars body) = .ok (F, ts) ∧
      parseAlternatives (5 * ts.length + 5) ⟨F, none⟩ {} [] ts = .ok (pieces, g, []) ∧
      F.conflicting = false ∧ g.asked ≤ g.count ∧ g.unfixed = false ∧
      tree = ⟨F, g.count, g.names, nodeOf pieces⟩ := by
  rw [parseTree, bind_eq_ok]
  constructor
  · rintro ⟨⟨F, ts⟩, hlead, h⟩
    dsimp only at h
    split at h
    · cases h
    · rename_i pieces g rest hparse
      split_ifs at h with hconflict hrest hasked hunfixed
      have hnil : rest = [] := by simpa using hrest
      subst hnil
      cases h
      exact ⟨F, ts, pieces, g, hlead, hparse, by simpa using hconflict, Nat.le_of_not_lt hasked,
        by simpa using hunfixed, rfl⟩
  · rintro ⟨F, ts, pieces, g, hlead, hparse, hconflict, hasked, hunfixed, rfl⟩
    exact ⟨(F, ts), hlead, by simp [hparse, hconflict, Nat.not_lt.mpr hasked, hunfixed]⟩

/-- The flags that a pattern sets at its start may be given from outside as well. -/
lemma parseTree_of_le [CharacterNames] {f g : Flags} {body : List Char} {tree : Tree}
    (h : parseTree f body = .ok tree) (hfg : f ≤ g) (hg : g ≤ tree.flags) :
    parseTree g body = .ok tree := by
  obtain ⟨F, ts, pieces, gs, hlead, hrest⟩ := parseTree_eq_ok.mp h
  have hF : tree.flags = F := by rw [hrest.2.2.2.2]
  exact parseTree_eq_ok.mpr ⟨F, ts, pieces, gs, leadingFlags_of_le hlead hfg (hF ▸ hg), hrest⟩

/-- The flags from outside are among those of the tree. -/
lemma le_flags_of_parseTree [CharacterNames] {f : Flags} {body : List Char} {tree : Tree}
    (h : parseTree f body = .ok tree) : f ≤ tree.flags := by
  obtain ⟨F, ts, pieces, gs, hlead, _, _, _, _, rfl⟩ := parseTree_eq_ok.mp h
  exact le_of_leadingFlags hlead

end Regex

namespace Pattern

open Regex

/-! ### Compiled bodies -/

section

variable [CharacterNames]

/-- A body gives a pattern exactly if it has a tree, which makes the pattern. -/
lemma ofBody_eq_ok {body : List Char} {f : Flags} {p : Pattern} :
    ofBody body f = .ok p ↔ ∃ tree, parseTree f body = .ok tree ∧
      p = ⟨String.ofList body, tree.flags, tree.groupCount, tree.names, tree.node⟩ := by
  rw [ofBody]
  split
  · rename_i tree htree
    simp [htree, eq_comm]
  · rename_i fault hfault
    simp [hfault]

lemma body_of_ofBody {body : List Char} {f : Flags} {p : Pattern} (h : ofBody body f = .ok p) :
    p.body.toList = body := by
  obtain ⟨tree, _, rfl⟩ := ofBody_eq_ok.mp h
  exact String.toList_ofList

lemma le_flags_of_ofBody {body : List Char} {f : Flags} {p : Pattern} (h : ofBody body f = .ok p) :
    f ≤ p.flags := by
  obtain ⟨tree, htree, rfl⟩ := ofBody_eq_ok.mp h
  exact le_flags_of_parseTree htree

/-- The body of a pattern gives the same pattern under all flags between those from outside and its
own. -/
lemma ofBody_of_le {body : List Char} {f g : Flags} {p : Pattern} (h : ofBody body f = .ok p)
    (hfg : f ≤ g) (hg : g ≤ p.flags) : ofBody body g = .ok p := by
  obtain ⟨tree, htree, rfl⟩ := ofBody_eq_ok.mp h
  exact ofBody_eq_ok.mpr ⟨tree, parseTree_of_le htree hfg hg, rfl⟩

end

/-! ### Letters after a delimiter -/

/-- The letters after a delimiter add flags, but they leave the range of characters alone. -/
lemma addLetters_eq_ok {f g : Flags} {letters : List Char} (h : addLetters f letters = .ok g) :
    f ≤ g ∧ g.ascii = f.ascii ∧ g.unicode = f.unicode := by
  induction letters generalizing f with
  | nil => cases h; exact ⟨Flags.le_refl _, rfl, rfl⟩
  | cons letter letters ih =>
    rw [addLetters] at h
    split at h
    · rename_i flag hflag
      have hplain : flag.ascii = false ∧ flag.unicode = false := by
        unfold delimiterFlag? at hflag
        split at hflag <;> cases hflag <;> exact ⟨rfl, rfl⟩
      obtain ⟨hle, hascii, hunicode⟩ := ih h
      refine ⟨Flags.le_trans (Flags.le_union_left f flag) hle, ?_, ?_⟩
      · simpa [Flags.union, hplain.1] using hascii
      · simpa [Flags.union, hplain.2] using hunicode
    · cases h

/-- The flags that the text of a pattern gives from outside. -/
def writtenFlags (p : Pattern) : Flags where
  ignoreCase := true
  multiline := p.flags.multiline
  dotAll := p.flags.dotAll
  verbose := p.flags.verbose

/-- The letters that are written for a pattern stand for its flags. -/
lemma addLetters_extraLetters (p : Pattern) :
    addLetters { ignoreCase := true } ('i' :: p.extraLetters) = .ok p.writtenFlags := by
  unfold extraLetters writtenFlags
  cases p.flags.multiline <;> cases p.flags.dotAll <;> cases p.flags.verbose <;> rfl

lemma extraLetters_all (p : Pattern) : ('i' :: p.extraLetters).all isFlagLetter = true := by
  unfold extraLetters
  cases p.flags.multiline <;> cases p.flags.dotAll <;> cases p.flags.verbose <;> rfl

/-! ### Delimited texts -/

lemma ne_slash_of_isFlagLetter {c : Char} (h : isFlagLetter c = true) : c ≠ '/' := by
  rintro rfl
  exact absurd h (by decide)

lemma ne_lineBreak_of_isFlagLetter {c : Char} (h : isFlagLetter c = true) : c ≠ '\n' := by
  rintro rfl
  exact absurd h (by decide)

/-- The last slash of a text splits it off from what follows. -/
lemma splitLast_eq (body : List Char) {tail : List Char} (htail : ∀ c ∈ tail, c ≠ '/') :
    (body ++ '/' :: tail).reverse.takeWhile (· != '/') = tail.reverse ∧
      (body ++ '/' :: tail).reverse.dropWhile (· != '/') = '/' :: body.reverse := by
  have hrev : (body ++ '/' :: tail).reverse = tail.reverse ++ '/' :: body.reverse := by simp
  have hall : ∀ c ∈ tail.reverse, (c != '/') = true := by
    intro c hc
    simpa using htail c (List.mem_reverse.mp hc)
  rw [hrev]
  exact ⟨by rw [List.takeWhile_append_of_pos hall]; simp,
    by rw [List.dropWhile_append_of_pos hall]; simp⟩

/-- A text is delimited if it begins with a slash and letters follow a later one, up to the end or up
to a line break that ends it. -/
lemma delimited?_eq_some {cs body letters : List Char} :
    delimited? cs = some (body, letters) ↔ letters.all isFlagLetter = true ∧
      (cs = '/' :: (body ++ '/' :: letters) ∨ cs = '/' :: (body ++ '/' :: (letters ++ ['\n']))) := by
  constructor
  · intro h
    unfold delimited? at h
    split at h
    · rename_i t
      simp only at h
      split at h
      · rename_i c before hdrop
        split_ifs at h with hall
        simp only [Option.some.injEq, Prod.mk.injEq] at h
        obtain ⟨rfl, rfl⟩ := h
        -- The reader looks for the last slash from the end on; here it is found, and the text is
        -- put together again.
        have hc : c = '/' := by
          have := List.head_dropWhile_not (p := (· != '/')) (l := t.reverse) (by rw [hdrop]; simp)
          simpa [hdrop] using this
        have ht : t = before.reverse ++ '/' :: (t.reverse.takeWhile (· != '/')).reverse := by
          have := List.takeWhile_append_dropWhile (p := (· != '/')) (l := t.reverse)
          rw [hdrop, hc] at this
          simpa using (congrArg List.reverse this).symm
        split at hall
        · rename_i letters hletters
          refine ⟨by simpa using hall, .inr ?_⟩
          rw [hletters] at ht
          simpa using ht
        · exact ⟨by simpa using hall, .inl (congrArg _ ht)⟩
      · cases h
    · cases h
  · rintro ⟨hall, h⟩
    -- Letters are neither slashes nor line breaks, so the slash before them is the last one, and
    -- only the break that may follow them is dropped.
    have hslash : ∀ c ∈ letters, c ≠ '/' := fun c hc =>
      ne_slash_of_isFlagLetter (List.all_eq_true.mp hall c hc)
    have hbreak : ∀ c ∈ letters, c ≠ '\n' := fun c hc =>
      ne_lineBreak_of_isFlagLetter (List.all_eq_true.mp hall c hc)
    rcases h with rfl | rfl
    · obtain ⟨htake, hdrop⟩ := splitLast_eq body hslash
      simp only [delimited?, htake, hdrop]
      split
      · rename_i l hl
        have : '\n' ∈ letters := by rw [← List.mem_reverse, hl]; exact List.mem_cons_self
        exact absurd rfl (hbreak _ this)
      · simp [hall]
    · have hslash' : ∀ c ∈ letters ++ ['\n'], c ≠ '/' := by
        intro c hc
        rcases List.mem_append.mp hc with hc | hc
        · exact hslash c hc
        · rw [List.mem_singleton.mp hc]; decide
      obtain ⟨htake, hdrop⟩ := splitLast_eq body hslash'
      simp only [delimited?, htake, hdrop]
      simp [hall]

/-- The body of a delimited text is shorter than the text. -/
lemma delimited?_length_lt {cs body letters : List Char} (h : delimited? cs = some (body, letters)) :
    body.length < cs.length := by
  rcases (delimited?_eq_some.mp h).2 with rfl | rfl
  · simp only [List.length_cons, List.length_append]
    omega
  · simp only [List.length_cons, List.length_append]
    omega

/-! ### Writing a pattern and reading it again -/

lemma writtenFlags_le {p : Pattern} (h : p.flags.ignoreCase = true) : p.writtenFlags ≤ p.flags := by
  rw [Flags.le_def]
  cases hf : p.flags
  simp_all [Flags.union, writtenFlags]

/-- The flags that are written take in every choice of the pattern's flags without those for a range
of characters. -/
lemma le_writtenFlags {p : Pattern} {f : Flags} (h : f ≤ p.flags) (hascii : f.ascii = false)
    (hunicode : f.unicode = false) : f ≤ p.writtenFlags := by
  have hm := congrArg Flags.multiline (Flags.le_def.mp h)
  have hs := congrArg Flags.dotAll (Flags.le_def.mp h)
  have hx := congrArg Flags.verbose (Flags.le_def.mp h)
  simp only [Flags.union] at hm hs hx
  rw [Flags.le_def]
  simp [Flags.union, writtenFlags, hascii, hunicode, hm, hs, hx]

section

variable [CharacterNames]

/-- A pattern that was compiled from some text is what its body gives under the flags that its own
text names. -/
lemma ofBody_writtenFlags {text : String} {p : Pattern} (h : compile text = .ok p) :
    ofBody p.body.toList p.writtenFlags = .ok p := by
  have key : ∀ (body : List Char) (f : Flags), ofBody body f = .ok p → f.ignoreCase = true →
      f.ascii = false → f.unicode = false → ofBody p.body.toList p.writtenFlags = .ok p := by
    intro body f hf hcase hascii hunicode
    rw [body_of_ofBody hf]
    have hle := le_flags_of_ofBody hf
    exact ofBody_of_le hf (le_writtenFlags hle hascii hunicode)
      (writtenFlags_le (Flags.ignoreCase_of_le hle hcase))
  rw [compile] at h
  split at h
  · obtain ⟨f, hf, h⟩ := bind_eq_ok.mp h
    obtain ⟨hle, hascii, hunicode⟩ := addLetters_eq_ok hf
    exact key _ f h (Flags.ignoreCase_of_le hle rfl) hascii hunicode
  · exact key _ _ h rfl rfl rfl

/-- The text of a pattern stands for the pattern: it has delimiters, or its body does not look like a
delimited text. -/
def Exportable (p : Pattern) : Prop :=
  p.extraLetters = [] → delimited? p.body.toList = none

instance (p : Pattern) : Decidable p.Exportable :=
  inferInstanceAs (Decidable (_ → _))

/-- A pattern with flags that need delimiters is read again from its text. -/
lemma compile_text_of_extraLetters {text : String} {p : Pattern} (h : compile text = .ok p)
    (hextra : p.extraLetters ≠ []) : compile p.text = .ok p := by
  have htext : p.text.toList = '/' :: (p.body.toList ++ '/' :: ('i' :: p.extraLetters)) := by
    simp [Pattern.text, hextra]
  have hdelimited : delimited? p.text.toList = some (p.body.toList, 'i' :: p.extraLetters) :=
    delimited?_eq_some.mpr ⟨p.extraLetters_all, .inl htext⟩
  rw [compile, hdelimited]
  exact bind_eq_ok.mpr ⟨_, p.addLetters_extraLetters, ofBody_writtenFlags h⟩

/-- A pattern without such flags is read again from its text unless the text looks delimited, since
then what is read has a shorter body. -/
lemma compile_text_of_plain {text : String} {p : Pattern} (h : compile text = .ok p)
    (hextra : p.extraLetters = []) :
    compile p.text = .ok p ↔ delimited? p.body.toList = none := by
  have htext : p.text = p.body := by simp [Pattern.text, hextra]
  have hflags : p.writtenFlags = { ignoreCase := true } := by
    have := p.addLetters_extraLetters
    rw [hextra] at this
    exact (Except.ok.inj this).symm
  rw [htext, compile]
  split
  · rename_i body letters hdelimited
    simp only [hdelimited, reduceCtorEq, iff_false]
    intro hp
    obtain ⟨f, _, hp⟩ := bind_eq_ok.mp hp
    have hlt := delimited?_length_lt hdelimited
    rw [body_of_ofBody hp] at hlt
    exact lt_irrefl _ hlt
  · rename_i hdelimited
    simp only [hdelimited, iff_true]
    exact hflags ▸ ofBody_writtenFlags h

/-- What is written for a pattern gives the pattern again exactly if it is exportable. -/
theorem compile_text_iff {text : String} {p : Pattern} (h : compile text = .ok p) :
    compile p.text = .ok p ↔ p.Exportable := by
  by_cases hextra : p.extraLetters = []
  · rw [compile_text_of_plain h hextra]
    exact ⟨fun hd _ => hd, fun hp => hp hextra⟩
  · exact ⟨fun _ he => absurd he hextra, fun _ => compile_text_of_extraLetters h hextra⟩

end

end Pattern

end UserAgent
