import Mathlib.Computability.Language
import Mathlib.Data.List.Forall2
import UserAgent.Proofs.Ways

/-!
# What a node reads

A node reads the text between the states of its ways, which is a text of its language
(`Node.mem_language_of_way`). The language looks at nothing around the text, at no other group, and at
no order of alternatives, so it may be larger than what is read.

Every text of the language has one of the openings of the node (`Node.fits_of_mem_language`), and each
of its characters passes one of the tests of the node (`Node.accepts_of_mem_language`). Both lists can
be evaluated.
-/

namespace UserAgent

namespace Regex

/-! ### The text of a way -/

/-- The text between the places of two states. -/
def textBetween (text : Array Char) (s t : State) : List Char :=
  (text.extract s.pos t.pos).toList

section

variable {text : Array Char} {s t u : State}

lemma textBetween_of_pos_eq (h : t.pos = s.pos) : textBetween text s t = [] := by
  simp [textBetween, h]

/-- The text between two places goes through every place between them. -/
lemma textBetween_append (h : s.Leads t) (h' : t.Leads u) :
    textBetween text s t ++ textBetween text t u = textBetween text s u := by
  rw [textBetween, textBetween, textBetween, ← Array.toList_append, Array.extract_append_extract,
    Nat.min_eq_left h.pos_le, Nat.max_eq_right h'.pos_le]

lemma mem_of_mem_textBetween {c : Char} (h : c ∈ textBetween text s t) : c ∈ text.toList := by
  rw [textBetween, Array.toList_extract, List.extract_eq_take_drop] at h
  exact List.mem_of_mem_drop (List.mem_of_mem_take h)

end

/-! ### Languages -/

/-- The texts of one character that passes a test. -/
def Symbol.language (y : Symbol) : Language Char :=
  {cs | ∃ c, cs = [c] ∧ y.accepts c.toNat = true}

/-- The texts that a node may read. -/
def Node.language : Node → Language Char
  | .empty | .anchor _ | .look .. => 1
  | .char code negated folding => (Symbol.char code negated folding).language
  | .any lineBreaks => (Symbol.any lineBreaks).language
  | .set members folding => (Symbol.set members folding).language
  | .cat first second => first.language * second.language
  | .alt first second => first.language + second.language
  | .group _ body | .atomic body => body.language
  | .backref .. => ⊤
  | .given _ present absent => present.language + absent.language
  | .repeated min max _ body =>
    {cs | ∃ extra, (∀ most, max = some most → extra ≤ most - min) ∧
      cs ∈ body.language ^ (min + extra)}

/-- What a symbol reads is a word of its language. -/
lemma Symbol.Reads.mem_language {text : Array Char} {y : Symbol} {s t : State}
    (h : y.Reads text s t) : textBetween text s t ∈ y.language := by
  obtain ⟨c, hc, hy, rfl⟩ := h
  refine ⟨c, ?_, hy⟩
  obtain ⟨hlt, rfl⟩ := Array.getElem?_eq_some_iff.mp hc
  rw [textBetween, Array.toList_extract, List.extract_eq_take_drop,
    List.drop_eq_getElem_cons (by simpa using hlt), Nat.add_sub_cancel_left]
  rfl

/-- Steps that each read a text of a language. -/
lemma Steps.mem_language {text : Array Char} {R : State → State → Prop} {l : Language Char}
    (hR : ∀ s t, R s t → s.Leads t ∧ textBetween text s t ∈ l) {count : Nat} {s t : State}
    (h : Steps R count s t) : s.Leads t ∧ textBetween text s t ∈ l ^ count := by
  induction h with
  | zero s => exact ⟨.refl s, textBetween_of_pos_eq rfl⟩
  | @succ count s t u first rest ih =>
    obtain ⟨hfirst, hmem⟩ := hR _ _ first
    obtain ⟨hrest, hmems⟩ := ih
    rw [← textBetween_append hfirst hrest, pow_succ']
    exact ⟨hfirst.trans hrest, Language.append_mem_mul hmem hmems⟩

namespace Node

variable {text : Array Char} {node : Node} {s t : State} {cs : List Char}

/-- What a node reads on a way is a text of its language. -/
theorem mem_language_of_way (h : node.Way text s t) : textBetween text s t ∈ node.language := by
  induction node generalizing s t with
  | empty =>
    obtain rfl := h
    exact textBetween_of_pos_eq rfl
  | char code negated folding => exact h.mem_language
  | any lineBreaks => exact h.mem_language
  | set members folding => exact h.mem_language
  | anchor a =>
    obtain ⟨-, rfl⟩ := h
    exact textBetween_of_pos_eq rfl
  | cat first second ihFirst ihSecond =>
    obtain ⟨u, hfirst, hsecond⟩ := h
    rw [← textBetween_append (leads_of_way hfirst) (leads_of_way hsecond)]
    exact Language.append_mem_mul (ihFirst hfirst) (ihSecond hsecond)
  | alt first second ihFirst ihSecond =>
    rcases h with h | h
    · exact .inl (ihFirst h)
    · exact .inr (ihSecond h)
  | group index body ih =>
    obtain ⟨u, hu, rfl⟩ := h
    have hbody := ih hu
    exact hbody
  | backref index folding => exact Set.mem_univ _
  | given index present absent ihPresent ihAbsent =>
    rw [Way] at h
    split_ifs at h
    · exact .inl (ihPresent h)
    · exact .inr (ihAbsent h)
  | look behind positive body ih =>
    cases positive with
    | true =>
      obtain ⟨-, u, hu, rfl⟩ := h
      exact textBetween_of_pos_eq rfl
    | false =>
      obtain ⟨rfl, -⟩ := h
      exact textBetween_of_pos_eq rfl
  | repeated min max greed body ih =>
    obtain ⟨extra, hextra, hsteps⟩ := h
    -- A number of rounds reads a word of a power of the language.
    have hmem := hsteps.mem_language fun v w hway => ⟨leads_of_way hway, ih hway⟩
    exact ⟨extra, hextra, hmem.2⟩
  | atomic body ih => exact ih h

/-! ### Characters -/

/-- The tests of a node. The text of a reference may have any character. -/
def symbols : Node → List Symbol
  | .empty | .anchor _ | .look .. => []
  | .char code negated folding => [.char code negated folding]
  | .any lineBreaks => [.any lineBreaks]
  | .set members folding => [.set members folding]
  | .cat first second | .alt first second => first.symbols ++ second.symbols
  | .given _ present absent => present.symbols ++ absent.symbols
  | .group _ body | .repeated _ _ _ body | .atomic body => body.symbols
  | .backref .. => [.any true]

/-- The word of a symbol has characters that it accepts. -/
lemma accepts_of_mem_symbol {y : Symbol} (h : cs ∈ y.language) :
    ∀ c ∈ cs, ∃ z ∈ [y], z.accepts c.toNat = true := by
  obtain ⟨c, rfl, hc⟩ := h
  simpa using hc

/-- Each character of a text of the language passes one of the tests. -/
theorem accepts_of_mem_language (h : cs ∈ node.language) :
    ∀ c ∈ cs, ∃ y ∈ node.symbols, y.accepts c.toNat = true := by
  induction node generalizing cs with
  | empty | anchor _ | look _ _ _ _ =>
    obtain rfl := h
    exact List.forall_mem_nil _
  | char code negated folding => exact accepts_of_mem_symbol h
  | any lineBreaks => exact accepts_of_mem_symbol h
  | set members folding => exact accepts_of_mem_symbol h
  | cat first second ihFirst ihSecond =>
    obtain ⟨as, has, bs, hbs, rfl⟩ := Language.mem_mul.mp h
    intro c hc
    rcases List.mem_append.mp hc with hc | hc
    · obtain ⟨y, hy, hyc⟩ := ihFirst has c hc
      exact ⟨y, List.mem_append_left _ hy, hyc⟩
    · obtain ⟨y, hy, hyc⟩ := ihSecond hbs c hc
      exact ⟨y, List.mem_append_right _ hy, hyc⟩
  | alt first second ihFirst ihSecond | given _ first second ihFirst ihSecond =>
    intro c hc
    rcases h with h | h
    · obtain ⟨y, hy, hyc⟩ := ihFirst h c hc
      exact ⟨y, List.mem_append_left _ hy, hyc⟩
    · obtain ⟨y, hy, hyc⟩ := ihSecond h c hc
      exact ⟨y, List.mem_append_right _ hy, hyc⟩
  | group index body ih => exact ih h
  | backref index folding => exact fun c _ => ⟨.any true, List.mem_singleton_self _, rfl⟩
  | repeated min max greed body ih =>
    obtain ⟨extra, -, hpow⟩ := h
    -- The characters are those of some round.
    obtain ⟨texts, rfl, -, htexts⟩ := Language.mem_pow.mp hpow
    intro c hc
    obtain ⟨cs, hcs, hc⟩ := List.mem_flatten.mp hc
    exact ih (htexts cs hcs) c hc
  | atomic body ih => exact ih h

end Node

/-! ### Openings -/

/-- How a text may begin: characters that pass tests, and then anything, or nothing if that is the
whole text. -/
structure Opening where
  symbols : List Symbol
  whole : Bool
deriving DecidableEq, Repr

namespace Opening

/-- A text that begins as an opening says. -/
def Fits (o : Opening) (cs : List Char) : Prop :=
  ∃ start rest, cs = start ++ rest ∧
    List.Forall₂ (fun (y : Symbol) (c : Char) => y.accepts c.toNat = true) o.symbols start ∧
    (o.whole = true → rest = [])

/-- The empty text. -/
def nothing : Opening := ⟨[], true⟩

/-- Any text. -/
def anything : Opening := ⟨[], false⟩

/-- Any text that is not empty. -/
def something : Opening := ⟨[.any true], false⟩

/-- A text of one character. -/
def one (y : Symbol) : Opening := ⟨[y], true⟩

/-- A text that begins with some characters, or consists of them. -/
def ofChars (cs : List Char) (whole : Bool) : Opening :=
  ⟨cs.map fun c => .char c.toNat false .exact, whole⟩

/-- One opening and then another one. -/
def append (o p : Opening) : Opening :=
  if o.whole then ⟨o.symbols ++ p.symbols, p.whole⟩ else o

/-- Each of some openings and then each of others. -/
def appendEach (os ps : List Opening) : List Opening :=
  os.flatMap fun o => ps.map o.append

/-- The openings of a number of texts with openings, one after the other. -/
def times (os : List Opening) : Nat → List Opening
  | 0 => [nothing]
  | count + 1 => appendEach os (times os count)

variable {o p : Opening} {os ps : List Opening} {cs ds : List Char}

lemma fits_nothing : nothing.Fits [] :=
  ⟨[], [], rfl, .nil, fun _ => rfl⟩

lemma fits_anything (cs : List Char) : anything.Fits cs :=
  ⟨[], cs, rfl, .nil, fun h => by cases h⟩

lemma fits_something (h : cs ≠ []) : something.Fits cs := by
  obtain ⟨c, cs, rfl⟩ := List.exists_cons_of_ne_nil h
  exact ⟨[c], cs, rfl, .cons rfl .nil, fun h => by cases h⟩

lemma fits_one {y : Symbol} (h : cs ∈ y.language) : (one y).Fits cs := by
  obtain ⟨c, rfl, hc⟩ := h
  exact ⟨[c], [], rfl, .cons hc .nil, fun _ => rfl⟩

/-- A text fits the opening that is made of its first characters, or of all. -/
lemma fits_ofChars {whole : Bool} (h : whole = true → ds = []) :
    (ofChars cs whole).Fits (cs ++ ds) := by
  refine ⟨cs, ds, rfl, ?_, h⟩
  rw [ofChars, List.forall₂_map_left_iff, List.forall₂_same]
  intro c _
  simp [Symbol.accepts, matchesCode, Folding.variants, Folding.lower]

lemma Fits.isEmpty_symbols (h : o.Fits []) : o.symbols.isEmpty = true := by
  obtain ⟨start, rest, hnil, hstart, -⟩ := h
  obtain ⟨rfl, -⟩ := List.append_eq_nil_iff.mp hnil.symm
  rw [List.forall₂_nil_right_iff.mp hstart]
  rfl

lemma Fits.eq_nil (h : nothing.Fits cs) : cs = [] := by
  obtain ⟨start, rest, rfl, hstart, hrest⟩ := h
  rw [hrest rfl, List.forall₂_nil_left_iff.mp hstart]
  rfl

/-- Two texts that fit two openings fit, one after the other, the opening that is made of both. -/
lemma Fits.append (h : o.Fits cs) (h' : p.Fits ds) : (o.append p).Fits (cs ++ ds) := by
  obtain ⟨start, rest, rfl, hstart, hrest⟩ := h
  rw [Opening.append]
  split_ifs with hwhole
  · obtain ⟨start', rest', rfl, hstart', hrest'⟩ := h'
    refine ⟨start ++ start', rest', ?_, List.rel_append hstart hstart', hrest'⟩
    simp [hrest hwhole]
  · exact ⟨start, rest ++ ds, List.append_assoc _ _ _, hstart, fun h => absurd h hwhole⟩

/-- The same for one opening out of many. -/
lemma exists_fits_append (h : ∃ o ∈ os, o.Fits cs) (h' : ∃ p ∈ ps, p.Fits ds) :
    ∃ o ∈ appendEach os ps, o.Fits (cs ++ ds) := by
  obtain ⟨o, ho, h⟩ := h
  obtain ⟨p, hp, h'⟩ := h'
  exact ⟨o.append p, List.mem_flatMap.mpr ⟨o, ho, List.mem_map_of_mem hp⟩, h.append h'⟩

/-- The same for a number of rounds. -/
lemma exists_fits_times {l : Language Char} (hl : ∀ cs ∈ l, ∃ o ∈ os, o.Fits cs) {count : Nat}
    (h : cs ∈ l ^ count) : ∃ o ∈ times os count, o.Fits cs := by
  induction count generalizing cs with
  | zero =>
    obtain rfl := h
    exact ⟨nothing, List.mem_singleton_self _, fits_nothing⟩
  | succ count ih =>
    rw [pow_succ'] at h
    obtain ⟨as, has, bs, hbs, rfl⟩ := Language.mem_mul.mp h
    exact exists_fits_append (hl as has) (ih hbs)

end Opening

namespace Node

open Opening

/-- The openings of the texts that a node may read. -/
def openings : Node → List Opening
  | .empty | .anchor _ | .look .. => [nothing]
  | .char code negated folding => [one (.char code negated folding)]
  | .any lineBreaks => [one (.any lineBreaks)]
  | .set members folding => [one (.set members folding)]
  | .cat first second => appendEach first.openings second.openings
  | .alt first second => first.openings ++ second.openings
  | .group _ body | .atomic body => body.openings
  | .backref .. => [anything]
  | .given _ present absent => present.openings ++ absent.openings
  | .repeated min max _ body =>
    match max with
    | some max => (List.range (max - min + 1)).flatMap fun extra => times body.openings (min + extra)
    | none => appendEach (times body.openings min) [anything]

variable {node : Node} {cs : List Char}

/-- A text of the language begins as one of the openings says. -/
theorem fits_of_mem_language (h : cs ∈ node.language) : ∃ o ∈ node.openings, o.Fits cs := by
  induction node generalizing cs with
  | empty | anchor _ | look _ _ _ _ =>
    obtain rfl := h
    exact ⟨nothing, List.mem_singleton_self _, fits_nothing⟩
  | char code negated folding => exact ⟨_, List.mem_singleton_self _, fits_one h⟩
  | any lineBreaks => exact ⟨_, List.mem_singleton_self _, fits_one h⟩
  | set members folding => exact ⟨_, List.mem_singleton_self _, fits_one h⟩
  | cat first second ihFirst ihSecond =>
    obtain ⟨as, has, bs, hbs, rfl⟩ := Language.mem_mul.mp h
    exact exists_fits_append (ihFirst has) (ihSecond hbs)
  | alt first second ihFirst ihSecond | given _ first second ihFirst ihSecond =>
    rcases h with h | h
    · obtain ⟨o, ho, hfits⟩ := ihFirst h
      exact ⟨o, List.mem_append_left _ ho, hfits⟩
    · obtain ⟨o, ho, hfits⟩ := ihSecond h
      exact ⟨o, List.mem_append_right _ ho, hfits⟩
  | group index body ih => exact ih h
  | backref index folding => exact ⟨anything, List.mem_singleton_self _, fits_anything cs⟩
  | repeated min max greed body ih =>
    obtain ⟨extra, hextra, hpow⟩ := h
    cases max with
    | some max =>
      have hmem : extra ∈ List.range (max - min + 1) :=
        List.mem_range.mpr (Nat.lt_succ_of_le (hextra max rfl))
      obtain ⟨o, ho, hfits⟩ := exists_fits_times (fun cs hcs => ih hcs) hpow
      exact ⟨o, List.mem_flatMap.mpr ⟨extra, hmem, ho⟩, hfits⟩
    | none =>
      -- The required texts come first, and the others may be anything.
      rw [pow_add] at hpow
      obtain ⟨as, has, bs, -, rfl⟩ := Language.mem_mul.mp hpow
      exact exists_fits_append (exists_fits_times (fun cs hcs => ih hcs) has)
        ⟨anything, List.mem_singleton_self _, fits_anything bs⟩
  | atomic body ih => exact ih h

end Node

end Regex

end UserAgent
