import Mathlib.Data.List.Infix
import UserAgent.Proofs.ExhaustiveSearch
import UserAgent.Proofs.Vocabularies

/-!
# Words in patterns

A word in a pattern is one test after the other, and there is one way at most to run it: it reads the
characters that pass the tests (`Node.way_ofSymbols_iff`, `Node.run_ofSymbols`). Of ASCII characters
these are the letters of the word in any case (`Symbol.spell_word_iff`). What a look-ahead has seen and
what is read after it are the same characters, so nothing is read where the two exclude each other
(`Node.not_way_lookahead`).
-/

namespace UserAgent

namespace Regex

/-! ### Tests for words -/

namespace Symbol

/-- The test for a letter in either case, or for a character that has no case. -/
def letter (c : Char) : Symbol :=
  .char c.toNat false (Folding.full.forCode c.toNat)

/-- The tests for the characters of a word. -/
def word (s : String) : List Symbol :=
  s.toList.map letter

/-- The test for the characters of a class. -/
def ofKind (kind : ClassKind) : Symbol :=
  .set ⟨false, [.ofClass ⟨kind, false, false⟩]⟩ .exact

/-- The test for white space. -/
def blank : Symbol :=
  ofKind .blank

/-- Characters that pass tests, one each. -/
def Spell (ys : List Symbol) (cs : List Char) : Prop :=
  List.Forall₂ (fun (y : Symbol) (c : Char) => y.accepts c.toNat = true) ys cs

/-- Somewhere in a text are characters that pass tests, one each. -/
def OccurIn (ys : List Symbol) (cs : List Char) : Prop :=
  ∃ token, Spell ys token ∧ token <:+: cs

/-- The node of a test. -/
def node : Symbol → Node
  | .char code negated folding => .char code negated folding
  | .any lineBreaks => .any lineBreaks
  | .set members folding => .set members folding

lemma accepts_ofKind (kind : ClassKind) (n : Nat) :
    (ofKind kind).accepts n = (CharClass.mk kind false false).contains n := by
  simp [ofKind, accepts, CharSet.contains, SetItem.contains, Folding.lower]

/-- Of ASCII characters the test for a letter accepts that letter in both cases. -/
lemma accepts_letter_iff {c d : Char} (hc : c.toNat < 0x80) (hd : d.toNat < 0x80) :
    (letter d).accepts c.toNat = true ↔ Text.SameLetter c d := by
  rw [letter, accepts, Bool.bne_false]
  refine ⟨fun h => .inr ⟨hc, hd, asciiLower_eq_of_matchesCode hd hc h⟩, fun h => ?_⟩
  rw [Folding.forCode]
  split_ifs with hcased
  · have hlower : Unicode.asciiLower c.toNat = Unicode.asciiLower d.toNat := by
      rcases h with rfl | ⟨-, -, h⟩
      · rfl
      · exact h
    simp [matchesCode, Folding.variants, Folding.lower, Text.lowerCode_of_lt hc,
      Text.lowerCode_of_lt hd, hlower]
  · rw [Folding.cases, Unicode.isCased, if_pos hd] at hcased
    have heq := h.beq_eq (Bool.eq_false_iff.mpr hcased)
    rw [beq_self_eq_true, beq_iff_eq] at heq
    simp [matchesCode, Folding.variants, Folding.lower, heq]

/-- ASCII characters pass the tests for a word if they are its letters in any case. -/
theorem spell_word_iff {s : String} {cs : List Char} (hs : ∀ d ∈ s.toList, d.toNat < 0x80)
    (hcs : ∀ c ∈ cs, c.toNat < 0x80) :
    Spell (word s) cs ↔ Text.SameLetters (String.ofList cs) s := by
  rw [Spell, word, Text.SameLetters, String.toList_ofList]
  generalize s.toList = ds at hs
  induction ds generalizing cs with
  | nil => simp
  | cons d ds ih =>
    obtain ⟨hd, hds⟩ := List.forall_mem_cons.mp hs
    cases cs with
    | nil => simp
    | cons c cs =>
      obtain ⟨hc, hcs⟩ := List.forall_mem_cons.mp hcs
      rw [List.map_cons, List.forall₂_cons, List.forall₂_cons, accepts_letter_iff hc hd,
        ih hcs hds]

variable {text : Array Char} {y : Symbol} {s t : State}

lemma way_node_iff : y.node.Way text s t ↔ y.Reads text s t := by
  cases y <;> exact Iff.rfl

lemma exhaustive_node (y : Symbol) : y.node.exhaustive = true := by
  cases y <;> rfl

lemma run_node (rest : Rest) (s : State) :
    y.node.run text rest s = s.step text y.accepts rest := by
  cases y <;> rfl

end Symbol

/-! ### Places of a text -/

section Places

variable {text : Array Char} {pos : Nat} {c : Char} {cs ds : List Char}

/-- What is left of a text begins with a character exactly if the text has it at this place. -/
lemma drop_eq_cons_iff :
    text.toList.drop pos = c :: cs ↔ text[pos]? = some c ∧ text.toList.drop (pos + 1) = cs := by
  rw [← Array.getElem?_toList, List.getElem?_eq_some_iff]
  constructor
  · intro h
    have hlt : pos < text.toList.length := by
      have hlength := congrArg List.length h
      simp only [List.length_drop, List.length_cons] at hlength
      omega
    rw [List.drop_eq_getElem_cons hlt] at h
    obtain ⟨hc, hcs⟩ := List.cons_eq_cons.mp h
    exact ⟨⟨hlt, hc⟩, hcs⟩
  · rintro ⟨⟨hlt, rfl⟩, rfl⟩
    exact List.drop_eq_getElem_cons hlt

lemma cons_prefix_drop_iff : c :: cs <+: text.toList.drop pos ↔
    text[pos]? = some c ∧ cs <+: text.toList.drop (pos + 1) := by
  constructor
  · rintro ⟨rest, h⟩
    obtain ⟨hc, hcs⟩ := drop_eq_cons_iff.mp h.symm
    exact ⟨hc, rest, hcs.symm⟩
  · rintro ⟨hc, rest, h⟩
    exact ⟨rest, (drop_eq_cons_iff.mpr ⟨hc, h.symm⟩).symm⟩

/-- Two texts stand one behind the other at a place. -/
lemma append_prefix_drop_iff : cs ++ ds <+: text.toList.drop pos ↔
    cs <+: text.toList.drop pos ∧ ds <+: text.toList.drop (pos + cs.length) := by
  induction cs generalizing pos with
  | nil => simp
  | cons c cs ih =>
    rw [List.cons_append, cons_prefix_drop_iff, ih, cons_prefix_drop_iff, and_assoc,
      List.length_cons, Nat.add_right_comm, Nat.add_assoc]

/-- What stands at a place is the slice of its length. -/
lemma slice_of_prefix_drop (h : cs <+: text.toList.drop pos) :
    Match.slice text ⟨pos, pos + cs.length⟩ = String.ofList cs := by
  obtain ⟨rest, h⟩ := h
  rw [Match.slice, Array.toList_extract, List.extract_eq_take_drop, ← h]
  simp

end Places

namespace Symbol

variable {text : Array Char} {y : Symbol} {s t : State}

/-- A symbol reads one character that it accepts. -/
lemma reads_iff : y.Reads text s t ↔ ∃ c, y.accepts c.toNat = true ∧
    [c] <+: text.toList.drop s.pos ∧ t = { s with pos := s.pos + 1 } := by
  refine exists_congr fun c => ?_
  rw [cons_prefix_drop_iff, and_iff_left List.nil_prefix]
  exact and_left_comm

/-- A test that is passed again and again. -/
lemma steps_reads_iff {count : Nat} : Steps (y.Reads text) count s t ↔
    ∃ cs, cs.length = count ∧ (∀ c ∈ cs, y.accepts c.toNat = true) ∧
      cs <+: text.toList.drop s.pos ∧ t = { s with pos := s.pos + count } := by
  induction count generalizing s with
  | zero =>
    constructor
    · intro h
      cases h
      exact ⟨[], rfl, List.forall_mem_nil _, List.nil_prefix, rfl⟩
    · rintro ⟨-, -, -, -, rfl⟩
      exact .zero s
  | succ count ih =>
    constructor
    · intro h
      cases h with
      | succ first rest =>
        obtain ⟨c, hy, hc, rfl⟩ := reads_iff.mp first
        obtain ⟨cs, rfl, hcs, hstarts, rfl⟩ := ih.mp rest
        refine ⟨c :: cs, rfl, List.forall_mem_cons.mpr ⟨hy, hcs⟩, ?_, by simp only; congr 1; omega⟩
        rw [← List.singleton_append]
        exact append_prefix_drop_iff.mpr ⟨hc, hstarts⟩
    · rintro ⟨cs, hlength, hcs, hstarts, rfl⟩
      cases cs with
      | nil => cases hlength
      | cons c cs =>
        obtain ⟨hy, hcs⟩ := List.forall_mem_cons.mp hcs
        obtain ⟨hc, hstarts⟩ := cons_prefix_drop_iff.mp hstarts
        refine .succ ⟨c, hc, hy, rfl⟩ (ih.mpr ⟨cs, by simpa using hlength, hcs, hstarts, ?_⟩)
        simp only
        congr 1
        omega

/-- What a text consists of around some characters is told by the place at which they begin. -/
lemma exists_split_iff {ys : List Symbol} {P : List Char → Prop} :
    (∃ before token after, text.toList = before ++ token ++ after ∧ Spell ys token ∧ P after) ↔
      ∃ pos ≤ text.size, ∃ cs, Spell ys cs ∧ cs <+: text.toList.drop pos ∧
        P (text.toList.drop (pos + cs.length)) := by
  constructor
  · rintro ⟨before, token, after, h, htoken, hafter⟩
    have hlength := congrArg List.length h
    simp only [List.length_append, Array.length_toList] at hlength
    have hdrop : text.toList.drop before.length = token ++ after := by
      rw [h, List.append_assoc, List.drop_left]
    refine ⟨before.length, by omega, token, htoken, ⟨after, hdrop.symm⟩, ?_⟩
    rwa [← List.drop_drop, hdrop, List.drop_left]
  · rintro ⟨pos, -, token, htoken, ⟨after, h⟩, hafter⟩
    rw [← List.drop_drop, ← h, List.drop_left] at hafter
    refine ⟨text.toList.take pos, token, after, ?_, htoken, hafter⟩
    rw [List.append_assoc, h, List.take_append_drop]

/-- What occurs in a text stands at some place of it. -/
lemma occurIn_iff {ys : List Symbol} : OccurIn ys text.toList ↔
    ∃ pos ≤ text.size, ∃ cs, Spell ys cs ∧ cs <+: text.toList.drop pos := by
  constructor
  · rintro ⟨token, htoken, before, after, h⟩
    obtain ⟨pos, hpos, cs, hcs, hstarts, -⟩ :=
      (exists_split_iff (P := fun _ => True)).mp ⟨before, token, after, h.symm, htoken, trivial⟩
    exact ⟨pos, hpos, cs, hcs, hstarts⟩
  · rintro ⟨pos, hpos, cs, hcs, hstarts⟩
    obtain ⟨before, token, after, h, htoken, -⟩ :=
      (exists_split_iff (P := fun _ => True)).mpr ⟨pos, hpos, cs, hcs, hstarts, trivial⟩
    exact ⟨token, htoken, before, after, h.symm⟩

/-- What begins with a character that is nowhere in a text does not occur in it. -/
lemma not_occurIn_cons {ys : List Symbol} {cs : List Char}
    (h : ∀ c ∈ cs, y.accepts c.toNat = false) : ¬ OccurIn (y :: ys) cs := by
  rintro ⟨token, htoken, hpart⟩
  obtain ⟨c, token, hc, -, rfl⟩ := List.forall₂_cons_left_iff.mp htoken
  rw [h c (hpart.subset List.mem_cons_self)] at hc
  cases hc

end Symbol

/-! ### Words as nodes -/

namespace Node

variable {text : Array Char} {s t : State} {ys : List Symbol} {cs : List Char}

/-- A way through a sequence is one through its first node and then one through the others. -/
lemma way_ofSequence_cons_iff {node : Node} {nodes : List Node} :
    (ofSequence (node :: nodes)).Way text s t ↔
      ∃ u, node.Way text s u ∧ (ofSequence nodes).Way text u t := by
  cases nodes with
  | nil =>
    constructor
    · intro h
      exact ⟨t, h, rfl⟩
    · rintro ⟨u, h, rfl⟩
      exact h
  | cons node' nodes => exact Iff.rfl

lemma way_ofSequence_append_iff {nodes nodes' : List Node} :
    (ofSequence (nodes ++ nodes')).Way text s t ↔
      ∃ u, (ofSequence nodes).Way text s u ∧ (ofSequence nodes').Way text u t := by
  induction nodes generalizing s with
  | nil =>
    constructor
    · intro h
      exact ⟨s, rfl, h⟩
    · rintro ⟨u, rfl, h⟩
      exact h
  | cons node nodes ih =>
    rw [List.cons_append, way_ofSequence_cons_iff]
    simp only [ih, way_ofSequence_cons_iff]
    constructor
    · rintro ⟨u, hu, v, hv, h⟩
      exact ⟨v, ⟨u, hu, hv⟩, h⟩
    · rintro ⟨v, ⟨u, hu, hv⟩, h⟩
      exact ⟨u, hu, v, hv, h⟩

/-- A sequence is run node by node. -/
lemma run_ofSequence_cons (node : Node) (nodes : List Node) (rest : Rest) (s : State) :
    (ofSequence (node :: nodes)).run text rest s =
      node.run text ((ofSequence nodes).run text rest) s := by
  cases nodes <;> rfl

lemma exhaustive_ofSequence {nodes : List Node} (h : ∀ node ∈ nodes, node.exhaustive = true) :
    (ofSequence nodes).exhaustive = true := by
  induction nodes with
  | nil => rfl
  | cons node nodes ih =>
    obtain ⟨hnode, hnodes⟩ := List.forall_mem_cons.mp h
    cases nodes with
    | nil => exact hnode
    | cons node' nodes => exact Bool.and_eq_true_iff.mpr ⟨hnode, ih hnodes⟩

/-- Tests one after the other. -/
def ofSymbols (ys : List Symbol) : Node :=
  ofSequence (ys.map Symbol.node)

lemma exhaustive_ofSymbols (ys : List Symbol) : (ofSymbols ys).exhaustive = true :=
  exhaustive_ofSequence (List.forall_mem_map.mpr fun y _ => y.exhaustive_node)

/-- Tests one after the other have one way at most: over the characters that pass them. -/
theorem way_ofSymbols_iff : (ofSymbols ys).Way text s t ↔ ∃ cs, Symbol.Spell ys cs ∧
    cs <+: text.toList.drop s.pos ∧ t = { s with pos := s.pos + ys.length } := by
  induction ys generalizing s with
  | nil =>
    constructor
    · intro h
      exact ⟨[], .nil, List.nil_prefix, h⟩
    · rintro ⟨-, -, -, h⟩
      exact h
  | cons y ys ih =>
    rw [ofSymbols, List.map_cons, way_ofSequence_cons_iff]
    simp only [Symbol.way_node_iff]
    constructor
    · rintro ⟨u, hfirst, hrest⟩
      obtain ⟨c, hy, hc, rfl⟩ := Symbol.reads_iff.mp hfirst
      obtain ⟨cs, hcs, hstarts, rfl⟩ := ih.mp hrest
      refine ⟨c :: cs, .cons hy hcs, ?_, by simp only [List.length_cons]; congr 1; omega⟩
      rw [← List.singleton_append]
      exact append_prefix_drop_iff.mpr ⟨hc, hstarts⟩
    · rintro ⟨cs, hcs, hstarts, rfl⟩
      cases hcs with
      | cons hy hcs =>
        obtain ⟨hc, hstarts⟩ := cons_prefix_drop_iff.mp hstarts
        refine ⟨_, ⟨_, hc, hy, rfl⟩, ih.mpr ⟨_, hcs, hstarts, ?_⟩⟩
        simp only [List.length_cons]
        congr 1
        omega

/-- Where the characters pass the tests, the search goes on after them. -/
theorem run_ofSymbols (hcs : Symbol.Spell ys cs) (hstarts : cs <+: text.toList.drop s.pos)
    (rest : Rest) :
    (ofSymbols ys).run text rest s = rest { s with pos := s.pos + ys.length } := by
  induction hcs generalizing s with
  | nil => rfl
  | @cons y c ys cs hy hcs ih =>
    obtain ⟨hc, hstarts⟩ := cons_prefix_drop_iff.mp hstarts
    rw [ofSymbols, List.map_cons, run_ofSequence_cons, Symbol.run_node, State.step, hc]
    dsimp only
    rw [if_pos hy]
    have hrest := ih (s := { s with pos := s.pos + 1 }) hstarts
    rw [ofSymbols] at hrest
    rw [hrest]
    simp only [List.length_cons]
    congr 2
    omega

/-- What was looked ahead to is not read if the tests exclude each other. -/
lemma not_way_lookahead {y z : Symbol} (hyz : ∀ n, y.accepts n = true → z.accepts n = false)
    (ys : List Symbol) :
    ¬ (ofSequence [.look none true (ofSymbols (y :: ys)), z.node]).Way text s t := by
  rintro ⟨u, ⟨-, v, hlook, rfl⟩, hread⟩
  obtain ⟨cs, hcs, hstarts, -⟩ := way_ofSymbols_iff.mp hlook
  obtain ⟨d, hd, hz, -⟩ := Symbol.way_node_iff.mp hread
  cases hcs with
  | @cons _ c _ _ hy _ =>
    obtain ⟨hc, -⟩ := cons_prefix_drop_iff.mp hstarts
    obtain rfl : c = d := Option.some_inj.mp (hc.symm.trans hd)
    rw [hyz _ hy] at hz
    cases hz

end Node

end Regex

end UserAgent
