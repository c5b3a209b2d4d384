import UserAgent.Proofs.DecimalDigits
import UserAgent.Proofs.SystemPatterns
import UserAgent.Proofs.TextParts

/-!
# Versions of AIX

A version is a sequence of groups of digits with points between them. The pattern for AIX reads it by a
repetition: an iteration reads a single digit and the point after it, so the repetition ends at the
first group with more digits, and at the last group. Its group keeps the last iteration alone, and that
is the version that is shown (`RuleSet.aix_builtIn`): never the whole one.
-/

namespace UserAgent

open Regex

/-! ### Versions -/

/-- Groups of digits. -/
def IsRelease (groups : List String) : Prop :=
  groups ≠ [] ∧ ∀ g ∈ groups, Template.IsNumeral g.toList

/-- The text of a version: its groups with points between them. -/
def releaseText (groups : List String) : String :=
  Text.joinWith "." groups

lemma toList_releaseText_cons (g g' : String) (groups : List String) :
    (releaseText (g :: g' :: groups)).toList =
      g.toList ++ '.' :: (releaseText (g' :: groups)).toList :=
  Text.toList_joinWith_cons "." g g' groups

/-- What is read last of a version: before its last group, the last one of the groups of one digit that
it begins with, and the point after that. -/
def lastRead? (groups : List String) : Option String :=
  ((groups.dropLast.takeWhile fun g => g.toList.length = 1).getLast?).map (· ++ ".")

lemma lastRead?_singleton (g : String) : lastRead? [g] = none := rfl

lemma lastRead?_cons_cons (g g' : String) (groups : List String) :
    lastRead? (g :: g' :: groups) =
      if g.toList.length = 1 then (lastRead? (g' :: groups)).or (some (g ++ ".")) else none := by
  rw [lastRead?, List.dropLast_cons_cons, List.takeWhile_cons]
  by_cases h : g.toList.length = 1
  · rw [if_pos (decide_eq_true h), if_pos h, List.getLast?_cons, lastRead?]
    cases ((g' :: groups).dropLast.takeWhile fun g => g.toList.length = 1).getLast? <;> rfl
  · rw [if_neg (by simpa using h), if_neg h]
    rfl

lemma lastRead?_of_longer {g : String} (hg : g.toList.length ≠ 1) (groups : List String) :
    lastRead? (g :: groups) = none := by
  cases groups with
  | nil => exact lastRead?_singleton g
  | cons g' groups => rw [lastRead?_cons_cons, if_neg hg]

/-- A version ends with a digit. -/
lemma IsRelease.exists_getLast? {groups : List String} (h : IsRelease groups) :
    ∃ d, (releaseText groups).toList.getLast? = some d ∧ Template.isDigit d = true := by
  obtain ⟨hne, hdigits⟩ := h
  induction groups with
  | nil => exact absurd rfl hne
  | cons g groups ih =>
    obtain ⟨⟨hg, hgdigits⟩, hrest⟩ := List.forall_mem_cons.mp hdigits
    cases groups with
    | nil => exact ⟨_, List.getLast?_eq_some_getLast hg, hgdigits _ (List.getLast_mem hg)⟩
    | cons g' groups =>
      obtain ⟨d, hd, hdigit⟩ := ih (List.cons_ne_nil _ _) hrest
      refine ⟨d, ?_, hdigit⟩
      rw [toList_releaseText_cons, List.getLast?_append, List.getLast?_cons, hd]
      rfl

namespace RuleSet

variable {text : Array Char} {s t : State} {p : Pattern} {m : Match} {groups : List String}

/-! ### One iteration -/

/-- The state after an iteration: two characters further on, with what it has read and the digit. -/
def afterIteration (s : State) : State :=
  State.setCapture { s.setCapture 3 ⟨s.pos, s.pos + 1⟩ with pos := s.pos + 2 } 2 ⟨s.pos, s.pos + 2⟩

lemma pos_afterIteration (s : State) : (afterIteration s).pos = s.pos + 2 := rfl

lemma length_captures_afterIteration (s : State) :
    (afterIteration s).captures.length = s.captures.length := by
  simp [afterIteration, State.setCapture]

/-- An iteration reads a digit, and after it what it also looks ahead to. -/
lemma run_releaseNode {d c : Char} {cs : List Char} (h : text.toList.drop s.pos = d :: c :: cs)
    (hd : Template.isDigit d = true) (rest : Rest) : releaseNode.run text rest s =
      if stop.accepts c.toNat && mark.accepts c.toNat then rest (afterIteration s) else none := by
  obtain ⟨hfirst, h⟩ := drop_eq_cons_iff.mp h
  obtain ⟨hsecond, -⟩ := drop_eq_cons_iff.mp h
  have hdigit : (Symbol.ofKind .digit).accepts d.toNat = true := by
    rw [Symbol.accepts_ofKind, CharClass.contains]
    exact (Bool.bne_false _).trans hd
  simp only [releaseNode, releaseBody, Node.run, Symbol.run_node, State.step, State.setCapture,
    hfirst, hdigit, if_true, Option.getD_none, Nat.zero_le, Nat.sub_zero, hsecond]
  cases stop.accepts c.toNat <;> cases mark.accepts c.toNat <;> rfl

/-- Between the groups an iteration reads the point. -/
lemma accepts_point : (stop.accepts '.'.toNat && mark.accepts '.'.toNat) = true := rfl

/-- At the end of a version an iteration reads nothing. -/
lemma accepts_parenthesis : (stop.accepts ')'.toNat && mark.accepts ')'.toNat) = false := rfl

/-- A digit cannot follow what an iteration reads. -/
lemma stop_accepts_digit {d : Char} (hd : Template.isDigit d = true) :
    stop.accepts d.toNat = false := by
  have hpoint : d.toNat ≠ '.'.toNat := fun h => Template.ne_of_isDigit hd rfl (Char.toNat_inj.mp h)
  have hparenthesis : d.toNat ≠ ')'.toNat :=
    fun h => Template.ne_of_isDigit hd rfl (Char.toNat_inj.mp h)
  have hblank : Unicode.isBlank d.toNat = false := Unicode.isBlank_of_isDigit hd
  simpa [stop, Symbol.accepts, CharSet.contains, SetItem.contains, CharClass.contains,
    Folding.lower, hblank] using And.intro hpoint hparenthesis

/-- In the middle of a group an iteration reads nothing. -/
lemma accepts_digit {d : Char} (hd : Template.isDigit d = true) :
    (stop.accepts d.toNat && mark.accepts d.toNat) = false := by
  rw [stop_accepts_digit hd, Bool.false_and]

/-! ### The repetition -/

/-- Where the body fails, a repetition is over. -/
lemma greedily_of_run_eq_none {body : Rest → Rest} (h : ∀ rest, body rest s = none) (rest : Rest)
    (budget : Nat) (last : Option Nat) : greedily body rest budget last s = rest s := by
  cases budget with
  | zero => rfl
  | succ budget =>
    rw [greedily, h]
    exact ite_self _

/-- The text that a slot holds, if it holds one. -/
def wordAt (text : Array Char) (s : State) (slot : Nat) : Option String :=
  ((s.captures[slot]?).join).map (Match.slice text)

lemma wordAt_zero_afterIteration : wordAt text (afterIteration s) 0 = wordAt text s 0 := by
  simp [wordAt, afterIteration, State.setCapture]

lemma wordAt_one_afterIteration {d c : Char} {cs : List Char} (hs : s.captures.length = 3)
    (h : text.toList.drop s.pos = d :: c :: cs) :
    wordAt text (afterIteration s) 1 = some (String.ofList [d, c]) := by
  have hstarts : [d, c] <+: text.toList.drop s.pos := ⟨cs, h.symm⟩
  have hslice : Match.slice text ⟨s.pos, s.pos + 2⟩ = String.ofList [d, c] :=
    slice_of_prefix_drop hstarts
  simp [wordAt, afterIteration, State.setCapture, hs, hslice]

/-- The repetition of the pattern, which nothing follows. -/
def runReleases (text : Array Char) : (budget : Nat) → (last : Option Nat) → Rest :=
  greedily (fun rest s => releaseNode.run text rest s) some

/-- What the repetition does from a state: it ends in one where the first slot holds what it held, and
the second one holds what is given, or else what it held. -/
def Notes (text : Array Char) (budget : Nat) (last : Option Nat) (s : State) (word : Option String) :
    Prop :=
  ∃ t, runReleases text budget last s = some t ∧ wordAt text t 0 = wordAt text s 0 ∧
    wordAt text t 1 = word.or (wordAt text s 1)

/-- The repetition ends after a digit that is not followed by a point. -/
lemma notes_none {d c : Char} {cs : List Char} (h : text.toList.drop s.pos = d :: c :: cs)
    (hd : Template.isDigit d = true) (hc : (stop.accepts c.toNat && mark.accepts c.toNat) = false)
    (budget : Nat) (last : Option Nat) : Notes text budget last s none := by
  refine ⟨s, greedily_of_run_eq_none (fun rest => ?_) some budget last, rfl, rfl⟩
  rw [run_releaseNode h hd, hc]
  rfl

/-- The repetition goes on after a digit and a point. -/
lemma notes_point {d : Char} {cs : List Char} (hs : s.captures.length = 3)
    (h : text.toList.drop s.pos = d :: '.' :: cs) (hd : Template.isDigit d = true) {budget : Nat}
    {last : Option Nat} (hlast : last ≠ some s.pos) {word : Option String}
    (hnotes : Notes text budget (some s.pos) (afterIteration s) word) :
    Notes text (budget + 1) last s (word.or (some (String.ofList [d, '.']))) := by
  obtain ⟨t, ht, hzero, hone⟩ := hnotes
  refine ⟨t, ?_, hzero.trans wordAt_zero_afterIteration, ?_⟩
  · have hiteration : releaseNode.run text (runReleases text budget (some s.pos)) s = some t := by
      rw [run_releaseNode h hd, accepts_point]
      exact ht
    rw [runReleases] at hiteration ⊢
    rw [greedily, if_neg (by simpa using hlast), hiteration]
  · rw [hone, wordAt_one_afterIteration hs h, Option.or_assoc, Option.some_or]

/-- Over a version the repetition goes on as long as the groups have one digit each, and keeps what it
has read last. -/
theorem notes_lastRead? (hgroups : IsRelease groups) (hs : s.captures.length = 3)
    (h : text.toList.drop s.pos = (releaseText groups).toList ++ [')']) {budget : Nat}
    (hbudget : (releaseText groups).toList.length < budget) {last : Option Nat}
    (hlast : last ≠ some s.pos) : Notes text budget last s (lastRead? groups) := by
  obtain ⟨hne, hdigits⟩ := hgroups
  induction groups generalizing s budget last with
  | nil => exact absurd rfl hne
  | cons g groups ih =>
    obtain ⟨⟨hg, hgdigits⟩, hrest⟩ := List.forall_mem_cons.mp hdigits
    obtain ⟨d, ds, hd⟩ := List.exists_cons_of_ne_nil hg
    rw [hd] at hgdigits
    obtain ⟨hdigit, hgdigits⟩ := List.forall_mem_cons.mp hgdigits
    cases ds with
    | cons d' ds =>
      obtain ⟨cs, hcs⟩ := Text.toList_joinWith "." g groups
      rw [releaseText, hcs, hd] at h
      rw [lastRead?_of_longer (by simp [hd])]
      -- A group of more than one digit ends the rounds, for a point has to follow the first one.
      exact notes_none h hdigit (accepts_digit (hgdigits d' List.mem_cons_self)) budget last
    | nil =>
      cases groups with
      | nil =>
        rw [releaseText, Text.joinWith, hd] at h
        -- So does the parenthesis.
        exact notes_none h hdigit accepts_parenthesis budget last
      | cons g' groups =>
        rw [toList_releaseText_cons, hd, List.singleton_append] at h hbudget
        simp only [List.length_cons] at hbudget
        obtain ⟨budget, rfl⟩ : ∃ b, budget = b + 1 := ⟨budget - 1, by omega⟩
        -- A digit and a point are one round, and the next one starts behind them.
        have hdrop := (drop_eq_cons_iff.mp (drop_eq_cons_iff.mp h).2).2
        have hnext : some s.pos ≠ some (afterIteration s).pos := by
          simp [pos_afterIteration]
        have hroom : (releaseText (g' :: groups)).toList.length < budget := by omega
        have hnotes := ih ((length_captures_afterIteration s).trans hs) hdrop hroom hnext
          (List.cons_ne_nil _ _) hrest
        have hword : g ++ "." = String.ofList [d, '.'] := by
          rw [← String.toList_inj]
          simp [hd]
        rw [lastRead?_cons_cons, if_pos (by simp [hd]), hword]
        exact notes_point hs h hdigit hlast hnotes

/-! ### What is captured -/

lemma bodies_aixNode : aixNode.bodies 1 = [releaseBody] := by
  have hname : (Node.ofSymbols (Symbol.word "aix")).bodies 1 = [] := by
    simp [Symbol.word, Symbol.letter, Node.ofSymbols, Node.ofSequence, Symbol.node, Node.bodies]
  rw [aixNode, Node.bodies, Node.bodies, hname]
  rfl

/-- An iteration reads two characters, of which the second one is what it looks ahead to. -/
lemma prefix_of_way_releaseBody (h : releaseBody.Way text s t) :
    t.pos = s.pos + 2 ∧ ∃ d c, [d, c] <+: text.toList.drop s.pos ∧ stop.accepts c.toNat = true := by
  obtain ⟨u, ⟨v, ⟨d, hd, -, rfl⟩, rfl⟩, w, ⟨-, x, ⟨c, hc, hstop, rfl⟩, rfl⟩, ⟨-, -, -, rfl⟩⟩ := h
  exact ⟨rfl, d, c, cons_prefix_drop_iff.mpr
    ⟨hd, cons_prefix_drop_iff.mpr ⟨hc, List.nil_prefix⟩⟩, hstop⟩

/-- A captured version ends with what a digit has to be followed by. -/
lemma stop_of_word_aix (hp : p.node = aixNode) (h : p.search? text = some m) {word : String}
    (hword : m.word? 1 = some word) :
    ∃ c, word.toList.getLast? = some c ∧ stop.accepts c.toNat = true := by
  obtain ⟨body, hbody, s, t, hway, rfl⟩ := Pattern.exists_way_of_group h hword
  rw [hp, bodies_aixNode] at hbody
  obtain rfl := List.mem_singleton.mp hbody
  obtain ⟨ht, d, c, hstarts, hstop⟩ := prefix_of_way_releaseBody hway
  have hslice : Match.slice text ⟨s.pos, s.pos + 2⟩ = String.ofList [d, c] :=
    slice_of_prefix_drop hstarts
  refine ⟨c, ?_, hstop⟩
  rw [ht, hslice]
  simp

/-- So it is never a whole version. -/
lemma word_aix_ne_releaseText (hgroups : IsRelease groups) (hp : p.node = aixNode)
    (h : p.search? text = some m) : (m.word? 1).getD unset ≠ releaseText groups := by
  obtain ⟨d, hd, hdigit⟩ := hgroups.exists_getLast?
  intro heq
  rw [← heq] at hd
  cases hword : m.word? 1 with
  | none =>
    rw [hword] at hd
    simp [unset] at hd
  | some word =>
    obtain ⟨c, hc, hstop⟩ := stop_of_word_aix hp h hword
    rw [hword, Option.getD_some, hc] at hd
    obtain rfl := Option.some_inj.mp hd
    rw [stop_accepts_digit hdigit] at hstop
    cases hstop

/-! ### The match -/

/-- The state after the name and the white space. -/
def afterName (s : State) : State :=
  { s.setCapture 1 ⟨s.pos, s.pos + 3⟩ with pos := s.pos + 4 }

lemma accepts_space : Symbol.blank.accepts ' '.toNat = true := by
  rw [Symbol.blank, Symbol.accepts_ofKind]
  rfl

lemma word_aix : Symbol.word "aix" = [.letter 'a', .letter 'i', .letter 'x'] := by
  simp [Symbol.word]

lemma spell_aix : Symbol.Spell (Symbol.word "aix") ['A', 'I', 'X'] :=
  (Symbol.spell_word_iff (by simp) (by simp)).mpr
    (by simp [Text.SameLetters, Text.SameLetter, Unicode.asciiLower])

/-- After the name and a space the pattern is its repetition. -/
lemma run_aixNode {cs : List Char} (h : text.toList.drop s.pos = 'A' :: 'I' :: 'X' :: ' ' :: cs) :
    aixNode.run text some s =
      runReleases text (text.size + 1 - (s.pos + 4)) none (afterName s) := by
  obtain ⟨-, h₁⟩ := drop_eq_cons_iff.mp h
  obtain ⟨-, h₂⟩ := drop_eq_cons_iff.mp h₁
  obtain ⟨-, h₃⟩ := drop_eq_cons_iff.mp h₂
  have hblank : text[s.pos + 3]? = some ' ' := (drop_eq_cons_iff.mp h₃).1
  have hlength : (Symbol.word "aix").length = 3 := by simp [Symbol.word]
  have hstarts : ['A', 'I', 'X'] <+: text.toList.drop s.pos := ⟨' ' :: cs, h.symm⟩
  simp only [aixNode, Node.run, Node.run_ofSymbols spell_aix hstarts, Symbol.run_node, State.step,
    State.setCapture, hlength, hblank, accepts_space, if_true]
  rfl

/-- What stands before the name does not spell a part of it. -/
lemma infix_of_spell_across {before cs rest : List Char} (hbefore : before ≠ [])
    (hcs : Symbol.Spell (Symbol.word "aix") cs) (hstarts : cs <+: before ++ 'A' :: rest) :
    cs <:+: before := by
  rw [word_aix] at hcs
  obtain ⟨c₁, cs₁, -, hcs₁, rfl⟩ := List.forall₂_cons_left_iff.mp hcs
  obtain ⟨c₂, cs₂, hi, hcs₂, rfl⟩ := List.forall₂_cons_left_iff.mp hcs₁
  obtain ⟨c₃, cs₃, hx, hcs₃, rfl⟩ := List.forall₂_cons_left_iff.mp hcs₂
  obtain rfl := List.forall₂_nil_left_iff.mp hcs₃
  -- Within the name, the capital A would have to be another letter.
  have hA : ∀ d : Char, d.toNat < 0x80 → Unicode.asciiLower d.toNat ≠ 'a'.toNat →
      (Symbol.letter d).accepts 'A'.toNat ≠ true := by
    intro d hd hne haccepts
    rcases (Symbol.accepts_letter_iff (by decide) hd).mp haccepts with rfl | ⟨-, -, h⟩
    · exact hne rfl
    · exact hne h.symm
  rcases before with _ | ⟨b₁, _ | ⟨b₂, _ | ⟨b₃, bs⟩⟩⟩
  · exact absurd rfl hbefore
  · obtain ⟨-, rfl, -⟩ : c₁ = b₁ ∧ c₂ = 'A' ∧ _ := by simpa [List.cons_prefix_cons] using hstarts
    exact absurd hi (hA _ (by decide) (by decide))
  · obtain ⟨-, -, rfl⟩ : c₁ = b₁ ∧ c₂ = b₂ ∧ c₃ = 'A' := by
      simpa [List.cons_prefix_cons] using hstarts
    exact absurd hx (hA _ (by decide) (by decide))
  · obtain ⟨rfl, rfl, rfl⟩ : c₁ = b₁ ∧ c₂ = b₂ ∧ c₃ = b₃ := by
      simpa [List.cons_prefix_cons] using hstarts
    exact ⟨[], bs, rfl⟩

lemma exhaustive_aixNode : aixNode.exhaustive = true := by
  have hname : (Node.group 1 (.ofSymbols (Symbol.word "aix"))).exhaustive = true :=
    Node.exhaustive_ofSymbols _
  rw [aixNode, Node.exhaustive, hname]
  rfl

section

variable (hp : p.node = aixNode) {before after : List Char}
  (htext : text.toList = before ++ 'A' :: 'I' :: 'X' :: ' ' :: after)

include hp htext

/-- The name and the space are enough for a match. -/
lemma isSome_search?_aix : (p.search? text).isSome := by
  refine (Pattern.isSome_search?_iff (hp ▸ exhaustive_aixNode)).mpr ⟨before.length, ?_, ?_⟩
  · rw [← Array.length_toList, htext]
    simp
  · have hstart : ['A', 'I', 'X'] ++ [' '] <+: text.toList.drop before.length := by
      rw [htext, List.drop_left]
      exact ⟨after, rfl⟩
    obtain ⟨hstarts, hblank⟩ := append_prefix_drop_iff.mp hstart
    have hspace := (cons_prefix_drop_iff.mp hblank).1
    have hname := (Node.way_ofSymbols_iff (s := p.startAt before.length)).mpr
      ⟨_, spell_aix, hstarts, rfl⟩
    rw [hp]
    -- No iteration is needed.
    exact ⟨_, _, ⟨_, hname, rfl⟩, _, Symbol.way_node_iff.mpr ⟨' ', hspace, accepts_space, rfl⟩,
      0, by simp, .zero _⟩

/-- Before the first name there is no match. -/
lemma matchAt?_aix_eq_none (hbefore : ¬ Symbol.OccurIn (Symbol.word "aix") before) {pos : Nat}
    (hpos : pos < before.length) : p.matchAt? text some pos = none := by
  by_contra hsome
  obtain ⟨m, hm⟩ := Option.ne_none_iff_exists'.mp hsome
  obtain ⟨t, hrun, -⟩ := Option.map_eq_some_iff.mp hm
  obtain ⟨t', hway, -⟩ := p.node.way_of_run text hrun
  rw [hp] at hway
  obtain ⟨u, ⟨v, hname, -⟩, -⟩ := hway
  obtain ⟨cs, hcs, hstarts, -⟩ := Node.way_ofSymbols_iff.mp hname
  have hdrop : text.toList.drop pos = before.drop pos ++ 'A' :: 'I' :: 'X' :: ' ' :: after := by
    rw [htext, List.drop_append_of_le_length (Nat.le_of_lt hpos)]
  have hpart : cs <:+: before.drop pos := by
    refine infix_of_spell_across ?_ hcs (hdrop ▸ hstarts)
    exact List.ne_nil_of_length_pos (by rw [List.length_drop]; omega)
  exact hbefore ⟨cs, hcs, hpart.trans (List.drop_suffix pos before).isInfix⟩

/-- The pattern for AIX finds the first name, and of the version after it what is read last. -/
lemma search?_aix (hcount : p.groupCount = 3)
    (hbefore : ¬ Symbol.OccurIn (Symbol.word "aix") before) (hgroups : IsRelease groups)
    (hafter : after = (releaseText groups).toList ++ [')']) :
    ∃ m, p.search? text = some m ∧ m.word? 0 = some "AIX" ∧ m.word? 1 = lastRead? groups := by
  have hstart : text.toList.drop before.length = 'A' :: 'I' :: 'X' :: ' ' :: after := by
    rw [htext, List.drop_left]
  have hrest : text.toList.drop (before.length + 4) = (releaseText groups).toList ++ [')'] := by
    rw [← List.drop_drop, hstart, ← hafter]
    rfl
  have hsize : text.size = before.length + 4 + (releaseText groups).toList.length + 1 := by
    rw [← Array.length_toList, htext, hafter]
    simp
    omega
  have hcaptures : (afterName (p.startAt before.length)).captures =
      [some ⟨before.length, before.length + 3⟩, none, none] := by
    simp [afterName, State.setCapture, Pattern.startAt, hcount]
  -- Behind the name, the rounds of the repetition note what is read last.
  have hnotes : Notes text (text.size + 1 - (before.length + 4)) none
      (afterName (p.startAt before.length)) (lastRead? groups) :=
    notes_lastRead? hgroups (by rw [hcaptures]; rfl) hrest (by omega) (Option.some_ne_none _).symm
  obtain ⟨t, ht, hzero, hone⟩ := hnotes
  have hmatch : p.matchAt? text some before.length =
      some ⟨text, ⟨before.length, t.pos⟩, t.captures⟩ := by
    have hrun : aixNode.run text some (p.startAt before.length) = some t :=
      (run_aixNode hstart).trans ht
    rw [Pattern.matchAt?, hp]
    exact congrArg (Option.map _) hrun
  refine ⟨_, Pattern.scan?_eq_of_first (Nat.zero_le _) (by omega)
    (fun pos _ hpos => matchAt?_aix_eq_none hp htext hbefore hpos) hmatch, ?_, ?_⟩
  · have hstarts : "AIX".toList <+: text.toList.drop before.length := by
      rw [hstart]
      exact ⟨' ' :: after, rfl⟩
    have hname : Match.slice text ⟨before.length, before.length + 3⟩ = "AIX" :=
      (slice_of_prefix_drop hstarts).trans String.ofList_toList
    rw [Match.word?_eq]
    refine hzero.trans ?_
    rw [wordAt, hcaptures]
    exact congrArg some hname
  · rw [Match.word?_eq]
    refine hone.trans ?_
    rw [wordAt, hcaptures]
    exact Option.or_none

end

/-! ### Name and version -/

lemma toList_aixAgent (before release : String) : (aixAgent before release).toList =
    before.toList ++ 'A' :: 'I' :: 'X' :: ' ' :: (release.toList ++ [')']) := by
  simp [aixAgent]

/-- Where the search comes to the pattern for AIX, it has a match, and name and version are what that
captures. -/
lemma exists_match_aix {r : RuleSet} (hr : ∀ rule ∈ r.group .os, rule.patterns.all fun p =>
    p.body != aixPattern || BuiltIn.takesAix rule p) {before release : String}
    (h : (r.group .os).ComesTo (aixAgent before release).toList.toArray aixPattern) :
    ∃ (p : Pattern) (m : Match), p.node = aixNode ∧ p.groupCount = 3 ∧
      p.search? (aixAgent before release).toList.toArray = some m ∧
      (r.rawRecord (aixAgent before release) .os).value.value "name" = (m.word? 0).getD unset ∧
      (r.rawRecord (aixAgent before release) .os).value.value "version" =
        (m.word? 1).getD unset := by
  obtain ⟨i, j, rule, p, hi, hj, hbody, hbefore⟩ := h
  have htakes : BuiltIn.takesAix rule p = true := by
    have hcheck := List.all_eq_true.mp (hr rule (List.mem_of_getElem? hi)) p
      (List.mem_of_getElem? hj)
    exact (Bool.or_eq_true_iff.mp hcheck).resolve_left (by simp [hbody])
  simp only [BuiltIn.takesAix, Bool.and_eq_true, decide_eq_true_eq] at htakes
  obtain ⟨⟨⟨hnode, hcount⟩, hname⟩, hversion⟩ := htakes
  obtain ⟨m, hm⟩ := Option.isSome_iff_exists.mp
    (isSome_search?_aix hnode (toList_aixAgent before release))
  -- The rules and patterns before do not match, so this is the first match.
  have hfirst : (r.group .os).FirstMatch (aixAgent before release).toList.toArray i j rule m :=
    ⟨hi, ⟨p, hj, hm⟩, hbefore⟩
  refine ⟨p, m, hnode, hcount, hm, ?_, ?_⟩
  · rw [value_rawRecord_of_firstMatch hfirst (by decide), Rule.setting_eq, hname, Option.map_some,
      Option.getD_some, FieldSpec.resolve_copy]
  · rw [value_rawRecord_of_firstMatch hfirst (by decide), Rule.setting_eq, hversion, Option.map_some,
      Option.getD_some, FieldSpec.resolve_copy]

/-- Where the search of the built-in rules comes to the pattern for AIX, a version at the end of the user
agent is never shown as a whole. If it stands after the first name, then what is shown is what is read
last of it, or nothing. -/
theorem aix_builtIn {before : String} {groups : List String} (hgroups : IsRelease groups)
    (h : (builtIn.group .os).ComesTo (aixAgent before (releaseText groups)).toList.toArray
      aixPattern) :
    Assoc.get? "version" (builtIn.record (aixAgent before (releaseText groups)) .os).value ≠
        some (releaseText groups) ∧
      (¬ Symbol.OccurIn (Symbol.word "aix") before.toList →
        Assoc.get? "name" (builtIn.record (aixAgent before (releaseText groups)) .os).value =
            some "AIX" ∧
          Assoc.get? "version" (builtIn.record (aixAgent before (releaseText groups)) .os).value =
            some ((lastRead? groups).getD unset)) := by
  obtain ⟨p, m, hp, hcount, hm, hname, hversion⟩ := exists_match_aix BuiltIn.systems_seen.aix h
  rw [get?_record_os builtIn _ (by decide), get?_record_os builtIn _ (by decide), hname, hversion]
  refine ⟨?_, fun hbefore => ?_⟩
  · rw [ne_eq, Option.some_inj]
    exact word_aix_ne_releaseText hgroups hp hm
  · obtain ⟨m', hm', hword, hrelease⟩ :=
      search?_aix hp (toList_aixAgent _ _) hcount hbefore hgroups rfl
    obtain rfl : m' = m := Option.some_inj.mp (hm'.symm.trans hm)
    rw [hword, hrelease, Option.getD_some]
    exact ⟨rfl, rfl⟩

theorem aix_builtIn_inParentheses :
    IsRelease ["7", "1", "2"] ∧
      (builtIn.group .os).ComesTo
        (aixAgent "Server (" (releaseText ["7", "1", "2"])).toList.toArray aixPattern ∧
      ¬ Symbol.OccurIn (Symbol.word "aix") "Server (".toList ∧
      Assoc.get? "name" (builtIn.record (aixAgent "Server (" (releaseText ["7", "1", "2"])) .os).value =
        some "AIX" ∧
      Assoc.get? "version"
        (builtIn.record (aixAgent "Server (" (releaseText ["7", "1", "2"])) .os).value = some "1." := by
  have hgroups : IsRelease ["7", "1", "2"] := by
    simp [IsRelease, Template.IsNumeral, Template.isDigit, Unicode.isDigit, Unicode.isAsciiDigit]
  have hcomes := BuiltIn.systems_seen.comesTo_aix_inParentheses
  have hbefore : ¬ Symbol.OccurIn (Symbol.word "aix") "Server (".toList := by
    rw [word_aix]
    refine Symbol.not_occurIn_cons ?_
    simp only [String.reduceToList, List.forall_mem_cons]
    exact ⟨rfl, rfl, rfl, rfl, rfl, rfl, rfl, rfl, List.forall_mem_nil _⟩
  obtain ⟨-, hshown⟩ := aix_builtIn hgroups hcomes
  obtain ⟨hname, hversion⟩ := hshown hbefore
  exact ⟨hgroups, hcomes, hbefore, hname, hversion⟩

/-- Of the version 7.1 the second group is missing. -/
theorem aix_builtIn_shortened :
    IsRelease ["7", "1"] ∧
      (builtIn.group .os).ComesTo (aixAgent "" (releaseText ["7", "1"])).toList.toArray aixPattern ∧
      ¬ Symbol.OccurIn (Symbol.word "aix") "".toList ∧
      Assoc.get? "version" (builtIn.record (aixAgent "" (releaseText ["7", "1"])) .os).value =
        some "7." ∧ releaseText ["7", "1"] = "7.1" := by
  have hgroups : IsRelease ["7", "1"] := by
    simp [IsRelease, Template.IsNumeral, Template.isDigit, Unicode.isDigit, Unicode.isAsciiDigit]
  have hbefore : ¬ Symbol.OccurIn (Symbol.word "aix") "".toList := by
    rw [word_aix]
    exact Symbol.not_occurIn_cons (List.forall_mem_nil _)
  refine ⟨hgroups, BuiltIn.systems_seen.comesTo_aix, hbefore, ?_, rfl⟩
  rw [get?_record_os builtIn _ (by decide)]
  exact congrArg some BuiltIn.systems_seen.version_aix

end RuleSet

end UserAgent
