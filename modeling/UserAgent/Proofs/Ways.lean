import Mathlib.Tactic.Common
import UserAgent.Regex.Pattern

/-!
# The ways of a match

A search runs a node in one way after the other until the rest succeeds. `Node.Way` says which ways a
node has, apart from the order in which they are tried and from what is to follow. A search finds
nothing but ways of its node (`Node.way_of_run`), so what holds on every way holds of every match; in
particular what a group has captured was read on a way of the body of that group
(`Node.capture_of_way`).
-/

namespace UserAgent

namespace Regex

/-! ### Single characters -/

/-- A test of one character. -/
inductive Symbol where
  | char (code : Nat) (negated : Bool) (folding : Folding)
  | any (lineBreaks : Bool)
  | set (members : CharSet) (folding : Folding)
deriving DecidableEq, Repr

namespace Symbol

/-- Whether a code point passes a test. -/
def accepts : Symbol → Nat → Bool
  | .char code negated folding, c => matchesCode folding code c != negated
  | .any lineBreaks, c => lineBreaks || c != 0x0a
  | .set members folding, c => members.contains folding c

/-- From the state before a character that passes to the state after it. -/
def Reads (text : Array Char) (y : Symbol) (s t : State) : Prop :=
  ∃ c, text[s.pos]? = some c ∧ y.accepts c.toNat = true ∧ t = { s with pos := s.pos + 1 }

end Symbol

/-! ### Repeated steps -/

/-- A number of steps, one after the other. -/
inductive Steps (R : State → State → Prop) : Nat → State → State → Prop
  | zero (s : State) : Steps R 0 s s
  | succ {count : Nat} {s t u : State} (first : R s t) (rest : Steps R count t u) :
    Steps R (count + 1) s u

namespace Steps

variable {R Q : State → State → Prop}

/-- Steps can follow each other. -/
lemma append {m n : Nat} {s t u : State} (h : Steps R m s t) (h' : Steps R n t u) :
    Steps R (m + n) s u := by
  induction h with
  | zero s =>
    rw [Nat.zero_add]
    exact h'
  | @succ m s t u first rest ih =>
    rw [Nat.add_right_comm]
    exact .succ first (ih h')

/-- What holds of every step, and of steps one after the other, holds of all of them. -/
lemma lift (hrefl : ∀ s, Q s s) (hstep : ∀ s t u, R s t → Q t u → Q s u) {count : Nat}
    {s t : State} (h : Steps R count s t) : Q s t := by
  induction h with
  | zero s => exact hrefl s
  | succ first rest ih => exact hstep _ _ _ first ih

/-- What every step keeps, all of them keep. -/
lemma keeps {P : State → Prop} (hstep : ∀ s t, R s t → P s → P t) {count : Nat} {s t : State}
    (h : Steps R count s t) (hs : P s) : P t := by
  induction h with
  | zero s => exact hs
  | succ first rest ih => exact ih (hstep _ _ first hs)

end Steps

/-! ### Nodes -/

/-- The ways of a node: from a state before it to a state after it. -/
def Node.Way (text : Array Char) : Node → State → State → Prop
  | .empty, s, t => t = s
  | .char code negated folding, s, t => (Symbol.char code negated folding).Reads text s t
  | .any lineBreaks, s, t => (Symbol.any lineBreaks).Reads text s t
  | .set members folding, s, t => (Symbol.set members folding).Reads text s t
  | .anchor a, s, t => a.holds text s.pos = true ∧ t = s
  | .cat first second, s, t => ∃ u, first.Way text s u ∧ second.Way text u t
  | .alt first second, s, t => first.Way text s t ∨ second.Way text s t
  | .group index body, s, t => ∃ u, body.Way text s u ∧ t = u.setCapture index ⟨s.pos, u.pos⟩
  | .backref index folding, s, t => ∃ span, s.capture? index = some span ∧
      sameText folding text (span.stop - span.start) span.start s.pos = true ∧
      t = { s with pos := s.pos + (span.stop - span.start) }
  | .given index present absent, s, t =>
    if (s.capture? index).isSome then present.Way text s t else absent.Way text s t
  | .look behind true body, s, t => behind.getD 0 ≤ s.pos ∧
      ∃ u, body.Way text { s with pos := s.pos - behind.getD 0 } u ∧ t = { u with pos := s.pos }
  | .look behind false body, s, t => t = s ∧
      (behind.getD 0 ≤ s.pos → body.run text some { s with pos := s.pos - behind.getD 0 } = none)
  | .repeated min max _ body, s, t => ∃ extra, (∀ most, max = some most → extra ≤ most - min) ∧
      Steps (fun s t => body.Way text s t) (min + extra) s t
  | .atomic body, s, t => body.Way text s t

/-! ### What a search finds -/

/-- Every success of a body before the rest is one of the rest, after a step of a relation. -/
def Follows (body : Rest → Rest) (R : State → State → Prop) : Prop :=
  ∀ ⦃rest : Rest⦄ ⦃s done : State⦄, body rest s = some done → ∃ t, R s t ∧ rest t = some done

/-- The step of a symbol follows what the symbol reads. -/
lemma follows_step (text : Array Char) (y : Symbol) :
    Follows (fun rest s => s.step text y.accepts rest) (y.Reads text) := by
  intro rest s done h
  dsimp only [State.step] at h
  split at h
  · rename_i c hc
    split_ifs at h with hy
    exact ⟨_, ⟨c, hc, hy, rfl⟩, h⟩
  · cases h

section Repetition

variable {body : Rest → Rest} {R : State → State → Prop} (hbody : Follows body R)

include hbody

/-- The first way of a body, before the rest. -/
lemma Follows.once {s next : State} (h : body some s = some next) : R s next := by
  obtain ⟨t, ht, h⟩ := hbody h
  cases h
  exact ht

lemma follows_atomic : Follows (fun rest s =>
    match body some s with
    | some next => rest next
    | none => none) R := by
  intro rest s done h
  dsimp only at h
  split at h
  · rename_i next hnext
    exact ⟨next, hbody.once hnext, h⟩
  · cases h

/-- A fixed number of rounds follows that many steps. -/
lemma follows_exactly (count : Nat) : Follows (exactly body count) (Steps R count) := by
  induction count with
  | zero => exact fun _ s _ h => ⟨s, .zero s, h⟩
  | succ count ih =>
    intro rest s done h
    obtain ⟨t, ht, h⟩ := hbody h
    obtain ⟨u, hu, h⟩ := ih h
    exact ⟨u, .succ ht hu, h⟩

/-- Greedy rounds follow some number of steps within the budget. -/
lemma follows_greedily (budget : Nat) (last : Option Nat) :
    Follows (fun rest => greedily body rest budget last)
      fun s t => ∃ count ≤ budget, Steps R count s t := by
  intro rest s done h
  induction budget generalizing last s with
  | zero => exact ⟨s, ⟨0, Nat.le_refl 0, .zero s⟩, h⟩
  | succ budget ih =>
    have hstop : rest s = some done →
        ∃ t, (∃ count ≤ budget + 1, Steps R count s t) ∧ rest t = some done := by
      exact fun h => ⟨s, ⟨0, Nat.zero_le _, .zero s⟩, h⟩
    dsimp only [greedily] at h
    split at h
    · exact hstop h
    · split at h
      · rename_i hiteration
        cases h
        obtain ⟨t, ht, h⟩ := hbody hiteration
        obtain ⟨u, ⟨count, hcount, hu⟩, h⟩ := ih _ h
        exact ⟨u, ⟨count + 1, Nat.succ_le_succ hcount, .succ ht hu⟩, h⟩
      · exact hstop h

lemma follows_lazily (budget : Nat) (last : Option Nat) :
    Follows (fun rest => lazily body rest budget last)
      fun s t => ∃ count ≤ budget, Steps R count s t := by
  intro rest s done h
  induction budget generalizing last s with
  | zero => exact ⟨s, ⟨0, Nat.le_refl 0, .zero s⟩, h⟩
  | succ budget ih =>
    dsimp only [lazily] at h
    split at h
    · rename_i hrest
      cases h
      exact ⟨s, ⟨0, Nat.zero_le _, .zero s⟩, hrest⟩
    · split at h
      · cases h
      · obtain ⟨t, ht, h⟩ := hbody h
        obtain ⟨u, ⟨count, hcount, hu⟩, h⟩ := ih _ h
        exact ⟨u, ⟨count + 1, Nat.succ_le_succ hcount, .succ ht hu⟩, h⟩

/-- So do rounds that are not taken back. -/
lemma follows_possessively (budget : Nat) (last : Option Nat) :
    Follows (fun rest => possessively body rest budget last)
      fun s t => ∃ count ≤ budget, Steps R count s t := by
  intro rest s done h
  induction budget generalizing last s with
  | zero => exact ⟨s, ⟨0, Nat.le_refl 0, .zero s⟩, h⟩
  | succ budget ih =>
    have hstop : rest s = some done →
        ∃ t, (∃ count ≤ budget + 1, Steps R count s t) ∧ rest t = some done := by
      exact fun h => ⟨s, ⟨0, Nat.zero_le _, .zero s⟩, h⟩
    dsimp only [possessively] at h
    split at h
    · exact hstop h
    · split at h
      · rename_i next hnext
        obtain ⟨u, ⟨count, hcount, hu⟩, h⟩ := ih _ h
        exact ⟨u, ⟨count + 1, Nat.succ_le_succ hcount, .succ (hbody.once hnext) hu⟩, h⟩
      · exact hstop h

/-- A repetition follows a number of rounds within its bounds. -/
lemma follows_repeatBody (text : Array Char) (min : Nat) (max : Option Nat) (greed : Greed) :
    Follows (repeatBody text min max greed body) fun s t =>
      ∃ extra, (∀ most, max = some most → extra ≤ most - min) ∧ Steps R (min + extra) s t := by
  intro rest s done h
  -- The required iterations, and then at most as many as the budget allows.
  have hfollow : (∃ t, Steps R min s t ∧ ∃ u,
      (∃ count ≤ budget text min max t.pos, Steps R count t u) ∧ rest u = some done) →
      ∃ t, (∃ extra, (∀ most, max = some most → extra ≤ most - min) ∧
        Steps R (min + extra) s t) ∧ rest t = some done := by
    rintro ⟨t, ht, u, ⟨count, hcount, hu⟩, h⟩
    refine ⟨u, ⟨count, ?_, ht.append hu⟩, h⟩
    rintro most rfl
    exact Nat.le_trans hcount (Nat.min_le_left _ _)
  cases greed with
  | greedy =>
    obtain ⟨t, ht, h⟩ := follows_exactly hbody min h
    exact hfollow ⟨t, ht, follows_greedily hbody _ none h⟩
  | lazy =>
    obtain ⟨t, ht, h⟩ := follows_exactly hbody min h
    exact hfollow ⟨t, ht, follows_lazily hbody _ none h⟩
  | possessive =>
    obtain ⟨t, ht, h⟩ := follows_exactly (follows_atomic hbody) min h
    exact hfollow ⟨t, ht, follows_possessively hbody _ none h⟩

end Repetition

/-- A search finds nothing but ways of its node, after which the rest succeeds. -/
theorem Node.way_of_run (text : Array Char) (node : Node) :
    Follows (fun rest s => node.run text rest s) (node.Way text) := by
  induction node with
  | empty => exact fun _ s _ h => ⟨s, rfl, h⟩
  | char code negated folding => exact follows_step text (.char code negated folding)
  | any lineBreaks => exact follows_step text (.any lineBreaks)
  | set members folding => exact follows_step text (.set members folding)
  | anchor a =>
    intro rest s done h
    dsimp only [run] at h
    split_ifs at h with ha
    exact ⟨s, ⟨ha, rfl⟩, h⟩
  | cat first second ihFirst ihSecond =>
    intro rest s done h
    obtain ⟨t, ht, h⟩ := ihFirst h
    obtain ⟨u, hu, h⟩ := ihSecond h
    exact ⟨u, ⟨t, ht, hu⟩, h⟩
  | alt first second ihFirst ihSecond =>
    intro rest s done h
    dsimp only [run] at h
    split at h
    · rename_i hrun
      cases h
      obtain ⟨t, ht, h⟩ := ihFirst hrun
      exact ⟨t, .inl ht, h⟩
    · obtain ⟨t, ht, h⟩ := ihSecond h
      exact ⟨t, .inr ht, h⟩
  | group index body ih =>
    intro rest s done h
    obtain ⟨t, ht, h⟩ := ih h
    exact ⟨_, ⟨t, ht, rfl⟩, h⟩
  | backref index folding =>
    intro rest s done h
    dsimp only [run] at h
    split at h
    · rename_i span hspan
      split_ifs at h with hsame
      exact ⟨_, ⟨span, hspan, hsame, rfl⟩, h⟩
    · cases h
  | given index present absent ihPresent ihAbsent =>
    intro rest s done h
    dsimp only [run] at h
    split_ifs at h with hgiven
    · obtain ⟨t, ht, h⟩ := ihPresent h
      exact ⟨t, by rwa [Way, if_pos hgiven], h⟩
    · obtain ⟨t, ht, h⟩ := ihAbsent h
      exact ⟨t, by rwa [Way, if_neg hgiven], h⟩
  | look behind positive body ih =>
    intro rest s done h
    dsimp only [run] at h
    -- A look-around that is too wide to look behind finds nothing, and the rest goes on from where
    -- it was.
    split at h
    · rename_i t hfound
      split_ifs at hfound with hwidth
      exact ⟨_, ⟨hwidth, t, ih.once hfound, rfl⟩, h⟩
    · rename_i hfound
      refine ⟨s, ⟨rfl, fun hwidth => ?_⟩, h⟩
      rwa [if_pos hwidth] at hfound
    · cases h
  | repeated min max greed body ih => exact follows_repeatBody ih text min max greed
  | atomic body ih => exact follows_atomic ih

/-! ### States along a way -/

lemma State.getElem?_setCapture (s : State) (index : Nat) (span : Span) (slot : Nat) :
    (s.setCapture index span).captures[slot]? =
      if index - 1 = slot ∧ slot < s.captures.length then some (some span)
      else s.captures[slot]? := by
  rw [setCapture, List.getElem?_set]
  split_ifs <;> grind

/-- A state that a way leads on to: no further back in the text, with as many captures. -/
structure State.Leads (s t : State) : Prop where
  pos_le : s.pos ≤ t.pos
  length_captures : t.captures.length = s.captures.length

namespace State.Leads

variable {s t u : State}

lemma refl (s : State) : s.Leads s :=
  ⟨Nat.le_refl _, rfl⟩

lemma trans (h : s.Leads t) (h' : t.Leads u) : s.Leads u :=
  ⟨Nat.le_trans h.pos_le h'.pos_le, h'.length_captures.trans h.length_captures⟩

end State.Leads

lemma Symbol.Reads.leads {text : Array Char} {y : Symbol} {s t : State} (h : y.Reads text s t) :
    s.Leads t := by
  obtain ⟨c, -, -, rfl⟩ := h
  exact ⟨Nat.le_succ _, rfl⟩

namespace Node

variable {text : Array Char} {node : Node} {s t : State}

/-- A way leads forward, with captures in as many groups. -/
lemma leads_of_way (h : node.Way text s t) : s.Leads t := by
  induction node generalizing s t with
  | empty =>
    obtain rfl := h
    exact .refl _
  | char code negated folding => exact Symbol.Reads.leads h
  | any lineBreaks => exact Symbol.Reads.leads h
  | set members folding => exact Symbol.Reads.leads h
  | anchor a =>
    obtain ⟨-, rfl⟩ := h
    exact .refl _
  | cat first second ihFirst ihSecond =>
    obtain ⟨u, hfirst, hsecond⟩ := h
    exact (ihFirst hfirst).trans (ihSecond hsecond)
  | alt first second ihFirst ihSecond => exact h.elim ihFirst ihSecond
  | group index body ih =>
    obtain ⟨u, hu, rfl⟩ := h
    exact ⟨(ih hu).pos_le, List.length_set.trans (ih hu).length_captures⟩
  | backref index folding =>
    obtain ⟨span, -, -, rfl⟩ := h
    exact ⟨Nat.le_add_right _ _, rfl⟩
  | given index present absent ihPresent ihAbsent =>
    rw [Way] at h
    split_ifs at h
    · exact ihPresent h
    · exact ihAbsent h
  | look behind positive body ih =>
    cases positive with
    | true =>
      obtain ⟨-, u, hu, rfl⟩ := h
      -- What was looked at is captured, but the place is the one before.
      exact ⟨Nat.le_refl _, (ih hu).length_captures⟩
    | false =>
      obtain ⟨rfl, -⟩ := h
      exact .refl _
  | repeated min max greed body ih =>
    obtain ⟨extra, -, hsteps⟩ := h
    exact hsteps.lift State.Leads.refl fun _ _ _ hfirst hrest => (ih hfirst).trans hrest
  | atomic body ih => exact ih h

/-! ### Captures along a way -/

/-- The bodies of the groups whose captures go to a slot. Slots are counted from zero. -/
def bodies (slot : Nat) : Node → List Node
  | .group index body => (if index - 1 = slot then [body] else []) ++ body.bodies slot
  | .cat first second | .alt first second => first.bodies slot ++ second.bodies slot
  | .given _ present absent => present.bodies slot ++ absent.bodies slot
  | .look _ _ body | .repeated _ _ _ body | .atomic body => body.bodies slot
  | .empty | .char .. | .any _ | .set .. | .anchor _ | .backref .. => []

/-- A capture that a way of one of some bodies has made. -/
def CapturedBy (text : Array Char) (bodies : List Node) (capture : Option (Option Span)) : Prop :=
  ∃ body ∈ bodies, ∃ s t, body.Way text s t ∧ capture = some (some ⟨s.pos, t.pos⟩)

lemma CapturedBy.mono {bodies bodies' : List Node} {capture : Option (Option Span)}
    (h : CapturedBy text bodies capture) (hsub : bodies ⊆ bodies') :
    CapturedBy text bodies' capture := by
  obtain ⟨body, hbody, hway⟩ := h
  exact ⟨body, hsub hbody, hway⟩

/-- What a slot holds after a way of a node it held before, or a body of the slot has captured it. -/
theorem capture_of_way (slot : Nat) (h : node.Way text s t) :
    t.captures[slot]? = s.captures[slot]? ∨
      CapturedBy text (node.bodies slot) t.captures[slot]? := by
  induction node generalizing s t with
  | empty =>
    obtain rfl := h
    exact .inl rfl
  | char code negated folding =>
    obtain ⟨c, -, -, rfl⟩ := h
    exact .inl rfl
  | any lineBreaks =>
    obtain ⟨c, -, -, rfl⟩ := h
    exact .inl rfl
  | set members folding =>
    obtain ⟨c, -, -, rfl⟩ := h
    exact .inl rfl
  | anchor a =>
    obtain ⟨-, rfl⟩ := h
    exact .inl rfl
  | cat first second ihFirst ihSecond =>
    obtain ⟨u, hfirst, hsecond⟩ := h
    -- The last capture counts: the second part's, or the first part's if that one left it.
    rcases ihSecond hsecond with hkept | hsecond
    · rw [hkept]
      exact (ihFirst hfirst).imp_right fun h => h.mono (List.subset_append_left _ _)
    · exact .inr (hsecond.mono (List.subset_append_right _ _))
  | alt first second ihFirst ihSecond =>
    rcases h with h | h
    · exact (ihFirst h).imp_right fun h => h.mono (List.subset_append_left _ _)
    · exact (ihSecond h).imp_right fun h => h.mono (List.subset_append_right _ _)
  | group index body ih =>
    obtain ⟨u, hu, rfl⟩ := h
    rw [State.getElem?_setCapture]
    -- Either the slot is the group's own, or its body decides.
    split_ifs with hslot
    · exact .inr ⟨body, by simp [bodies, hslot.1], s, u, hu, rfl⟩
    · exact (ih hu).imp_right fun h => h.mono (List.subset_append_right _ _)
  | backref index folding =>
    obtain ⟨span, -, -, rfl⟩ := h
    exact .inl rfl
  | given index present absent ihPresent ihAbsent =>
    rw [Way] at h
    split_ifs at h
    · exact (ihPresent h).imp_right fun h => h.mono (List.subset_append_left _ _)
    · exact (ihAbsent h).imp_right fun h => h.mono (List.subset_append_right _ _)
  | look behind positive body ih =>
    cases positive with
    | true =>
      obtain ⟨-, u, hu, rfl⟩ := h
      have hcapture := ih hu
      exact hcapture
    | false =>
      obtain ⟨rfl, -⟩ := h
      exact .inl rfl
  | repeated min max greed body ih =>
    obtain ⟨extra, -, hsteps⟩ := h
    -- The rounds are taken from the last one on, since later captures replace earlier ones.
    refine hsteps.lift (Q := fun s t => t.captures[slot]? = s.captures[slot]? ∨
      CapturedBy text (body.bodies slot) t.captures[slot]?) (fun _ => .inl rfl) ?_
    intro s t u hfirst hrest
    rcases hrest with hkept | hrest
    · rw [hkept]
      exact ih hfirst
    · exact .inr hrest
  | atomic body ih => exact ih h

/-- Whether some group of the node captures something for a slot, whatever way is taken. -/
def alwaysCaptures (slot : Nat) : Node → Bool
  | .group index body => index - 1 == slot || body.alwaysCaptures slot
  | .cat first second => first.alwaysCaptures slot || second.alwaysCaptures slot
  | .alt first second => first.alwaysCaptures slot && second.alwaysCaptures slot
  | .given _ present absent => present.alwaysCaptures slot && absent.alwaysCaptures slot
  | .look _ positive body => positive && body.alwaysCaptures slot
  | .repeated min _ _ body => min != 0 && body.alwaysCaptures slot
  | .atomic body => body.alwaysCaptures slot
  | .empty | .char .. | .any _ | .set .. | .anchor _ | .backref .. => false

end Node

/-- Whether a slot holds a capture. -/
def State.Holds (s : State) (slot : Nat) : Prop :=
  ∃ span, s.captures[slot]? = some (some span)

/-- A capture may be replaced on a way, but it is never lost. -/
lemma State.Holds.of_way {text : Array Char} {node : Node} {s t : State} {slot : Nat}
    (hs : s.Holds slot) (h : node.Way text s t) : t.Holds slot := by
  rcases Node.capture_of_way slot h with hkept | ⟨body, -, s', t', -, hcapture⟩
  · rw [Holds, hkept]
    exact hs
  · exact ⟨_, hcapture⟩

/-- A way through a node that always captures a group leaves the group with a capture. -/
lemma Node.holds_of_way {text : Array Char} {node : Node} {s t : State} {slot : Nat}
    (hnode : node.alwaysCaptures slot = true) (hslot : slot < s.captures.length)
    (h : node.Way text s t) : t.Holds slot := by
  induction node generalizing s t with
  | empty | char _ _ _ | any _ | set _ _ | anchor _ | backref _ _ => cases hnode
  | cat first second ihFirst ihSecond =>
    obtain ⟨u, hfirst, hsecond⟩ := h
    -- One of the two parts always captures; what the first one captured is kept by the second one.
    rcases Bool.or_eq_true_iff.mp hnode with hnode | hnode
    · exact (ihFirst hnode hslot hfirst).of_way hsecond
    · refine ihSecond hnode ?_ hsecond
      rw [(leads_of_way hfirst).length_captures]
      exact hslot
  | alt first second ihFirst ihSecond =>
    obtain ⟨hfirst, hsecond⟩ := Bool.and_eq_true_iff.mp hnode
    rcases h with h | h
    · exact ihFirst hfirst hslot h
    · exact ihSecond hsecond hslot h
  | group index body ih =>
    obtain ⟨u, hu, rfl⟩ := h
    have hlength : slot < u.captures.length := by
      rw [(leads_of_way hu).length_captures]
      exact hslot
    rw [State.Holds, State.getElem?_setCapture]
    split_ifs with hindex
    · exact ⟨_, rfl⟩
    · have hne : index - 1 ≠ slot := fun heq => hindex ⟨heq, hlength⟩
      exact ih (by simpa [alwaysCaptures, hne] using hnode) hslot hu
  | given index present absent ihPresent ihAbsent =>
    obtain ⟨hpresent, habsent⟩ := Bool.and_eq_true_iff.mp hnode
    rw [Way] at h
    split_ifs at h
    · exact ihPresent hpresent hslot h
    · exact ihAbsent habsent hslot h
  | look behind positive body ih =>
    obtain ⟨rfl, hbody⟩ := Bool.and_eq_true_iff.mp hnode
    obtain ⟨-, u, hu, rfl⟩ := h
    have hholds : u.Holds slot := by
      refine ih hbody ?_ hu
      exact hslot
    exact hholds
  | repeated min max greed body ih =>
    obtain ⟨hmin, hbody⟩ := Bool.and_eq_true_iff.mp hnode
    obtain ⟨extra, -, hsteps⟩ := h
    obtain ⟨count, hcount⟩ : ∃ count, min + extra = count + 1 := by
      have := bne_iff_ne.mp hmin
      exact ⟨min + extra - 1, by omega⟩
    rw [hcount] at hsteps
    -- The first iteration captures, and the others keep that.
    cases hsteps with
    | succ hfirst hrest =>
      have hkept : ∀ v w : State, body.Way text v w → v.Holds slot → w.Holds slot :=
        fun v w hway hv => hv.of_way hway
      exact hrest.keeps hkept (ih hbody hslot hfirst)
  | atomic body ih => exact ih hnode hslot h

end Regex

end UserAgent
