import UserAgent.Proofs.Captures

/-!
# Searches that try every way

A search finds nothing but ways of its node. If no part of a node looks at captures or holds on to the
first way of its body, and each iteration reads a character, then the converse is true as well: where a
way leads to a place at which the rest succeeds, the search succeeds (`Node.isSome_run_of_way`). A
pattern with such a node has a match exactly if there is a way from some place of the text
(`Pattern.isSome_search?_iff`).
-/

namespace UserAgent

namespace Regex

/-! ### Places along a way -/

namespace Steps

variable {R : State → State → Prop}

/-- Steps can be cut into the first ones and the others. -/
lemma split {m n : Nat} {s u : State} (h : Steps R (m + n) s u) :
    ∃ t, Steps R m s t ∧ Steps R n t u := by
  induction m generalizing s with
  | zero =>
    rw [Nat.zero_add] at h
    exact ⟨s, .zero s, h⟩
  | succ m ih =>
    rw [Nat.add_right_comm] at h
    cases h with
    | succ first rest =>
      obtain ⟨t, hm, hn⟩ := ih rest
      exact ⟨t, .succ first hm, hn⟩

/-- Steps that each go on by a character at least. -/
lemma add_le_pos (hR : ∀ s t, R s t → s.pos < t.pos) {count : Nat} {s t : State}
    (h : Steps R count s t) : s.pos + count ≤ t.pos := by
  induction h with
  | zero s => exact Nat.le_refl _
  | succ first rest ih =>
    have := hR _ _ first
    omega

/-- Steps that each stay within a text. -/
lemma pos_le {size : Nat} (hR : ∀ s t, R s t → t.pos ≤ max s.pos size) {count : Nat} {s t : State}
    (h : Steps R count s t) : t.pos ≤ max s.pos size := by
  induction h with
  | zero s => exact Nat.le_max_left _ _
  | succ first rest ih =>
    have := hR _ _ first
    omega

end Steps

/-- A text that is found again lies inside the text that is searched. -/
lemma add_le_of_sameText {f : Folding} {text : Array Char} {length start pos : Nat}
    (h : sameText f text length start pos = true) : pos + length ≤ max pos text.size := by
  induction length generalizing start pos with
  | zero => exact Nat.le_max_left _ _
  | succ length ih =>
    rw [sameText] at h
    split at h
    · rename_i c d _ hd
      have hrest := ih (Bool.and_eq_true_iff.mp h).2
      have hlt := (Array.getElem?_eq_some_iff.mp hd).1
      omega
    · cases h

namespace Symbol.Reads

variable {text : Array Char} {y : Symbol} {s t : State}

lemma pos_lt (h : y.Reads text s t) : s.pos < t.pos := by
  obtain ⟨c, -, -, rfl⟩ := h
  exact Nat.lt_succ_self _

lemma pos_le (h : y.Reads text s t) : t.pos ≤ max s.pos text.size := by
  obtain ⟨c, hc, -, rfl⟩ := h
  exact Nat.le_trans (Array.getElem?_eq_some_iff.mp hc).1 (Nat.le_max_right _ _)

end Symbol.Reads

namespace Node

variable {text : Array Char} {node : Node} {s t : State}

/-- A way does not lead beyond the end of the text. -/
lemma pos_le_of_way (h : node.Way text s t) : t.pos ≤ max s.pos text.size := by
  induction node generalizing s t with
  | empty =>
    obtain rfl := h
    exact Nat.le_max_left _ _
  | char code negated folding => exact Symbol.Reads.pos_le h
  | any lineBreaks => exact Symbol.Reads.pos_le h
  | set members folding => exact Symbol.Reads.pos_le h
  | anchor a =>
    obtain ⟨-, rfl⟩ := h
    exact Nat.le_max_left _ _
  | cat first second ihFirst ihSecond =>
    obtain ⟨u, hfirst, hsecond⟩ := h
    have := ihFirst hfirst
    have := ihSecond hsecond
    omega
  | alt first second ihFirst ihSecond => exact h.elim ihFirst ihSecond
  | group index body ih =>
    obtain ⟨u, hu, rfl⟩ := h
    have hbody := ih hu
    exact hbody
  | backref index folding =>
    obtain ⟨span, -, hsame, rfl⟩ := h
    exact add_le_of_sameText hsame
  | given index present absent ihPresent ihAbsent =>
    rw [Way] at h
    split_ifs at h
    · exact ihPresent h
    · exact ihAbsent h
  | look behind positive body ih =>
    cases positive with
    | true =>
      obtain ⟨-, u, -, rfl⟩ := h
      exact Nat.le_max_left _ _
    | false =>
      obtain ⟨rfl, -⟩ := h
      exact Nat.le_max_left _ _
  | repeated min max greed body ih =>
    obtain ⟨extra, -, hsteps⟩ := h
    exact hsteps.pos_le fun s t => ih
  | atomic body ih => exact ih h

/-- Whether every way of a node reads a character. -/
def advances : Node → Bool
  | .char .. | .any _ | .set .. => true
  | .cat first second => first.advances || second.advances
  | .alt first second => first.advances && second.advances
  | .given _ present absent => present.advances && absent.advances
  | .group _ body | .atomic body => body.advances
  | .repeated min _ _ body => min != 0 && body.advances
  | .empty | .anchor _ | .backref .. | .look .. => false

/-- A way through a node that always reads something leads further. -/
lemma pos_lt_of_way (hnode : node.advances = true) (h : node.Way text s t) : s.pos < t.pos := by
  induction node generalizing s t with
  | empty | anchor _ | backref _ _ | look _ _ _ _ => cases hnode
  | char code negated folding => exact Symbol.Reads.pos_lt h
  | any lineBreaks => exact Symbol.Reads.pos_lt h
  | set members folding => exact Symbol.Reads.pos_lt h
  | cat first second ihFirst ihSecond =>
    obtain ⟨u, hfirst, hsecond⟩ := h
    rcases Bool.or_eq_true_iff.mp hnode with hnode | hnode
    · exact Nat.lt_of_lt_of_le (ihFirst hnode hfirst) (leads_of_way hsecond).pos_le
    · exact Nat.lt_of_le_of_lt (leads_of_way hfirst).pos_le (ihSecond hnode hsecond)
  | alt first second ihFirst ihSecond =>
    obtain ⟨hfirst, hsecond⟩ := Bool.and_eq_true_iff.mp hnode
    exact h.elim (ihFirst hfirst) (ihSecond hsecond)
  | group index body ih =>
    obtain ⟨u, hu, rfl⟩ := h
    have hbody := ih hnode hu
    exact hbody
  | given index present absent ihPresent ihAbsent =>
    obtain ⟨hpresent, habsent⟩ := Bool.and_eq_true_iff.mp hnode
    rw [Way] at h
    split_ifs at h
    · exact ihPresent hpresent h
    · exact ihAbsent habsent h
  | repeated min max greed body ih =>
    obtain ⟨hmin, hbody⟩ := Bool.and_eq_true_iff.mp hnode
    obtain ⟨extra, -, hsteps⟩ := h
    have hle := hsteps.add_le_pos fun s t => ih hbody
    have hpos := bne_iff_ne.mp hmin
    omega
  | atomic body ih => exact ih hnode h

end Node

/-! ### What is found -/

/-- A body succeeds wherever a step of a relation leads to a place at which the rest does, whatever the
captures are. -/
def Finds (body : Rest → Rest) (R : State → State → Prop) : Prop :=
  ∀ ⦃rest : Rest⦄ ⦃s t s' : State⦄, R s t → s'.pos = s.pos →
    (∀ t' : State, t'.pos = t.pos → (rest t').isSome) → (body rest s').isSome

/-- The step of a symbol finds what the symbol reads. -/
lemma finds_step (text : Array Char) (y : Symbol) :
    Finds (fun rest s => s.step text y.accepts rest) (y.Reads text) := by
  rintro rest s t s' ⟨c, hc, hy, rfl⟩ hs hrest
  dsimp only [State.step]
  rw [hs, hc]
  dsimp only
  rw [if_pos hy]
  exact hrest _ rfl

section Repetition

variable {body : Rest → Rest} {R : State → State → Prop} (hbody : Finds body R)

include hbody

/-- A fixed number of rounds finds every sequence of that many steps. -/
lemma finds_exactly (count : Nat) : Finds (exactly body count) (Steps R count) := by
  induction count with
  | zero =>
    intro rest s t s' hsteps hs hrest
    cases hsteps
    exact hrest s' hs
  | succ count ih =>
    intro rest s t s' hsteps hs hrest
    cases hsteps with
    | succ first steps => exact hbody first hs fun u hu => ih steps hu hrest

variable (hR : ∀ s t, R s t → s.pos < t.pos)

include hR

/-- Greedy rounds succeed if some number of rounds within the budget leads to a place from which the
rest succeeds. -/
lemma isSome_greedily {rest : Rest} {count budget : Nat} {last : Option Nat} {s t s' : State}
    (hsteps : Steps R count s t) (hbudget : count ≤ budget) (hlast : last ≠ some s.pos)
    (hs : s'.pos = s.pos) (hrest : ∀ t' : State, t'.pos = t.pos → (rest t').isSome) :
    (greedily body rest budget last s').isSome := by
  induction hsteps generalizing budget last s' with
  | zero s =>
    have hstop := hrest s' hs
    -- Whether one more round is tried or not, to stop here succeeds.
    cases budget with
    | zero => exact hstop
    | succ budget =>
      dsimp only [greedily]
      split
      · exact hstop
      · split
        · rfl
        · exact hstop
  | @succ count s t u first steps ih =>
    cases budget with
    | zero => omega
    | succ budget =>
      -- Each step leads further, so no round is taken for an empty one.
      have hne : some s.pos ≠ some t.pos := fun h => Nat.ne_of_lt (hR _ _ first) (Option.some_inj.mp h)
      have hiteration : (body (greedily body rest budget (some s.pos)) s').isSome :=
        hbody first hs fun t' ht' => ih (by omega) hne ht' hrest
      obtain ⟨done, hdone⟩ := Option.isSome_iff_exists.mp hiteration
      rw [greedily, hs, if_neg (by simpa using hlast), hdone]
      rfl

/-- So do lazy rounds. -/
lemma isSome_lazily {rest : Rest} {count budget : Nat} {last : Option Nat} {s t s' : State}
    (hsteps : Steps R count s t) (hbudget : count ≤ budget) (hlast : last ≠ some s.pos)
    (hs : s'.pos = s.pos) (hrest : ∀ t' : State, t'.pos = t.pos → (rest t').isSome) :
    (lazily body rest budget last s').isSome := by
  induction hsteps generalizing budget last s' with
  | zero s =>
    have hstop := hrest s' hs
    cases budget with
    | zero => exact hstop
    | succ budget =>
      obtain ⟨done, hdone⟩ := Option.isSome_iff_exists.mp hstop
      rw [lazily, hdone]
      rfl
  | @succ count s t u first steps ih =>
    cases budget with
    | zero => omega
    | succ budget =>
      have hne : some s.pos ≠ some t.pos := fun h => Nat.ne_of_lt (hR _ _ first) (Option.some_inj.mp h)
      have hiteration : (body (lazily body rest budget (some s.pos)) s').isSome :=
        hbody first hs fun t' ht' => ih (by omega) hne ht' hrest
      rw [lazily]
      split
      · rfl
      · rw [hs, if_neg (by simpa using hlast)]
        exact hiteration

/-- A repetition that can take its rounds back finds every number of rounds that its bounds allow.
-/
lemma finds_repeatBody {text : Array Char} (hend : ∀ s t, R s t → t.pos ≤ max s.pos text.size)
    (min : Nat) (max : Option Nat) {greed : Greed} (hgreed : greed ≠ .possessive) :
    Finds (repeatBody text min max greed body) fun s t =>
      ∃ extra, (∀ most, max = some most → extra ≤ most - min) ∧ Steps R (min + extra) s t := by
  rintro rest s t s' ⟨extra, hmost, hsteps⟩ hs hrest
  obtain ⟨u, hmin, hextra⟩ := hsteps.split
  -- Each further iteration reads a character, so the text has room for all of them.
  have hbudget : extra ≤ budget text min max u.pos := by
    have hle := hextra.add_le_pos hR
    have hroom := hextra.pos_le hend
    cases max with
    | none =>
      dsimp only [budget]
      omega
    | some most => exact Nat.le_min.mpr ⟨hmost most rfl, by omega⟩
  cases greed with
  | greedy =>
    refine finds_exactly hbody min hmin hs fun u' hu' => ?_
    rw [hu']
    exact isSome_greedily hbody hR hextra hbudget (by simp) hu' hrest
  | lazy =>
    refine finds_exactly hbody min hmin hs fun u' hu' => ?_
    rw [hu']
    exact isSome_lazily hbody hR hextra hbudget (by simp) hu' hrest
  | possessive => exact absurd rfl hgreed

end Repetition

namespace Node

variable {text : Array Char} {node : Node} {s : State}

/-- Whether a search tries every way of a node, and none of them depends on captures. -/
def exhaustive : Node → Bool
  | .empty | .char .. | .any _ | .set .. | .anchor _ => true
  | .cat first second | .alt first second => first.exhaustive && second.exhaustive
  | .group _ body | .look _ _ body => body.exhaustive
  | .repeated _ _ greed body => greed != .possessive && body.advances && body.exhaustive
  | .backref .. | .given .. | .atomic _ => false

/-- A search succeeds wherever a way leads to a place at which the rest does. -/
theorem isSome_run_of_way (hnode : node.exhaustive = true) :
    Finds (fun rest s => node.run text rest s) (node.Way text) := by
  induction node with
  | empty =>
    rintro rest s t s' rfl hs hrest
    exact hrest s' hs
  | char code negated folding => exact finds_step text (.char code negated folding)
  | any lineBreaks => exact finds_step text (.any lineBreaks)
  | set members folding => exact finds_step text (.set members folding)
  | anchor a =>
    rintro rest s t s' ⟨ha, rfl⟩ hs hrest
    dsimp only [run]
    rw [hs, if_pos ha]
    exact hrest s' hs
  | cat first second ihFirst ihSecond =>
    obtain ⟨hfirst, hsecond⟩ := Bool.and_eq_true_iff.mp hnode
    rintro rest s t s' ⟨u, hu, ht⟩ hs hrest
    exact ihFirst hfirst hu hs fun u' hu' => ihSecond hsecond ht hu' hrest
  | alt first second ihFirst ihSecond =>
    obtain ⟨hfirst, hsecond⟩ := Bool.and_eq_true_iff.mp hnode
    rintro rest s t s' h hs hrest
    dsimp only [run]
    split
    · rfl
    · rename_i hnone
      refine ihSecond hsecond (h.resolve_left fun hway => ?_) hs hrest
      have hsome := ihFirst hfirst hway hs hrest
      simp [hnone] at hsome
  | group index body ih =>
    rintro rest s t s' ⟨u, hu, rfl⟩ hs hrest
    exact ih hnode hu hs fun u' hu' => hrest _ hu'
  | look behind positive body ih =>
    rintro rest s t s' h hs hrest
    dsimp only [run]
    rw [hs]
    cases positive with
    | true =>
      obtain ⟨hwidth, u, hu, rfl⟩ := h
      rw [if_pos hwidth]
      have hfound : (body.run text some { s' with pos := s.pos - behind.getD 0 }).isSome :=
        ih hnode hu rfl fun _ _ => rfl
      obtain ⟨u', hu'⟩ := Option.isSome_iff_exists.mp hfound
      rw [hu']
      exact hrest _ rfl
    | false =>
      obtain ⟨rfl, hnone⟩ := h
      -- What the body finds after one state is a way after each state at the same place.
      have hnone' : (if behind.getD 0 ≤ t.pos then
          body.run text some { s' with pos := t.pos - behind.getD 0 } else none) = none := by
        split_ifs with hwidth
        · by_contra hsome
          obtain ⟨u', hu'⟩ := Option.ne_none_iff_exists'.mp hsome
          obtain ⟨u, hway, -⟩ := body.way_of_run text hu'
          have hfound : (body.run text some { t with pos := t.pos - behind.getD 0 }).isSome :=
            ih hnode hway rfl fun _ _ => rfl
          simp [hnone hwidth] at hfound
        · rfl
      rw [hnone']
      exact hrest _ hs
  | repeated min max greed body ih =>
    simp only [exhaustive, Bool.and_eq_true, bne_iff_ne] at hnode
    obtain ⟨⟨hgreed, hadvances⟩, hbody⟩ := hnode
    exact finds_repeatBody (ih hbody) (fun s t => pos_lt_of_way hadvances)
      (fun s t => pos_le_of_way) min max hgreed
  | backref _ _ | given _ _ _ _ _ | atomic _ _ => cases hnode

/-- What is not found is not there. -/
lemma run_eq_none_iff (hnode : node.exhaustive = true) :
    node.run text some s = none ↔ ∀ t, ¬ node.Way text s t := by
  constructor
  · intro hnone t hway
    have hsome : (node.run text some s).isSome :=
      isSome_run_of_way hnode hway rfl fun _ _ => rfl
    simp [hnone] at hsome
  · intro h
    by_contra hsome
    obtain ⟨t, ht⟩ := Option.ne_none_iff_exists'.mp hsome
    obtain ⟨u, hway, -⟩ := node.way_of_run text ht
    exact h u hway

end Node

end Regex

/-! ### Matches of a text -/

namespace Pattern

open Regex

variable {p : Pattern} {text : Array Char} {m : Match}

/-- The state in which a match is begun at a position. -/
def startAt (p : Pattern) (pos : Nat) : State :=
  ⟨pos, List.replicate p.groupCount none⟩

/-- The scan fails exactly if there is no match at any place that it tries. -/
lemma scan?_eq_none_iff {tries pos : Nat} : p.scan? text tries pos = none ↔
    ∀ pos', pos ≤ pos' → pos' < pos + tries → p.matchAt? text some pos' = none := by
  induction tries generalizing pos with
  | zero => exact iff_of_true rfl fun pos' _ _ => by omega
  | succ tries ih =>
    rw [scan?]
    split
    · rename_i m hm
      refine iff_of_false (by simp) fun h => ?_
      rw [h pos (Nat.le_refl _) (by omega)] at hm
      cases hm
    · rename_i hnone
      rw [ih]
      refine ⟨fun h pos' hle hlt => ?_, fun h pos' hle hlt => h pos' (by omega) (by omega)⟩
      rcases Nat.eq_or_lt_of_le hle with rfl | hlt'
      · exact hnone
      · exact h pos' hlt' (by omega)

/-- The match at the first position at which there is one. -/
lemma scan?_eq_of_first {tries pos pos' : Nat} (hle : pos ≤ pos') (hlt : pos' < pos + tries)
    (hfirst : ∀ q, pos ≤ q → q < pos' → p.matchAt? text some q = none)
    (hm : p.matchAt? text some pos' = some m) : p.scan? text tries pos = some m := by
  induction tries generalizing pos with
  | zero => omega
  | succ tries ih =>
    rw [scan?]
    rcases Nat.eq_or_lt_of_le hle with rfl | hlt'
    · rw [hm]
    · rw [hfirst pos (Nat.le_refl _) hlt']
      exact ih hlt' (by omega) fun q hq => hfirst q (by omega)

/-- A pattern whose ways are all tried matches exactly if there is one from some position. -/
theorem isSome_search?_iff (hp : p.node.exhaustive = true) : (p.search? text).isSome ↔
    ∃ pos ≤ text.size, ∃ t, p.node.Way text (p.startAt pos) t := by
  rw [← not_iff_not, Option.not_isSome_iff_eq_none, search?, scan?_eq_none_iff]
  simp only [matchAt?, Option.map_eq_none_iff, Nat.zero_add, Nat.zero_le, true_imp_iff,
    Nat.lt_succ_iff, not_exists, not_and]
  exact forall₂_congr fun pos _ => Node.run_eq_none_iff hp

end Pattern

end UserAgent
