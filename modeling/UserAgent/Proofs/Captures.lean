import UserAgent.Proofs.Ways

/-!
# The captures of a match

Whatever way a node is run, it succeeds only where the rest does, and it neither adds captures nor
removes any. So a match has one capture, which may be absent, for each group of its pattern.
-/

namespace UserAgent

namespace Regex

/-! ### Ways of going on -/

/-- What a part of a pattern may do before the rest: every success is one of the rest, at a state with
as many captures. -/
def Resumes (body : Rest → Rest) : Prop :=
  ∀ {rest : Rest} {s done : State}, body rest s = some done →
    ∃ t : State, t.captures.length = s.captures.length ∧ rest t = some done

/-- A node resumes the rest, whatever it is. -/
theorem Node.resumes (text : Array Char) (node : Node) : Resumes (node.run text) := by
  intro rest s done h
  obtain ⟨t, hway, h⟩ := node.way_of_run text h
  exact ⟨t, (leads_of_way hway).length_captures, h⟩

end Regex

namespace Pattern

open Regex

variable {p : Pattern} {text : Array Char} {m : Match}

/-! ### Matches -/

/-- A match of a pattern has a capture for each of its groups. -/
def Captures (p : Pattern) (m : Match) : Prop :=
  m.captures.length = p.groupCount

lemma captures_of_matchAt? {rest : Rest} {pos : Nat} (hrest : ∀ {s t}, rest s = some t → t = s)
    (h : p.matchAt? text rest pos = some m) : p.Captures m := by
  rw [matchAt?, Option.map_eq_some_iff] at h
  obtain ⟨s, hrun, rfl⟩ := h
  obtain ⟨t, ht, hs⟩ := p.node.resumes text hrun
  rw [hrest hs]
  exact ht.trans List.length_replicate

/-- What is found from a place on is a match at some place. -/
lemma exists_matchAt?_of_scan? {tries pos : Nat} (h : p.scan? text tries pos = some m) :
    ∃ pos', p.matchAt? text some pos' = some m := by
  induction tries generalizing pos with
  | zero => cases h
  | succ tries ih =>
    rw [scan?] at h
    split at h
    · rename_i hmatch
      cases h
      exact ⟨pos, hmatch⟩
    · exact ih h

lemma captures_of_scan? {tries pos : Nat} (h : p.scan? text tries pos = some m) : p.Captures m := by
  obtain ⟨pos', hmatch⟩ := exists_matchAt?_of_scan? h
  exact captures_of_matchAt? (fun hs => by cases hs; rfl) hmatch

/-- The matches that are found have a capture for each group. -/
lemma captures_of_searchFrom? {advance : Bool} {start : Nat}
    (h : p.searchFrom? text advance start = some m) : p.Captures m := by
  rw [searchFrom?] at h
  split_ifs at h
  · split at h
    · rename_i hmatch
      cases h
      refine captures_of_matchAt? (fun {s t} hs => ?_) hmatch
      split_ifs at hs
      cases hs
      rfl
    · exact captures_of_scan? h
  · exact captures_of_scan? h

end Pattern

end UserAgent
