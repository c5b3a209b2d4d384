import Mathlib.Algebra.BigOperators.Group.List.Basic
import UserAgent.Proofs.GroupTable
import UserAgent.Regex.Template

/-!
# Outlines of patterns

A template is checked on the outline of a pattern, which has the same groups with the same names. So
nothing is lost by the check: the outline of a compiled pattern always compiles, and a template means
for it what it means for the pattern itself. A template that is accepted refers only to groups that
the pattern has.
-/

namespace UserAgent

namespace Unicode

/-- A character of ASCII that belongs to no word belongs to no identifier. -/
lemma not_mem_of_isIdentifier {name : List Char} {c : Char} (h : isIdentifier name = true)
    (hascii : c.toNat < 0x80) (hword : isAsciiWord c.toNat = false) : c ∉ name := by
  intro hc
  cases name with
  | nil => cases hc
  | cons d ds =>
    rw [isIdentifier, Bool.and_eq_true, List.all_eq_true] at h
    rcases List.mem_cons.mp hc with rfl | hc
    · have hstart := h.1
      rw [isIdentifierStart, if_pos hascii, hword] at hstart
      cases hstart
    · have hcontinue := h.2 c hc
      rw [isIdentifierContinue, if_pos hascii, hword] at hcontinue
      cases hcontinue

end Unicode

namespace Regex

/-! ### Tokens -/

/-- Characters before the first backslash are tokens of their own. -/
lemma Token.ofChars_append {cs : List Char} (h : '\\' ∉ cs) (rest : List Char) :
    Token.ofChars (cs ++ rest) = cs.map Token.char ++ Token.ofChars rest := by
  induction cs with
  | nil => rfl
  | cons c cs ih =>
    obtain ⟨hc, hcs⟩ := not_or.mp (mt List.mem_cons.mpr h)
    rw [List.cons_append, Token.ofChars, ih hcs, List.map_cons, List.cons_append]
    · exact fun hslash _ => hc hslash.symm
    · exact fun _ _ hslash _ => hc hslash.symm

lemma Token.ofChars_of_not_mem {cs : List Char} (h : '\\' ∉ cs) :
    Token.ofChars cs = cs.map Token.char := by
  simpa [Token.ofChars] using Token.ofChars_append h []

/-- A name is read up to the mark that ends it. -/
lemma Token.spanName_of_not_mem {terminator : Char} {name : List Char} (h : terminator ∉ name)
    (rest : List Token) :
    Token.spanName terminator (name.map Token.char ++ .char terminator :: rest) =
      some (name, rest) := by
  induction name with
  | nil => simp [Token.spanName]
  | cons c name ih =>
    obtain ⟨hc, hname⟩ := not_or.mp (mt List.mem_cons.mpr h)
    rw [List.map_cons, List.cons_append, Token.spanName, ih hname]
    simp [Ne.symm hc]

lemma length_le_flatMap {α β : Type} {f : α → List β} (hf : ∀ a, f a ≠ []) (as : List α) :
    as.length ≤ (as.flatMap f).length := by
  have hsum := List.length_le_sum_of_one_le (as.map fun a => (f a).length) fun n hn => by
    obtain ⟨a, -, rfl⟩ := List.mem_map.mp hn
    exact List.length_pos_iff.mpr (hf a)
  rwa [List.length_map, ← List.length_flatMap] at hsum

/-! ### Groups without a body -/

section EmptyGroups

variable {ctx : Context} {g g' : Groups}

lemma skip_of_not_verbose (hctx : ctx.flags.verbose = false) (ts : List Token) :
    ctx.skip ts = ts := by
  rw [Context.skip, hctx]
  rfl

/-- A group with nothing in it is read as one. -/
lemma parseCapture_empty [CharacterNames] (hctx : ctx.flags.verbose = false) {name : Option String}
    (hopened : g.opened name = .ok g') (fuel : Nat) (rest : List Token) :
    parseCapture (fuel + 4) ctx g name (.char ')' :: rest) =
      .ok ([.other (.group g'.count .empty)], g'.closed g'.count .empty, rest) := by
  have hseq : parseSequence (fuel + 1) ctx g' [] (.char ')' :: rest) =
      .ok ([], g', .char ')' :: rest) := by
    rw [parseSequence, skip_of_not_verbose hctx]
    rfl
  have hbody : parseBody (fuel + 3) ctx g' (.char ')' :: rest) = .ok ([], g', rest) := by
    rw [parseBody, parseAlternatives, hseq]
    rfl
  rw [parseCapture, hopened]
  dsimp only
  rw [hbody]
  rfl

/-- An empty group, with a name or without, is read as a group that captures. -/
lemma parseGroup_emptyGroup [CharacterNames] (hctx : ctx.flags.verbose = false)
    {name : Option String} (hname : ∀ s, name = some s → Unicode.isIdentifier s.toList = true)
    (hopened : g.opened name = .ok g') (fuel : Nat) (rest : List Token) :
    parseGroup (fuel + 5) ctx g ((Pattern.emptyGroup name).tail.map Token.char ++ rest) =
      .ok ([.other (.group g'.count .empty)], g'.closed g'.count .empty, rest) := by
  cases name with
  | none => exact parseCapture_empty hctx hopened fuel rest
  | some s =>
    have hs := hname s rfl
    have hread : readName '>' (s.toList.map Token.char ++ .char '>' :: .char ')' :: rest) =
        .ok (s, .char ')' :: rest) := by
      have hspan := Token.spanName_of_not_mem
        (Unicode.not_mem_of_isIdentifier (c := '>') hs (by decide) (by decide)) (.char ')' :: rest)
      simp only [readName, hspan, hs, if_true, String.ofList_toList]
    have hts : (Pattern.emptyGroup (some s)).tail.map Token.char ++ rest =
        .char '?' :: .char 'P' :: .char '<' ::
          (s.toList.map Token.char ++ .char '>' :: .char ')' :: rest) := by
      simp [Pattern.emptyGroup]
    rw [hts, parseGroup, hread]
    exact parseCapture_empty hctx hopened fuel rest

/-- A sequence goes on behind a group. -/
lemma parseSequence_group [CharacterNames] (hctx : ctx.flags.verbose = false) {fuel : Nat}
    {done items : List Item}
    {ts rest : List Token} (hgroup : parseGroup fuel ctx g ts = .ok (items, g', rest)) :
    parseSequence (fuel + 1) ctx g done (.char '(' :: ts) =
      parseSequence fuel ctx g' (items ++ done) rest := by
  rw [parseSequence, skip_of_not_verbose hctx]
  simp only [hgroup]

/-- The names that groups from a number on are given, with the numbers of those that have one. -/
def numbered : (index : Nat) → List (Option String) → Assoc String Nat
  | _, [] => []
  | index, none :: names => numbered (index + 1) names
  | index, some name :: names => (name, index) :: numbered (index + 1) names

/-- The names that are numbered are those that are there. -/
lemma keys_numbered (index : Nat) (names : List (Option String)) :
    (numbered index names).keys = names.filterMap id := by
  induction names generalizing index with
  | nil => rfl
  | cons name names ih =>
    cases name with
    | none => exact ih (index + 1)
    | some s => exact congrArg (s :: ·) (ih (index + 1))

/-- What is asked of the names of empty groups that are opened after others. -/
structure Fresh (g : Groups) (names : List (Option String)) : Prop where
  identifier : ∀ s, some s ∈ names → Unicode.isIdentifier s.toList = true
  nodup : (g.names.keys ++ names.filterMap id).Nodup

/-- A group can be opened if its name is fresh. -/
lemma Fresh.exists_opened {name : Option String} {names : List (Option String)}
    (h : Fresh g (name :: names)) : ∃ g', g.opened name = .ok g' ∧ g'.count = g.count + 1 ∧
      g'.names = g.names ++ numbered (g.count + 1) [name] ∧ g'.unfixed = g.unfixed ∧
      g'.asked = g.asked := by
  cases name with
  | none => exact ⟨_, rfl, rfl, (List.append_nil _).symm, rfl, rfl⟩
  | some s =>
    have hfresh : s ∉ g.names.keys := by
      have hdisjoint := (List.nodup_append'.mp h.nodup).2.2
      exact fun hs => hdisjoint hs List.mem_cons_self
    have hnone := Assoc.get?_eq_none_iff.mpr hfresh
    refine ⟨{ g with count := g.count + 1, names := Assoc.insert s (g.count + 1) g.names }, ?_, rfl,
      Assoc.insert_of_get?_eq_none _ hnone, rfl, rfl⟩
    simp [Groups.opened, Assoc.contains, hnone]

/-- The other names stay fresh when the first one is entered. -/
lemma Fresh.tail {name : Option String} {names : List (Option String)}
    (h : Fresh g (name :: names)) (hnames : g'.names = g.names ++ numbered (g.count + 1) [name]) :
    Fresh g' names := by
  refine ⟨fun s hs => h.identifier s (List.mem_cons_of_mem _ hs), ?_⟩
  have hkeys : g'.names.keys = g.names.keys ++ [name].filterMap id := by
    rw [hnames, Assoc.keys, List.map_append]
    exact congrArg _ (keys_numbered _ _)
  rw [hkeys, List.append_assoc, ← List.filterMap_append]
  exact h.nodup

/-- Empty groups are read one after the other, each with the name that it is given. -/
lemma parseSequence_emptyGroups [CharacterNames] (hctx : ctx.flags.verbose = false)
    (names : List (Option String)) :
    ∀ (g : Groups) (fuel : Nat) (done : List Item), 5 * names.length < fuel → Fresh g names →
      ∃ pieces g', parseSequence fuel ctx g done
          ((names.flatMap Pattern.emptyGroup).map Token.char) = .ok (pieces, g', []) ∧
        g'.count = g.count + names.length ∧
        g'.names = g.names ++ numbered (g.count + 1) names ∧
        g'.unfixed = g.unfixed ∧ g'.asked = g.asked := by
  induction names with
  | nil =>
    intro g fuel done hfuel _
    obtain ⟨fuel, rfl⟩ := Nat.exists_eq_succ_of_ne_zero (Nat.ne_of_gt hfuel)
    refine ⟨piecesOf done, g, ?_, rfl, (List.append_nil _).symm, rfl, rfl⟩
    rw [parseSequence, skip_of_not_verbose hctx]
    rfl
  | cons name names ih =>
    intro g fuel done hfuel hfresh
    rw [List.length_cons] at hfuel
    obtain ⟨fuel, rfl⟩ : ∃ n, fuel = n + 6 := ⟨fuel - 6, by omega⟩
    obtain ⟨g₁, hopened, hcount, hnames, hunfixed, hasked⟩ := hfresh.exists_opened
    -- One group is read and entered in the table, and the others are read with the table that this
    -- leaves.
    let item : Item := .other (.group g₁.count .empty)
    let g₂ := g₁.closed g₁.count .empty
    obtain ⟨pieces, g', hparse, hcount', hnames', hunfixed', hasked'⟩ :=
      ih g₂ (fuel + 5) ([item] ++ done) (by omega) (hfresh.tail hnames)
    have hstep : parseSequence (fuel + 6) ctx g done
        (((name :: names).flatMap Pattern.emptyGroup).map Token.char) =
        parseSequence (fuel + 5) ctx g₂ ([item] ++ done)
          ((names.flatMap Pattern.emptyGroup).map Token.char) := by
      have hhead : ∃ cs, Pattern.emptyGroup name = '(' :: cs := by
        cases name <;> exact ⟨_, rfl⟩
      obtain ⟨cs, hcs⟩ := hhead
      have hgroup := parseGroup_emptyGroup hctx
        (fun s hs => hfresh.identifier s (hs ▸ List.mem_cons_self)) hopened fuel
        ((names.flatMap Pattern.emptyGroup).map Token.char)
      rw [hcs, List.tail_cons] at hgroup
      rw [List.flatMap_cons, List.map_append, hcs, List.map_cons, List.cons_append]
      exact parseSequence_group hctx hgroup
    refine ⟨pieces, g', hstep.trans hparse, ?_, ?_, hunfixed'.trans hunfixed,
      hasked'.trans hasked⟩
    · rw [hcount', List.length_cons]
      show g₁.count + names.length = _
      omega
    · rw [hnames']
      show g₁.names ++ numbered (g₁.count + 1) names = _
      rw [hnames, hcount, List.append_assoc]
      cases name <;> rfl

lemma leadingFlags_emptyGroups (fuel : Nat) (names : List (Option String)) :
    leadingFlags fuel {} ((names.flatMap Pattern.emptyGroup).map Token.char) =
      .ok ({}, (names.flatMap Pattern.emptyGroup).map Token.char) := by
  cases fuel with
  | zero => rfl
  | succ fuel =>
    cases names with
    | nil => rfl
    | cons name names => cases name <;> rfl

end EmptyGroups

end Regex

namespace Pattern

open Regex

/-! ### The outline of a pattern -/

lemma groupName?_eq_none {names : Assoc String Nat} {index : Nat}
    (h : ∀ entry ∈ names, index < entry.2) : groupName? names index = none := by
  rw [groupName?, List.find?_eq_none.mpr, Option.map_none]
  intro entry he
  have := h entry he
  simp only [beq_iff_eq]
  omega

/-- The name of a group is not looked for at later ones. -/
lemma map_groupName?_cons {names : Assoc String Nat} {name : String} {index first count : Nat}
    (h : index < first) : (List.range' first count).map (groupName? ((name, index) :: names)) =
      (List.range' first count).map (groupName? names) := by
  refine List.map_congr_left fun i hi => ?_
  have hi := (List.mem_range'_1.mp hi).1
  have hne : (index == i) = false := by
    rw [beq_eq_false_iff_ne]
    omega
  simp [groupName?, hne]

/-- Names in the order of their groups are those that the groups are numbered with. -/
lemma numbered_groupName? {names : Assoc String Nat} {first count : Nat}
    (hincreasing : names.Pairwise fun a b => a.2 < b.2)
    (hbounds : ∀ entry ∈ names, first ≤ entry.2 ∧ entry.2 < first + count) :
    numbered first ((List.range' first count).map (groupName? names)) = names := by
  induction count generalizing first names with
  | zero =>
    cases names with
    | nil => rfl
    | cons entry names =>
      have := hbounds entry List.mem_cons_self
      omega
  | succ count ih =>
    -- The first number belongs to the first name, or it has no name at all, since the numbers of
    -- the names increase.
    rw [List.range'_succ, List.map_cons]
    cases names with
    | nil =>
      rw [groupName?_eq_none (by simp)]
      exact ih List.Pairwise.nil (by simp)
    | cons entry names =>
      obtain ⟨name, index⟩ := entry
      rw [List.pairwise_cons] at hincreasing
      have hfirst := hbounds (name, index) List.mem_cons_self
      by_cases hindex : index = first
      · subst hindex
        have hhead : groupName? ((name, index) :: names) index = some name := by
          simp [groupName?]
        rw [hhead, map_groupName?_cons (Nat.lt_succ_self index), numbered, ih hincreasing.2]
        intro entry he
        have := hincreasing.1 entry he
        have := hbounds entry (List.mem_cons_of_mem _ he)
        omega
      · have hgt : ∀ entry ∈ (name, index) :: names, first < entry.2 := by
          intro entry he
          rcases List.mem_cons.mp he with rfl | he
          · exact Nat.lt_of_le_of_ne hfirst.1 (Ne.symm hindex)
          · exact Nat.lt_of_le_of_lt hfirst.1 (hincreasing.1 entry he)
        rw [groupName?_eq_none hgt, numbered]
        refine ih (List.pairwise_cons.mpr hincreasing) fun entry he => ?_
        have := hgt entry he
        have := hbounds entry he
        omega

/-- The names of the groups of a pattern, in order. -/
lemma outline_eq (p : Pattern) :
    p.outline = ((List.range' 1 p.groupCount).map (groupName? p.names)).flatMap emptyGroup := by
  rw [outline, List.range'_eq_map_range, List.map_map, List.flatMap_map]
  simp only [Function.comp_apply, Nat.add_comm]

lemma mem_of_groupName?_eq_some {names : Assoc String Nat} {index : Nat} {name : String}
    (h : groupName? names index = some name) : (name, index) ∈ names := by
  rw [groupName?, Option.map_eq_some_iff] at h
  obtain ⟨⟨name', index'⟩, hfind, rfl⟩ := h
  have hindex : index' = index := by simpa using List.find?_some hfind
  exact hindex ▸ List.mem_of_find?_eq_some hfind

lemma not_mem_emptyGroup {name : Option String}
    (h : ∀ s, name = some s → Unicode.isIdentifier s.toList = true) : '\\' ∉ emptyGroup name := by
  cases name with
  | none => decide
  | some s =>
    have hs := Unicode.not_mem_of_isIdentifier (c := '\\') (h s rfl) (by decide) (by decide)
    simp [emptyGroup, hs]

/-- The outline of a pattern compiles to a pattern with the same groups. -/
theorem exists_ofBody_outline [CharacterNames] {p : Pattern} (hp : p.Named) :
    ∃ q, ofBody p.outline {} = .ok q ∧ q.groupCount = p.groupCount ∧ q.names = p.names := by
  -- The names of the groups in order, with nothing for a group that has none.
  let names := (List.range' 1 p.groupCount).map (groupName? p.names)
  have hnumbered : numbered 1 names = p.names := by
    refine numbered_groupName? hp.increasing fun entry he => ?_
    have := hp.positive entry he
    have := hp.bounded entry he
    omega
  have hidentifier : ∀ s, some s ∈ names → Unicode.isIdentifier s.toList = true := by
    intro s hs
    obtain ⟨index, _, hindex⟩ := List.mem_map.mp hs
    exact hp.identifier _ (mem_of_groupName?_eq_some hindex)
  have hfresh : Fresh {} names := by
    refine ⟨hidentifier, ?_⟩
    rw [show (({} : Groups).names.keys ++ names.filterMap id) = names.filterMap id from rfl,
      ← keys_numbered 1 names, hnumbered]
    exact hp.nodup
  -- No name has a backslash, so the tokens of the outline are its characters.
  have hbackslash : '\\' ∉ names.flatMap emptyGroup := by
    rw [List.mem_flatMap]
    rintro ⟨name, hname, hslash⟩
    exact not_mem_emptyGroup (fun s hs => hidentifier s (hs ▸ hname)) hslash
  have hctx : (⟨{}, none⟩ : Context).flags.verbose = false := rfl
  have hne : ∀ name, emptyGroup name ≠ [] := by
    intro name
    cases name <;> simp [emptyGroup]
  have hlength := length_le_flatMap hne names
  have hlead := leadingFlags_emptyGroups ((names.flatMap emptyGroup).map Token.char).length names
  -- The fuel of the reader is enough, as no group is written as nothing.
  obtain ⟨pieces, g, hparse, hcount, hnames, hunfixed, hasked⟩ :=
    parseSequence_emptyGroups hctx names {}
      (5 * ((names.flatMap emptyGroup).map Token.char).length + 4) []
      (by rw [List.length_map (f := Token.char)]; omega) hfresh
  have htree : parseTree {} p.outline =
      .ok ⟨{}, g.count, g.names, nodeOf (joinAlternatives {} [pieces])⟩ := by
    rw [outline_eq]
    refine parseTree_eq_ok.mpr ⟨{}, (names.flatMap emptyGroup).map Token.char,
      joinAlternatives {} [pieces], g, ?_, ?_, rfl, ?_, hunfixed, rfl⟩
    · rw [Token.ofChars_of_not_mem hbackslash]
      exact hlead
    · rw [parseAlternatives, hparse]
      rfl
    · rw [hasked]
      exact Nat.zero_le _
  refine ⟨_, ofBody_eq_ok.mpr ⟨_, htree, rfl⟩, ?_, ?_⟩
  · show g.count = p.groupCount
    simp [hcount, names]
  · show g.names = p.names
    rw [hnames, ← hnumbered]
    rfl

end Pattern

/-! ### Templates -/

namespace Template

open Compiled

variable {p q : Pattern}

/-- What a template means depends on the groups of a pattern and their names only. -/
lemma parse_congr (hcount : q.groupCount = p.groupCount) (hnames : q.names = p.names)
    (template : String) : parse q template = parse p template := by
  have hresolve : resolve q = resolve p := by
    funext name
    rw [resolve, resolve, hcount, hnames]
  have hdigits : readDigits q = readDigits p := by
    funext c ts
    simp only [readDigits, reference, hcount]
  have htokens : ∀ fuel ts, readTokens q fuel ts = readTokens p fuel ts := by
    intro fuel
    induction fuel with
    | zero => intro ts; cases ts <;> rfl
    | succ fuel ih =>
      intro ts
      cases ts with
      | nil => rfl
      | cons t ts => cases t <;> simp only [readTokens, hresolve, hdigits, ih]
  exact htokens _ _

/-- The check on the outline finds what the pattern itself makes of a template. -/
theorem check_eq_parse [CharacterNames] (hp : p.Named)
    (template : String) : check p template = parse p template := by
  obtain ⟨q, hq, hcount, hnames⟩ := Pattern.exists_ofBody_outline hp
  rw [check, hq]
  exact parse_congr hcount hnames template

/-- Whether the group that a part refers to is among the first ones. -/
def PieceFits (count : Nat) : TemplatePiece → Prop
  | .char _ => True
  | .group index => index ≤ count

/-- A template fits a number of groups if it refers to no other ones. -/
def Fits (count : Nat) (template : Template) : Prop :=
  ∀ piece ∈ template, PieceFits count piece

lemma fits_cons {count : Nat} {piece : TemplatePiece} {template : Template}
    (hpiece : PieceFits count piece) (h : Fits count template) : Fits count (piece :: template) :=
  List.forall_mem_cons.mpr ⟨hpiece, h⟩

/-- A name stands for a group that is there. -/
lemma le_of_resolve (hp : p.Named) {name : List Char} {index : Nat}
    (h : resolve p name = .ok index) : index ≤ p.groupCount := by
  rw [resolve] at h
  split_ifs at h
  · split at h
    · rename_i hget
      cases h
      exact hp.bounded _ (Assoc.mem_of_get?_eq_some hget)
    · cases h
  · split at h
    · split_ifs at h with hle
      cases h
      exact hle
    · cases h

lemma fits_of_reference {ds : List Char} {ts rest : List Regex.Token} {piece : TemplatePiece}
    (h : reference p ds ts = .ok (piece, rest)) : PieceFits p.groupCount piece := by
  rw [reference] at h
  split_ifs at h with hle
  cases h
  exact hle

/-- A reference by digits fits, or the digits are an octal number. -/
lemma fits_of_readDigits {c : Char} {ts rest : List Regex.Token} {piece : TemplatePiece}
    (h : readDigits p c ts = .ok (piece, rest)) : PieceFits p.groupCount piece := by
  unfold readDigits at h
  split at h
  · split at h
    · split at h
      · split at h
        · dsimp only at h
          split_ifs at h
          cases h
          trivial
        · exact fits_of_reference h
      · exact fits_of_reference h
    · exact fits_of_reference h
  · exact fits_of_reference h

/-- Each piece that is read fits the pattern, by induction on what is still to be read. -/
lemma fits_of_readTokens (hp : p.Named) {fuel : Nat} {ts : List Regex.Token} {template : Template}
    (h : readTokens p fuel ts = .ok template) : Fits p.groupCount template := by
  induction fuel generalizing ts template with
  | zero =>
    cases ts with
    | nil =>
      cases h
      exact List.forall_mem_nil _
    | cons t ts => cases h
  | succ fuel ih =>
    cases ts with
    | nil =>
      cases h
      exact List.forall_mem_nil _
    | cons t ts =>
      cases t with
      | dangling => cases h
      | char c =>
        rw [readTokens] at h
        obtain ⟨template', hrest, h⟩ := bind_eq_ok.mp h
        cases h
        exact fits_cons trivial (ih hrest)
      | escape c =>
        unfold readTokens at h
        split at h
        · -- a reference by name
          split at h
          · split at h
            · obtain ⟨index, hindex, h⟩ := bind_eq_ok.mp h
              obtain ⟨template', hrest, h⟩ := bind_eq_ok.mp h
              cases h
              exact fits_cons (le_of_resolve hp hindex) (ih hrest)
            · cases h
          · cases h
        · split at h
          · -- a character by its octal digits
            obtain ⟨template', hrest, h⟩ := bind_eq_ok.mp h
            cases h
            exact fits_cons trivial (ih hrest)
          · split at h
            · -- digits, which are a reference or a character
              obtain ⟨⟨piece, rest⟩, hpiece, h⟩ := bind_eq_ok.mp h
              obtain ⟨template', hrest, h⟩ := bind_eq_ok.mp h
              cases h
              exact fits_cons (fits_of_readDigits hpiece) (ih hrest)
            · -- any other character refers to no group
              split at h
              · obtain ⟨template', hrest, h⟩ := bind_eq_ok.mp h
                cases h
                exact fits_cons trivial (ih hrest)
              · split at h
                · cases h
                · obtain ⟨template', hrest, h⟩ := bind_eq_ok.mp h
                  cases h
                  exact fits_cons trivial (fits_cons trivial (ih hrest))

/-- A template that is read for a pattern refers only to groups of that pattern. -/
theorem fits_of_parse (hp : p.Named) {text : String} {template : Template}
    (h : parse p text = .ok template) : template.Fits p.groupCount :=
  fits_of_readTokens hp h

end Template

end UserAgent
