import UserAgent.Proofs.DecimalDigits
import UserAgent.Proofs.Loading
import UserAgent.Proofs.Outline

/-!
# Dollar references

A template of a rule table refers to groups by dollar signs. Its parts are the references and, wherever
it does not begin with one, its characters (`Template.DollarParts`). A replacement with such a template
puts the texts of the groups in the places of the references and copies every other character
(`FieldSpec.resolve_dollarParts`).
-/

namespace UserAgent

open Regex Compiled

namespace Template

/-! ### Templates with dollar signs -/

/-- A text begins with a reference: a dollar sign and digits, as many as there are, or a dollar sign and
digits in braces. -/
inductive Refers : (text digits rest : List Char) → Prop where
  | plain {digits rest : List Char} (hdigits : IsNumeral digits)
      (hrest : ∀ c ∈ rest.head?, isDigit c = false) : Refers ('$' :: (digits ++ rest)) digits rest
  | braced {digits rest : List Char} (hdigits : IsNumeral digits) :
      Refers ('$' :: '\x7b' :: (digits ++ '\x7d' :: rest)) digits rest

/-- A part of a template with dollar signs: a character, or a reference by its digits. -/
inductive DollarPart where
  | char (c : Char)
  | reference (digits : List Char)
deriving DecidableEq, Repr

/-- The parts of a template, from its beginning on: a reference if it begins with one, else its first
character. -/
inductive DollarParts : List Char → List DollarPart → Prop where
  | nil : DollarParts [] []
  | reference {text digits rest : List Char} {parts : List DollarPart}
      (href : Refers text digits rest) (hrest : DollarParts rest parts) :
      DollarParts text (.reference digits :: parts)
  | char {c : Char} {text : List Char} {parts : List DollarPart}
      (hchar : ∀ digits rest, ¬Refers (c :: text) digits rest) (htext : DollarParts text parts) :
      DollarParts (c :: text) (.char c :: parts)

/-- The text that a match puts in the place of a part. A group that took no part gives nothing. -/
def DollarPart.text (m : Match) : DollarPart → String
  | char c => String.ofList [c]
  | reference digits => (m.group? (numeralValue digits)).getD ""

/-! ### Reading references -/

section Refers

variable {text digits rest : List Char}

lemma Refers.isNumeral (h : Refers text digits rest) : IsNumeral digits := by
  cases h with
  | plain hdigits _ => exact hdigits
  | braced hdigits => exact hdigits

lemma Refers.exists_cons (h : Refers text digits rest) : ∃ cs, text = '$' :: cs := by
  cases h with
  | plain _ _ => exact ⟨_, rfl⟩
  | braced _ => exact ⟨_, rfl⟩

lemma Refers.length_lt (h : Refers text digits rest) : rest.length < text.length := by
  cases h with
  | plain _ _ =>
    simp only [List.length_cons, List.length_append]
    omega
  | braced _ =>
    simp only [List.length_cons, List.length_append]
    omega

lemma Refers.subset (h : Refers text digits rest) : rest ⊆ text := by
  cases h with
  | plain _ _ =>
    intro c hc
    simp [hc]
  | braced _ =>
    intro c hc
    simp [hc]

/-- Digits end where something else begins. -/
lemma span_of_isNumeral (hdigits : IsNumeral digits) (hrest : ∀ c ∈ rest.head?, isDigit c = false) :
    (digits ++ rest).takeWhile isDigit = digits ∧ (digits ++ rest).dropWhile isDigit = rest := by
  rw [List.takeWhile_append_of_pos hdigits.2, List.dropWhile_append_of_pos hdigits.2]
  cases rest with
  | nil => simp
  | cons c rest =>
    have hc := hrest c rfl
    simp [hc]

/-- The reader finds a reference after a dollar sign exactly if there is one. -/
lemma dollarReference?_eq_some {cs : List Char} :
    dollarReference? cs = some (digits, rest) ↔ Refers ('$' :: cs) digits rest := by
  -- Both forms take the longest run of digits, so what is taken and what is left come from one
  -- split of the text.
  have hall : ∀ cs : List Char, ∀ d ∈ cs.takeWhile isDigit, isDigit d = true :=
    fun cs d hd => List.mem_takeWhile_imp hd
  constructor
  · intro h
    unfold dollarReference? at h
    split at h
    · rename_i cs
      split at h
      · rename_i d ds rest' htake hdrop
        cases h
        have hsplit := List.takeWhile_append_dropWhile (p := isDigit) (l := cs)
        rw [htake, hdrop] at hsplit
        rw [← hsplit]
        exact .braced ⟨by simp, htake ▸ hall cs⟩
      · cases h
    · split at h
      · cases h
      · rename_i htake
        cases h
        have hsplit := List.takeWhile_append_dropWhile (p := isDigit) (l := cs)
        -- The run of digits is the longest one: no digit follows.
        have hend : ∀ c ∈ (cs.dropWhile isDigit).head?, isDigit c = false := by
          intro c hc
          have hhead := List.head?_dropWhile_not isDigit cs
          rw [Option.mem_def.mp hc] at hhead
          simpa using hhead
        have hrefers := Refers.plain ⟨htake, hall cs⟩ hend
        rwa [hsplit] at hrefers
  · intro h
    cases h with
    | plain hdigits hrest =>
      obtain ⟨htake, hdrop⟩ := span_of_isNumeral hdigits hrest
      unfold dollarReference?
      split
      · rename_i cs heq
        -- A numeral does not begin with a brace, so this is no reference in braces.
        have hbrace : '\x7b' ∉ digits := not_mem_of_isNumeral hdigits rfl
        cases digits with
        | nil => exact absurd rfl hdigits.1
        | cons d ds => exact absurd (List.cons.inj heq).1.symm (List.ne_of_not_mem_cons hbrace)
      · rw [htake, hdrop]
        split
        · exact absurd rfl hdigits.1
        · rfl
    | braced hdigits =>
      have hbrace : ∀ c ∈ ('\x7d' :: rest).head?, isDigit c = false := by
        rintro c ⟨⟩
        rfl
      obtain ⟨htake, hdrop⟩ := span_of_isNumeral hdigits hbrace
      simp only [dollarReference?, htake, hdrop]
      cases digits with
      | nil => exact absurd rfl hdigits.1
      | cons d ds => rfl

/-- A text begins with one reference only. -/
lemma Refers.unique {digits' rest' : List Char} (h : Refers text digits rest)
    (h' : Refers text digits' rest') : digits' = digits ∧ rest' = rest := by
  obtain ⟨cs, rfl⟩ := h.exists_cons
  have hsome := (dollarReference?_eq_some.mpr h').symm.trans (dollarReference?_eq_some.mpr h)
  exact Prod.mk.inj (Option.some.inj hsome)

lemma dollarReference?_eq_none {cs : List Char} :
    dollarReference? cs = none ↔ ∀ digits rest, ¬Refers ('$' :: cs) digits rest := by
  rw [Option.eq_none_iff_forall_ne_some, Prod.forall]
  exact forall₂_congr fun _ _ => not_congr dollarReference?_eq_some

end Refers

lemma not_refers {c : Char} {text : List Char} (hc : c ≠ '$') (digits rest : List Char) :
    ¬Refers (c :: text) digits rest := by
  intro h
  obtain ⟨cs, hcs⟩ := h.exists_cons
  exact hc (List.cons.inj hcs).1

/-! ### The parts of a template -/

section DollarParts

variable {text : List Char} {parts parts' : List DollarPart}

/-- Every text has parts. -/
lemma exists_dollarParts (text : List Char) : ∃ parts, DollarParts text parts := by
  induction hlength : text.length using Nat.strong_induction_on generalizing text with
  | h n ih =>
    subst hlength
    by_cases hrefers : ∃ digits rest, Refers text digits rest
    · obtain ⟨digits, rest, href⟩ := hrefers
      obtain ⟨parts, hparts⟩ := ih _ href.length_lt rest rfl
      exact ⟨_, .reference href hparts⟩
    · cases text with
      | nil => exact ⟨_, .nil⟩
      | cons c text =>
        obtain ⟨parts, hparts⟩ := ih _ (Nat.lt_succ_self _) text rfl
        exact ⟨_, .char (fun digits rest href => hrefers ⟨digits, rest, href⟩) hparts⟩

/-- No text has other parts. -/
lemma DollarParts.unique (h : DollarParts text parts) (h' : DollarParts text parts') :
    parts' = parts := by
  induction h generalizing parts' with
  | nil =>
    cases h' with
    | nil => rfl
    | reference href _ => cases href
  | reference href _ ih =>
    cases h' with
    | nil => cases href
    | reference href' hrest' =>
      obtain ⟨rfl, rfl⟩ := href.unique href'
      rw [ih hrest']
    | char hchar' _ => exact absurd href (hchar' _ _)
  | char hchar _ ih =>
    cases h' with
    | reference href' _ => exact absurd href' (hchar _ _)
    | char _ htext' => rw [ih htext']

/-- What is asked of the parts of a template without backslashes. -/
def DollarPart.WellFormed : DollarPart → Prop
  | char c => c ≠ '\\'
  | reference digits => IsNumeral digits

lemma DollarParts.wellFormed (h : DollarParts text parts) (hslash : '\\' ∉ text) :
    ∀ part ∈ parts, part.WellFormed := by
  induction h with
  | nil => simp
  | reference href _ ih =>
    exact List.forall_mem_cons.mpr ⟨href.isNumeral, ih fun hmem => hslash (href.subset hmem)⟩
  | char _ _ ih =>
    rw [List.mem_cons, not_or] at hslash
    exact List.forall_mem_cons.mpr ⟨Ne.symm hslash.1, ih hslash.2⟩

end DollarParts

/-! ### Escapes -/

/-- A part as it is written for the reader of templates: references as escapes. -/
def DollarPart.escaped : DollarPart → List Char
  | char c => [c]
  | reference digits => '\\' :: 'g' :: '<' :: (digits ++ ['>'])

/-- The tokens of a part that is so written. -/
def DollarPart.tokens : DollarPart → List Token
  | char c => [.char c]
  | reference digits => .escape 'g' :: .char '<' :: (digits.map .char ++ [.char '>'])

/-- The part of a template that the reader makes of it. -/
def DollarPart.piece : DollarPart → TemplatePiece
  | char c => .char c
  | reference digits => .group (numeralValue digits)

/-- A reference is to one of the first groups, or to the match itself, in digits that are read. -/
def DollarPart.Fits (count : Nat) : DollarPart → Prop
  | char _ => True
  | reference digits => numeralValue digits ≤ count ∧ digits.length ≤ maxNumeralDigits

lemma DollarPart.expand_piece (m : Match) (part : DollarPart) : part.piece.expand m = part.text m := by
  cases part <;> rfl

/-- The references of a text, and nothing else of it, become escapes. -/
lemma convertDollars_eq {text : List Char} {parts : List DollarPart} (h : DollarParts text parts)
    {fuel : Nat} (hfuel : text.length ≤ fuel) :
    convertDollars fuel text = parts.flatMap DollarPart.escaped := by
  induction h generalizing fuel with
  | nil => cases fuel <;> rfl
  | reference href _ ih =>
    have hlt := href.length_lt
    obtain ⟨fuel, rfl⟩ := Nat.exists_eq_succ_of_ne_zero (n := fuel) (by omega)
    obtain ⟨cs, rfl⟩ := href.exists_cons
    have hrest := @ih fuel (by omega)
    rw [convertDollars, dollarReference?_eq_some.mpr href]
    simp [DollarPart.escaped, hrest]
  | @char c text parts hchar htext ih =>
    rw [List.length_cons] at hfuel
    obtain ⟨fuel, rfl⟩ := Nat.exists_eq_succ_of_ne_zero (n := fuel) (by omega)
    have htail := @ih fuel (by omega)
    rw [convertDollars, htail]
    -- A dollar sign that begins no reference is kept like any other character.
    by_cases hdollar : c = '$'
    · subst hdollar
      rw [dollarReference?_eq_none.mpr hchar]
      rfl
    · rw [if_neg (by simpa using hdollar)]
      rfl

section Reading

variable {p : Pattern} {parts : List DollarPart}

/-- Backslashes stand only where references begin. -/
lemma ofChars_escaped (h : ∀ part ∈ parts, part.WellFormed) :
    Token.ofChars (parts.flatMap DollarPart.escaped) = parts.flatMap DollarPart.tokens := by
  induction parts with
  | nil => rfl
  | cons part parts ih =>
    obtain ⟨hpart, hparts⟩ := List.forall_mem_cons.mp h
    rw [List.flatMap_cons, List.flatMap_cons, ← ih hparts]
    cases part with
    | char c =>
      have hslash : '\\' ∉ [c] := by simpa using Ne.symm hpart
      exact Token.ofChars_append hslash _
    | reference digits =>
      have hslash : '\\' ∉ '<' :: (digits ++ ['>']) := by
        simpa using not_mem_of_isNumeral hpart rfl
      rw [DollarPart.escaped, List.cons_append, List.cons_append, Token.ofChars,
        Token.ofChars_append hslash]
      simp [DollarPart.tokens]

/-- Digits mean the group with the number that they stand for. -/
lemma resolve_eq_ok {digits : List Char} (h : IsNumeral digits) {index : Nat} :
    resolve p digits = .ok index ↔
      (DollarPart.reference digits).Fits p.groupCount ∧ index = numeralValue digits := by
  rw [resolve, isIdentifier_of_isNumeral h, Text.readInteger_of_isNumeral h]
  simp only [DollarPart.Fits]
  by_cases hlength : digits.length ≤ maxNumeralDigits
  · by_cases hcount : numeralValue digits ≤ p.groupCount
    · simp [hlength, hcount, eq_comm]
    · simp [hlength, hcount]
  · simp [hlength]

/-- The reader accepts a part if it fits, and takes it for what it means. -/
lemma readTokens_part {part : DollarPart} (hpart : part.WellFormed) {fuel : Nat} {rest : List Token}
    {template : Template} : readTokens p (fuel + 1) (part.tokens ++ rest) = .ok template ↔
      part.Fits p.groupCount ∧ ∃ pieces, readTokens p fuel rest = .ok pieces ∧
        template = part.piece :: pieces := by
  cases part with
  | char c =>
    rw [DollarPart.tokens, List.singleton_append, readTokens, bind_eq_ok]
    simp only [DollarPart.Fits, DollarPart.piece, pure_eq_ok, true_and, eq_comm (b := template)]
  | reference digits =>
    have hspan := Token.spanName_of_not_mem (not_mem_of_isNumeral hpart (c := '>') rfl) rest
    have hread : readTokens p (fuel + 1) ((DollarPart.reference digits).tokens ++ rest) =
        (resolve p digits >>= fun index => do return .group index :: (← readTokens p fuel rest)) := by
      simp only [DollarPart.tokens, List.cons_append, List.append_assoc, List.nil_append, readTokens,
        hspan]
      rfl
    simp only [hread, bind_eq_ok, pure_eq_ok, resolve_eq_ok hpart, DollarPart.piece]
    constructor
    · rintro ⟨index, ⟨hfits, rfl⟩, pieces, hpieces, rfl⟩
      exact ⟨hfits, pieces, hpieces, rfl⟩
    · rintro ⟨hfits, pieces, hpieces, rfl⟩
      exact ⟨_, ⟨hfits, rfl⟩, pieces, hpieces, rfl⟩

/-- The reader accepts parts if all of them fit, and takes each of them for what it means. -/
lemma readTokens_parts (h : ∀ part ∈ parts, part.WellFormed) {fuel : Nat}
    (hfuel : parts.length ≤ fuel) {template : Template} :
    readTokens p fuel (parts.flatMap DollarPart.tokens) = .ok template ↔
      (∀ part ∈ parts, part.Fits p.groupCount) ∧ template = parts.map DollarPart.piece := by
  induction parts generalizing fuel template with
  | nil => simp [readTokens, eq_comm]
  | cons part parts ih =>
    obtain ⟨hpart, hparts⟩ := List.forall_mem_cons.mp h
    rw [List.length_cons] at hfuel
    obtain ⟨fuel, rfl⟩ := Nat.exists_eq_succ_of_ne_zero (n := fuel) (by omega)
    have ih := fun template => @ih hparts fuel (by omega) template
    rw [List.flatMap_cons, List.forall_mem_cons, List.map_cons, readTokens_part hpart]
    simp only [ih]
    constructor
    · rintro ⟨hfits, pieces, ⟨hall, rfl⟩, rfl⟩
      exact ⟨⟨hfits, hall⟩, rfl⟩
    · rintro ⟨⟨hfits, hall⟩, rfl⟩
      exact ⟨hfits, _, ⟨hall, rfl⟩, rfl⟩

/-- A template without backslashes is accepted if its parts fit, and means what they mean. -/
theorem parse_fromDollar_eq_ok {source : String} (hsource : '\\' ∉ source.toList)
    (hparts : DollarParts source.toList parts) {template : Template} :
    parse p (fromDollar source) = .ok template ↔
      (∀ part ∈ parts, part.Fits p.groupCount) ∧ template = parts.map DollarPart.piece := by
  have hwell := hparts.wellFormed hsource
  have hdollar : (fromDollar source).toList = parts.flatMap DollarPart.escaped := by
    rw [fromDollar, String.toList_ofList]
    exact convertDollars_eq hparts (Nat.le_of_eq String.length_toList)
  simp only [parse, hdollar, ofChars_escaped hwell]
  refine readTokens_parts hwell (length_le_flatMap (fun part => ?_) parts)
  cases part <;> simp [DollarPart.tokens]

end Reading

end Template

namespace FieldSpec

open Template

variable {pattern source : String} {search : Pattern} {parts : List DollarPart}

/-- A replacement by a template without backslashes is accepted if the parts of the template fit. -/
lemma compileSubstitution_dollarParts [CharacterNames]
    (hsearch : compilePattern pattern = .ok search)
    (hsource : '\\' ∉ source.toList) (hparts : DollarParts source.toList parts) {s : Substitution} :
    compileSubstitution pattern source = .ok s ↔
      (∀ part ∈ parts, part.Fits search.groupCount) ∧
        s = ⟨search, parts.map DollarPart.piece, source⟩ := by
  rw [compilePattern_eq_ok] at hsearch
  have hcheck : ∀ {template}, check search (fromDollar source) = .ok template ↔
      (∀ part ∈ parts, part.Fits search.groupCount) ∧ template = parts.map DollarPart.piece := by
    intro template
    rw [check_eq_parse (Pattern.named_of_compile hsearch), parse_fromDollar_eq_ok hsource hparts]
  rw [compileSubstitution_eq_ok]
  constructor
  · rintro ⟨hsearch', htemplate, hwritten⟩
    obtain ⟨search', template, written⟩ := s
    obtain rfl : search = search' := Except.ok.inj (hsearch.symm.trans hsearch')
    obtain ⟨hfits, rfl⟩ := hcheck.mp htemplate
    exact ⟨hfits, hwritten ▸ rfl⟩
  · rintro ⟨hfits, rfl⟩
    exact ⟨hsearch, hcheck.mpr ⟨hfits, rfl⟩, rfl⟩

/-- A replacement by a template without backslashes is accepted exactly if the groups of its references
exist and their numbers can be read. It then puts the texts of the groups in the places of the
references, and copies the other characters. -/
theorem resolve_dollarParts [CharacterNames] (hsearch : compilePattern pattern = .ok search)
    (hsource : '\\' ∉ source.toList) :
    ∃ parts, (∀ parts', DollarParts source.toList parts' ↔ parts' = parts) ∧
      ((∃ s, compileSubstitution pattern source = .ok s) ↔ ∀ digits, .reference digits ∈ parts →
        numeralValue digits ≤ search.groupCount ∧ digits.length ≤ maxNumeralDigits) ∧
      ∀ s, compileSubstitution pattern source = .ok s → ∀ name capture, capture ≠ "" →
        (substitute name s).resolve (some capture) =
          search.replaceAll (fun m => String.join (parts.map (·.text m))) capture := by
  obtain ⟨parts, hparts⟩ := exists_dollarParts source.toList
  refine ⟨parts, fun parts' => ⟨hparts.unique, fun h => h ▸ hparts⟩, ?_, ?_⟩
  · simp only [compileSubstitution_dollarParts hsearch hsource hparts, exists_and_left, exists_eq,
      and_true]
    constructor
    · intro hfits digits hdigits
      exact hfits _ hdigits
    · intro hreferences part hpart
      cases part with
      | char c => trivial
      | reference digits => exact hreferences digits hpart
  · intro s hs name capture hcapture
    obtain ⟨-, rfl⟩ := (compileSubstitution_dollarParts hsearch hsource hparts).mp hs
    have hexpand : expand (parts.map DollarPart.piece) =
        fun m => String.join (parts.map (·.text m)) := by
      funext m
      rw [expand, List.map_map]
      exact congrArg String.join (List.map_congr_left fun part _ => part.expand_piece m)
    rw [FieldSpec.resolve, onCapture, if_neg (by simpa using hcapture), Substitution.apply, hexpand]

/-- References with and without braces, one of them to a group that takes no part, after a dollar sign
that begins none, and braces that are not closed: the conditions are met. -/
theorem resolve_dollarParts_unclosed :
    '\\' ∉ "$$1$\x7b2\x7d$\x7b1".toList ∧
    ∃ s, compileSubstitution "(fox)(es)?" "$$1$\x7b2\x7d$\x7b1" = .ok s ∧
      (substitute "name" s).resolve (some "a fox") = "a $fox$\x7b1" := by
  let parts : List DollarPart :=
    [.char '$', .reference ['1'], .reference ['2'], .char '$', .char '\x7b', .char '1']
  have hparts : DollarParts "$$1$\x7b2\x7d$\x7b1".toList parts := by
    refine .char (dollarReference?_eq_none.mp rfl) ?_
    refine .reference (dollarReference?_eq_some.mp rfl) ?_
    refine .reference (dollarReference?_eq_some.mp rfl) ?_
    refine .char (dollarReference?_eq_none.mp rfl) ?_
    exact .char (not_refers (by decide)) (.char (not_refers (by decide)) .nil)
  have hread : (compilePattern "(fox)(es)?").toOption.any (fun p => p.groupCount == 2 &&
      p.replaceAll (fun m => String.join (parts.map (·.text m))) "a fox" == "a $fox$\x7b1") =
        true := by
    decide +kernel
  have hsource : '\\' ∉ "$$1$\x7b2\x7d$\x7b1".toList := by decide
  obtain ⟨search, hsearch, htest⟩ := exists_ok_of_any hread
  rw [Bool.and_eq_true, beq_iff_eq, beq_iff_eq] at htest
  obtain ⟨parts', hunique, haccepted, hvalue⟩ := resolve_dollarParts hsearch hsource
  obtain rfl := (hunique parts).mp hparts
  have hreferences : ∀ digits, .reference digits ∈ parts →
      numeralValue digits ≤ search.groupCount ∧ digits.length ≤ maxNumeralDigits := by
    intro digits hdigits
    have hdigits : digits = ['1'] ∨ digits = ['2'] := by simpa [parts] using hdigits
    rw [htest.1]
    rcases hdigits with rfl | rfl <;> decide
  obtain ⟨s, hs⟩ := haccepted.mpr hreferences
  exact ⟨hsource, s, hs, (hvalue s hs "name" "a fox" (by decide)).trans htest.2⟩

/-- A reference to the first group, with very many zeros before its number. -/
def paddedReference : List Char := List.replicate maxNumeralDigits '0' ++ ['1']

/-- The group of the reference exists, and yet the template is refused, since numbers of so many digits
are not read. -/
theorem paddedReference_refused : ∃ search, compilePattern "(fox)" = .ok search ∧
    DollarParts ('$' :: paddedReference) [.reference paddedReference] ∧
    '\\' ∉ '$' :: paddedReference ∧ numeralValue paddedReference ≤ search.groupCount ∧
    ∀ s, compileSubstitution "(fox)" (String.ofList ('$' :: paddedReference)) ≠ .ok s := by
  have hread : (compilePattern "(fox)").toOption.any (fun p => p.groupCount == 1) = true := by rfl
  obtain ⟨search, hsearch, hcount⟩ := exists_ok_of_any hread
  have hnumeral : IsNumeral paddedReference := by
    refine ⟨by simp [paddedReference], ?_⟩
    intro d hd
    rcases List.mem_append.mp hd with hd | hd
    · rw [List.eq_of_mem_replicate hd]
      rfl
    · rw [List.mem_singleton.mp hd]
      rfl
  have hparts : DollarParts ('$' :: paddedReference) [.reference paddedReference] := by
    have hrefers : Refers ('$' :: (paddedReference ++ [])) paddedReference [] :=
      .plain hnumeral (by simp)
    rw [List.append_nil] at hrefers
    exact .reference hrefers .nil
  have hslash : '\\' ∉ '$' :: paddedReference := by
    rw [List.mem_cons, not_or]
    exact ⟨by decide, not_mem_of_isNumeral hnumeral rfl⟩
  have hvalue : numeralValue paddedReference = 1 := by
    have hzero : Template.digitValue '0' = 0 := rfl
    simp [numeralValue, paddedReference, Nat.ofDigits_cons, Nat.ofDigits_replicate_zero, hzero]
    rfl
  refine ⟨search, hsearch, hparts, hslash, ?_, ?_⟩
  · rw [hvalue, beq_iff_eq.mp hcount]
  · intro s hs
    rw [compileSubstitution_dollarParts hsearch (by simpa using hslash) (by simpa using hparts)] at hs
    have hlength := (hs.1 _ List.mem_cons_self).2
    simp [paddedReference] at hlength

end FieldSpec

end UserAgent
