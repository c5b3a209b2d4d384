import UserAgent.Proofs.DelimiterLetters
import UserAgent.Proofs.Export

/-!
# Kinds of field specifications

What a rule table writes for a specification is read as a specification of the same kind and with the
same name, unless the specification is a replacement whose search pattern is written as a text that
stands for something else: `FieldSpec.decode_encode_kind_iff`. Such a text may be refused, or it may be
the keyword of lookups.
-/

namespace UserAgent

open Compiled Pattern

/-! ### Replacements that are read again -/

/-- What is written for a replacement can be read. Its search pattern is written with delimiters, or does
not look delimited, or else what stands between its slashes is a pattern too, and the template is one for
that pattern. -/
def Substitution.ReadsAgain [CharacterNames] (s : Substitution) : Prop :=
  s.search.HasExtraFlag ∨ ¬LooksDelimited s.search.body.toList ∨
    ∃ body letters inner, delimited? s.search.body.toList = some (body, letters) ∧
      (∀ c ∈ letters, c ∈ flagLetters) ∧ ofBody body (flagsOf letters) = .ok inner ∧
      ∃ template, Template.check inner (Template.fromDollar s.source) = .ok template

namespace FieldSpec

section

variable [CharacterNames]

lemma exists_compileSubstitution_iff {pattern source : String} :
    (∃ s, compileSubstitution pattern source = .ok s) ↔
      ∃ p, Pattern.compile pattern = .ok p ∧
        ∃ template, Template.check p (Template.fromDollar source) = .ok template := by
  simp only [compileSubstitution_eq_ok]
  constructor
  · rintro ⟨s, hp, htemplate, -⟩
    exact ⟨s.search, hp, s.template, htemplate⟩
  · rintro ⟨p, hp, template, htemplate⟩
    exact ⟨⟨p, template, source⟩, hp, htemplate, rfl⟩

/-- A pattern that is written as it is, and looks delimited, is read as what stands between its
slashes. -/
lemma exists_compileSubstitution_text_iff {pattern source : String} {s : Substitution}
    (h : compileSubstitution pattern source = .ok s) :
    (∃ s', compileSubstitution s.search.text s.source = .ok s') ↔ s.ReadsAgain := by
  by_cases hexport : s.search.Exportable
  · refine iff_of_true ⟨s, (compileSubstitution_text_iff h).mpr hexport⟩ ?_
    exact ((exportable_iff _).mp hexport).imp_right .inl
  · have hplain := mt (exportable_iff s.search).mpr hexport
    obtain ⟨hflag, hlooks⟩ := not_or.mp hplain
    have htext : s.search.text = s.search.body := by
      rw [hasExtraFlag_iff, not_not] at hflag
      simp [Pattern.text, hflag]
    rw [exists_compileSubstitution_iff, htext, Substitution.ReadsAgain, or_iff_right hflag,
      or_iff_right hlooks]
    constructor
    · rintro ⟨inner, hinner, htemplate⟩
      obtain ⟨body, letters, hdelimited⟩ := looksDelimited_iff.mp (not_not.mp hlooks)
      obtain ⟨hletters, hinner⟩ := (compile_delimited?_eq_ok hdelimited).mp hinner
      exact ⟨body, letters, inner, hdelimited, hletters, hinner, htemplate⟩
    · rintro ⟨body, letters, inner, hdelimited, hletters, hinner, htemplate⟩
      exact ⟨inner, (compile_delimited?_eq_ok hdelimited).mpr ⟨hletters, hinner⟩, htemplate⟩

/-! ### Kinds -/

/-- What a specification does with a capture. -/
inductive Kind where
  | copy
  | literal
  | transform
  | substitute
  | mapped
  | substituteTransform
deriving DecidableEq, Repr

/-- The kind of a specification. -/
def kind : FieldSpec → Kind
  | copy _ => .copy
  | literal .. => .literal
  | transform .. => .transform
  | substitute .. => .substitute
  | mapped .. => .mapped
  | substituteTransform .. => .substituteTransform

/-- What is written for a specification is read as one of the same kind. -/
def KeepsKind : FieldSpec → Prop
  | substitute _ s => s.search.text ≠ mappingKeyword ∧ s.ReadsAgain
  | substituteTransform _ s _ => s.ReadsAgain
  | copy _ | literal .. | transform .. | mapped .. => True

/-- Three texts are read as a lookup or as a replacement, with the first one as name. -/
lemma decodeTriple_cases {v : Vocabulary} {name second third : String} {g : FieldSpec}
    (h : decodeTriple v name second third = .ok g) : g.name = name ∧
      (second = mappingKeyword ∧ g.kind = .mapped ∨
        second ≠ mappingKeyword ∧ g.kind = .substitute) := by
  unfold decodeTriple at h
  split_ifs at h with hkeyword
  · split at h
    · cases h
      exact ⟨rfl, .inl ⟨hkeyword, rfl⟩⟩
    · cases h
  · obtain ⟨s, -, h⟩ := bind_eq_ok.mp h
    cases pure_eq_ok.mp h
    exact ⟨rfl, .inr ⟨hkeyword, rfl⟩⟩

/-- Three texts are read as a replacement exactly if the second one is not the keyword and the last two
can be compiled. -/
lemma exists_decodeTriple_substitute_iff (v : Vocabulary) (name pattern source : String) :
    (∃ g, decodeTriple v name pattern source = .ok g ∧ g.kind = .substitute ∧ g.name = name) ↔
      pattern ≠ mappingKeyword ∧ ∃ s, compileSubstitution pattern source = .ok s := by
  constructor
  · rintro ⟨g, hg, hkind, -⟩
    obtain ⟨-, ⟨-, hmapped⟩ | ⟨hpattern, -⟩⟩ := decodeTriple_cases hg
    · rw [hmapped] at hkind
      cases hkind
    · rw [decodeTriple, if_neg hpattern] at hg
      exact ⟨hpattern, exists_bind_pure_eq_ok.mp ⟨g, hg⟩⟩
  · rintro ⟨hpattern, s, hs⟩
    refine ⟨.substitute name s, ?_, rfl, rfl⟩
    rw [decodeTriple, if_neg hpattern, hs]
    rfl

/-- Four texts of which the last one names a transform are read as a replacement that is transformed. -/
lemma decodeQuadruple_eq_ok {v : Vocabulary} {token : String} {t : Transform}
    (htoken : v.transforms.find? token = some t) {name pattern source : String} {g : FieldSpec} :
    decodeQuadruple v name pattern source token = .ok g ↔
      ∃ s, compileSubstitution pattern source = .ok s ∧ g = .substituteTransform name s t := by
  rw [decodeQuadruple, htoken, bind_eq_ok]
  exact exists_congr fun s => and_congr_right' (pure_eq_ok.trans eq_comm)

lemma keepsKind_of_exportable {f : FieldSpec} (h : f.Exportable) : f.KeepsKind := by
  have hsearch : ∀ s : Substitution, s.search.Exportable → s.ReadsAgain :=
    fun s hs => ((exportable_iff _).mp hs).imp_right .inl
  cases f with
  | substitute name s => exact ⟨h.2, hsearch s h.1⟩
  | substituteTransform name s t => exact hsearch s h
  | _ => trivial

/-- What is written for an accepted specification is read as a specification of the same kind and with
the same name exactly if it keeps its kind. Whatever else is read has the same name all the same, and is
a lookup in the place of a replacement. -/
theorem decode_encode_kind_iff {v : Vocabulary} (hv : v.OwnNames) {spec : Json} {f : FieldSpec}
    (h : decode v spec = .ok f) :
    ((∃ g, decode v f.encode = .ok g ∧ g.kind = f.kind ∧ g.name = f.name) ↔ f.KeepsKind) ∧
    ∀ g, decode v f.encode = .ok g → g.name = f.name ∧
      (g.kind = f.kind ∨ f.kind = .substitute ∧ g.kind = .mapped) := by
  by_cases hexport : f.Exportable
  · have hf := (decode_encode_iff hv h).mpr hexport
    refine ⟨iff_of_true ⟨f, hf, rfl, rfl⟩ (keepsKind_of_exportable hexport), fun g hg => ?_⟩
    rw [hf] at hg
    cases hg
    exact ⟨rfl, .inl rfl⟩
  -- Only replacements can fail to be exportable.
  cases decode_eq_ok.mp h with
  | copy hname => exact absurd trivial hexport
  | literal hname htoken hnear => exact absurd trivial hexport
  | transform hname htoken => exact absurd trivial hexport
  | mapped hname hkey => exact absurd trivial hexport
  | @substitute name pattern source s hname hpattern hs =>
    rw [encode, decode_three v hname, KeepsKind, ← exists_compileSubstitution_text_iff hs]
    refine ⟨exists_decodeTriple_substitute_iff v name _ _, fun g hg => ?_⟩
    obtain ⟨hname, ⟨-, hmapped⟩ | ⟨-, hkind⟩⟩ := decodeTriple_cases hg
    · exact ⟨hname, .inr ⟨rfl, hmapped⟩⟩
    · exact ⟨hname, .inl hkind⟩
  | @substituteTransform name pattern source token s t hname htoken hs =>
    rw [encode, hv.name_of_transform htoken, decode_four v hname, KeepsKind,
      ← exists_compileSubstitution_text_iff hs]
    simp only [decodeQuadruple_eq_ok htoken]
    refine ⟨⟨?_, ?_⟩, ?_⟩
    · rintro ⟨_, ⟨s', hs', rfl⟩, -, -⟩
      exact ⟨s', hs'⟩
    · rintro ⟨s', hs'⟩
      exact ⟨_, ⟨s', hs', rfl⟩, rfl, rfl⟩
    · rintro _ ⟨s', -, rfl⟩
      exact ⟨rfl, .inl rfl⟩

end

/-- The search pattern of this replacement looks delimited between its delimiters. -/
def slashedSearch : Json := .ofTexts ["name", "//(fox)//", "<$1>"]

/-- It is read again without the slashes, and the template is one for what is left. -/
theorem decode_encode_kind_slashes : ({} : Vocabulary).OwnNames ∧
    ∃ f g, decode {} slashedSearch = .ok f ∧ decode {} f.encode = .ok g ∧ g ≠ f ∧ f.KeepsKind := by
  have hv : ({} : Vocabulary).OwnNames := by decide
  have hany : (decode {} slashedSearch).toOption.any (fun f => (decode {} f.encode).toOption.any
      fun g => decide (g.kind = f.kind ∧ g.name = f.name ∧ g.encode ≠ f.encode)) = true := by
    decide +kernel
  obtain ⟨f, hf, h⟩ := exists_ok_of_any hany
  obtain ⟨g, hg, h⟩ := exists_ok_of_any h
  obtain ⟨hkind, hname, hencode⟩ := of_decide_eq_true h
  obtain ⟨hkeeps, -⟩ := decode_encode_kind_iff hv hf
  exact ⟨hv, f, g, hf, hg, fun heq => hencode (congrArg encode heq),
    hkeeps.mp ⟨g, hg, hkind, hname⟩⟩

/-- A replacement that searches for the keyword of lookups, which stands between delimiters. -/
def slashedKeyword : Json := .ofTexts ["name", "/mapping/", "windows"]

/-- A replacement whose search pattern is refused without the slashes around it. -/
def slashedFlag : Json := .ofTexts ["name", "//fox/b/", "<$0>"]

/-- A replacement comes back as a lookup, and another one does not come back at all. -/
theorem substitutions_lost_by_encode :
    (∃ f g, decode {} slashedKeyword = .ok f ∧ f.kind = .substitute ∧
      decode {} f.encode = .ok g ∧ g.kind = .mapped) ∧
    ∃ f, decode {} slashedFlag = .ok f ∧ f.kind = .substitute ∧
      decode {} f.encode = refuse (.unsupportedFlag 'b' "/fox/b") := by
  constructor
  · have hany : (decode {} slashedKeyword).toOption.any (fun f => decide (f.kind = .substitute ∧
        (decode {} f.encode).toOption.any (fun g => decide (g.kind = .mapped)))) = true := by
      rfl
    obtain ⟨f, hf, h⟩ := exists_ok_of_any hany
    obtain ⟨hkind, h⟩ := of_decide_eq_true h
    obtain ⟨g, hg, h⟩ := exists_ok_of_any h
    exact ⟨f, g, hf, hkind, hg, of_decide_eq_true h⟩
  · have hany : (decode {} slashedFlag).toOption.any (fun f => decide (f.kind = .substitute ∧
        decode {} f.encode = refuse (.unsupportedFlag 'b' "/fox/b"))) = true := by
      rfl
    obtain ⟨f, hf, h⟩ := exists_ok_of_any hany
    obtain ⟨hkind, h⟩ := of_decide_eq_true h
    exact ⟨f, hf, hkind, h⟩

end FieldSpec

end UserAgent
