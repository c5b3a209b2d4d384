import Std.Data.String.ToNat
import UserAgent.Proofs.Overruns
import UserAgent.Proofs.RuleLayouts

/-!
# Which faults of rules are reported

A report is to name every rule that is at fault. It does so as long as the entries of the category can
be split into rules: an entry that is no pair of patterns and specifications is reported where it is the
first one, and then masks all other faults of its category (`Validation.fault_reported_iff`).
-/

namespace UserAgent

open Compiled

/-! ### Faults and their places -/

namespace Finding

/-- The words for a fault begin with the place of a rule. -/
def Locates (f : Finding) (category : String) (index : Nat) : Prop :=
  (RuleError.location category index).toList <+: f.message.toList

instance (f : Finding) (category : String) (index : Nat) : Decidable (f.Locates category index) :=
  inferInstanceAs (Decidable (_ <+: _))

/-- The index of the rule that a fault is about, if it is about one. -/
def index? : Finding → Option Nat
  | badLayout (.notPair _ index) | badRule _ index _ | badSpec _ index _ _
  | duplicateField _ index _ _ => some index
  | _ => none

/-- The faults that are found in the rules of a category. -/
inductive Of (category : String) : Finding → Prop where
  | rulesNotList : Of category (.rulesNotList category)
  | oddEntries (count : Nat) : Of category (.badLayout (.oddEntries category count))
  | notPair (index : Nat) : Of category (.badLayout (.notPair category index))
  | badRule (index : Nat) (error : RuleError) : Of category (.badRule category index error)
  | badSpec (index position : Nat) (error : RuleError) :
    Of category (.badSpec category index position error)
  | duplicateField (index position : Nat) (field : String) :
    Of category (.duplicateField category index position field)

/-! ### Texts of places -/

/-- Two texts that go on after their letters begin with the same letters if one begins the other. -/
lemma eq_of_append_cons_isPrefix {p : Char → Bool} {as bs xs ys : List Char} {x y : Char}
    (has : ∀ a ∈ as, p a = true) (hbs : ∀ b ∈ bs, p b = true) (hx : p x = false) (hy : p y = false)
    (h : as ++ x :: xs <+: bs ++ y :: ys) : as = bs ∧ x = y ∧ xs <+: ys := by
  induction as generalizing bs with
  | nil =>
    cases bs with
    | nil => simpa using List.cons_prefix_cons.mp h
    | cons b bs =>
      obtain ⟨rfl, -⟩ := List.cons_prefix_cons.mp h
      simp [hbs x List.mem_cons_self] at hx
  | cons a as ih =>
    cases bs with
    | nil =>
      obtain ⟨rfl, -⟩ := List.cons_prefix_cons.mp h
      simp [has a List.mem_cons_self] at hy
    | cons b bs =>
      obtain ⟨rfl, hprefix⟩ := List.cons_prefix_cons.mp h
      obtain ⟨rfl, hxy, hrest⟩ := ih (fun c hc => has c (List.mem_cons_of_mem _ hc))
        (fun c hc => hbs c (List.mem_cons_of_mem _ hc)) hprefix
      exact ⟨rfl, hxy, hrest⟩

lemma toList_location (category : String) (index : Nat) :
    (RuleError.location category index).toList =
      category.toList ++ '[' :: ((toString index).toList ++ [']']) := by
  simp [RuleError.location]

/-- The name of a category has small letters only. -/
lemma isLower_of_mem_name (c : Category) : ∀ letter ∈ c.name.toList, letter.isLower = true := by
  have hall : c.name.toList.all Char.isLower = true := by cases c <;> rfl
  simpa using hall

lemma isDigit_of_mem_toString (n : Nat) : ∀ digit ∈ (toString n).toList, digit.isDigit = true := by
  intro digit hdigit
  refine Nat.isDigit_of_mem_toDigits (b := 10) (by omega) (by omega) (n := n) ?_
  simpa [toString, Nat.repr] using hdigit

/-- The place of a rule begins with no other place. -/
lemma location_isPrefix_iff {c d : Category} {i j : Nat} {rest : List Char} :
    (RuleError.location c.name i).toList <+: (RuleError.location d.name j).toList ++ rest ↔
      c = d ∧ i = j := by
  constructor
  · intro h
    simp only [toList_location, List.append_assoc, List.cons_append] at h
    obtain ⟨hname, -, h⟩ := eq_of_append_cons_isPrefix (isLower_of_mem_name c)
      (isLower_of_mem_name d) (by decide) (by decide) h
    obtain ⟨hindex, -, -⟩ := eq_of_append_cons_isPrefix (isDigit_of_mem_toString i)
      (isDigit_of_mem_toString j) (by decide) (by decide) h
    exact ⟨Category.name_injective (String.toList_inj.mp hname),
      Nat.repr_inj.mp (String.toList_inj.mp hindex)⟩
  · rintro ⟨rfl, rfl⟩
    exact List.prefix_append _ _

/-- A message on a whole category begins with no place. -/
lemma not_location_isPrefix_colon {c d : Category} {i : Nat} {rest : List Char} :
    ¬ (RuleError.location c.name i).toList <+: d.name.toList ++ ':' :: rest := by
  intro h
  rw [toList_location] at h
  obtain ⟨-, hmark, -⟩ := eq_of_append_cons_isPrefix (isLower_of_mem_name c)
    (isLower_of_mem_name d) (by decide) (by decide) h
  cases hmark

/-- A message that begins with a capital letter begins with no place. -/
lemma not_location_isPrefix_capital {c : Category} {i : Nat} (letter : Char) {rest : List Char}
    (hletter : letter.isLower = false) :
    ¬ (RuleError.location c.name i).toList <+: letter :: rest := by
  intro h
  rw [toList_location, ← List.nil_append (letter :: rest)] at h
  obtain ⟨hname, -, -⟩ := eq_of_append_cons_isPrefix (isLower_of_mem_name c) (by simp) (by decide)
    hletter h
  cases c <;> simp [Category.name] at hname

lemma not_locates_missingVersion {c : Category} {i : Nat} : ¬ missingVersion.Locates c.name i := by
  have hmessage : missingVersion.message = "Missing 'version' field in file metadata" := rfl
  rw [Locates, hmessage]
  exact not_location_isPrefix_capital 'M' (by decide)

lemma not_locates_unknownCategory {key : String} {c : Category} {i : Nat} :
    ¬ (unknownCategory key).Locates c.name i := by
  have hmessage : (unknownCategory key).message = "Unknown category '" ++ key ++
    "', must be one of " ++ (Json.ofTexts sortedCategoryNames).display := rfl
  rw [Locates, hmessage, String.toList_append, String.toList_append, String.toList_append]
  exact not_location_isPrefix_capital 'U' (by decide)

/-- A fault in the rules of a category names the rule that it is about. -/
lemma Of.locates_iff {f : Finding} {c d : Category} (h : f.Of d.name) {i : Nat} :
    f.Locates c.name i ↔ c = d ∧ f.index? = some i := by
  -- A message begins with the place of a rule, or with the category alone.
  have hplace : ∀ {g : Finding} {j : Nat} (rest : String), g.index? = some j →
      g.message = RuleError.location d.name j ++ rest →
      (g.Locates c.name i ↔ c = d ∧ g.index? = some i) := by
    intro g j rest hindex hmessage
    rw [Locates, hmessage, String.toList_append, location_isPrefix_iff, hindex, Option.some_inj,
      eq_comm (a := i)]
  have hwhole : ∀ {g : Finding} (rest : String), g.index? = none →
      g.message = d.name ++ (":" ++ rest) → (g.Locates c.name i ↔ c = d ∧ g.index? = some i) := by
    intro g rest hindex hmessage
    rw [Locates, hmessage, String.toList_append, String.toList_append, hindex]
    simpa using not_location_isPrefix_colon
  cases h with
  | rulesNotList => exact hwhole " rules must be a list" rfl rfl
  | oddEntries count =>
    refine hwhole (" flat rule list must alternate patterns and field specs (got " ++
      (toString count ++ " entries)")) rfl ?_
    show d.name ++ ": flat rule list must alternate patterns and field specs (got " ++
      toString count ++ " entries)" = _
    simp [← String.toList_inj]
  | notPair j => exact hplace ": rule must be a [patterns, field_specs] pair" rfl rfl
  | badRule j e =>
    refine hplace (": " ++ e.message) rfl ?_
    show RuleError.location d.name j ++ ": " ++ e.message = _
    rw [String.append_assoc]
  | badSpec j position e =>
    refine hplace (" spec " ++ (toString position ++ (": " ++ e.message))) rfl ?_
    show RuleError.location d.name j ++ " spec " ++ toString position ++ ": " ++ e.message = _
    simp only [String.append_assoc]
  | duplicateField j position field =>
    refine hplace (" spec " ++ (toString position ++ (": " ++ ("duplicate field '" ++
      (field ++ "'"))))) rfl ?_
    show RuleError.location d.name j ++ " spec " ++ toString position ++ ": " ++
      "duplicate field '" ++ field ++ "'" = _
    simp only [String.append_assoc]

end Finding

/-! ### Layouts -/

namespace RuleGroup

/-- A list has the paired layout if its first entry is a rule. -/
def IsPaired (entries : List Json) : Prop :=
  ∃ first, entries.head? = some first ∧ isPair first = true

/-- The entry at an index is no list of two elements. -/
def Misfit (entries : List Json) (i : Nat) : Prop :=
  ∃ entry, entries[i]? = some entry ∧ ∀ patterns specs, entry ≠ .arr [patterns, specs]

/-- The patterns and the specifications of a rule, where the layout of the list has them. -/
inductive RuleAt (entries : List Json) (i : Nat) (patterns specs : Json) : Prop where
  | paired (hlayout : IsPaired entries) (hentry : entries[i]? = some (.arr [patterns, specs]))
  | flat (hlayout : ¬IsPaired entries) (hpatterns : entries[2 * i]? = some patterns)
    (hspecs : entries[2 * i + 1]? = some specs)

/-- How a list is split: into its rules, or not at all because of its length or of its first misfit. -/
inductive SplitsAs (category : String) (entries : List Json) :
    Compiled (List (Json × Json)) → Prop where
  | rules {pairs : List (Json × Json)} (hpaired : IsPaired entries → ∀ j, ¬Misfit entries j)
    (hflat : ¬IsPaired entries → entries.length % 2 = 0)
    (hrules : ∀ {i patterns specs}, RuleAt entries i patterns specs →
      pairs[i]? = some (patterns, specs)) : SplitsAs category entries (.ok pairs)
  | odd (hlayout : ¬IsPaired entries) (hodd : entries.length % 2 = 1) :
    SplitsAs category entries (refuse (.oddEntries category entries.length))
  | misfit {j : Nat} (hlayout : IsPaired entries) (hj : Misfit entries j)
    (hfirst : ∀ k < j, ¬Misfit entries k) : SplitsAs category entries (refuse (.notPair category j))

variable {category : String} {entries : List Json} {pairs : List (Json × Json)}

/-- A list of two is no misfit. -/
lemma not_misfit_arr {patterns specs : Json} : ¬Misfit (.arr [patterns, specs] :: entries) 0 := by
  rintro ⟨entry, hentry, h⟩
  cases hentry
  exact h patterns specs rfl

/-- Entries that each are a list of two elements are split; else the first that is not one is named. -/
lemma splitPaired_cases (category : String) (index : Nat) (entries : List Json) :
    (∃ pairs, splitPaired category index entries = .ok pairs ∧ entries = pairedEntries pairs) ∨
      ∃ j, splitPaired category index entries = refuse (.notPair category (index + j)) ∧
        Misfit entries j ∧ ∀ k < j, ¬Misfit entries k := by
  induction entries generalizing index with
  | nil => exact .inl ⟨[], rfl, rfl⟩
  | cons entry rest ih =>
    by_cases hentry : ∃ patterns specs, entry = .arr [patterns, specs]
    · obtain ⟨patterns, specs, rfl⟩ := hentry
      rw [splitPaired]
      rcases ih (index + 1) with ⟨pairs, hsplit, rfl⟩ | ⟨j, hsplit, hj, hfirst⟩
      · rw [hsplit]
        exact .inl ⟨(patterns, specs) :: pairs, rfl, rfl⟩
      · rw [hsplit]
        have hindex : index + (j + 1) = index + 1 + j := by omega
        refine .inr ⟨j + 1, by rw [hindex]; rfl, hj, ?_⟩
        intro k hk
        cases k with
        | zero => exact not_misfit_arr
        | succ k => exact hfirst k (by omega)
    · have hmisfit : ∀ patterns specs, entry ≠ .arr [patterns, specs] := by
        intro patterns specs h
        exact hentry ⟨patterns, specs, h⟩
      refine .inr ⟨0, ?_, ⟨entry, rfl, hmisfit⟩, fun k hk => absurd hk (Nat.not_lt_zero k)⟩
      rw [splitPaired]
      · rfl
      · exact hmisfit

/-- The rule at a place of a flat list stands at twice that place. -/
lemma getElem?_splitFlat {i : Nat} {patterns specs : Json} (hpatterns : entries[2 * i]? = some patterns)
    (hspecs : entries[2 * i + 1]? = some specs) :
    (splitFlat entries)[i]? = some (patterns, specs) := by
  induction i generalizing entries with
  | zero =>
    rcases entries with _ | ⟨p, _ | ⟨s, rest⟩⟩
    · cases hpatterns
    · cases hspecs
    · cases hpatterns
      cases hspecs
      rfl
  | succ i ih =>
    rcases entries with _ | ⟨p, _ | ⟨s, rest⟩⟩
    · cases hpatterns
    · cases hspecs
    · exact ih hpatterns hspecs

lemma not_misfit_pairedEntries (j : Nat) : ¬Misfit (pairedEntries pairs) j := by
  rintro ⟨entry, hentry, h⟩
  obtain ⟨pair, -, rfl⟩ := List.mem_map.mp (List.mem_of_getElem? hentry)
  exact h pair.1 pair.2 rfl

/-- The entries of a category are split in one of three ways: as pairs, in turn, or not at all, and
then the first misfit is to blame. -/
theorem splitsAs_split (category : String) (entries : List Json) :
    SplitsAs category entries (split category entries) := by
  cases entries with
  | nil =>
    refine .rules ?_ (fun _ => rfl) ?_
    · rintro - j ⟨entry, hentry, -⟩
      cases hentry
    · intro i patterns specs hrule
      cases hrule with
      | paired _ hentry => cases hentry
      | flat _ hpatterns _ => cases hpatterns
  | cons first rest =>
    rw [split]
    split_ifs with hfirst hodd
    · -- The first entry looks like a pair, so all of them have to be pairs.
      have hlayout : IsPaired (first :: rest) := ⟨first, rfl, hfirst⟩
      rcases splitPaired_cases category 0 (first :: rest) with
        ⟨pairs, hsplit, hentries⟩ | ⟨j, hsplit, hj, hfirst⟩
      · rw [hsplit]
        refine .rules ?_ (fun hflat => absurd hlayout hflat) ?_
        · rw [hentries]
          exact fun _ => not_misfit_pairedEntries
        · intro i patterns specs hrule
          cases hrule with
          | paired _ hentry => simpa [hentries, pairedEntries] using hentry
          | flat hflat _ _ => exact absurd hlayout hflat
      · rw [hsplit, Nat.zero_add]
        exact .misfit hlayout hj hfirst
    · exact .odd (by simpa [IsPaired] using hfirst) (by simpa using hodd)
    · -- Otherwise patterns and specifications take turns, and there is an even number of entries.
      have hlayout : ¬IsPaired (first :: rest) := by simpa [IsPaired] using hfirst
      refine .rules (fun hpaired => absurd hpaired hlayout) ?_ ?_
      · intro _
        have hodd' : (first :: rest).length % 2 ≠ 1 := by simpa using hodd
        omega
      · intro i patterns specs hrule
        cases hrule with
        | paired hpaired _ => exact absurd hpaired hlayout
        | flat _ hpatterns hspecs => exact getElem?_splitFlat hpatterns hspecs

end RuleGroup

/-! ### Reports on rules -/

namespace Validation

open RuleGroup

variable {category : String} {findings : List Finding}

section

variable [CharacterNames]

/-- What is found in patterns names their rule. -/
lemma of_mem_patternFindings {index : Nat} {patterns : List Json}
    (h : patternFindings category index patterns = .ok findings) :
    ∀ f ∈ findings, f.Of category ∧ f.index? = some index := by
  induction patterns generalizing findings with
  | nil =>
    cases h
    simp
  | cons pattern rest ih =>
    rw [patternFindings] at h
    obtain ⟨result, -, h⟩ := bind_eq_ok.mp h
    cases result with
    | ok p => exact ih h
    | error e =>
      obtain ⟨others, hothers, h⟩ := bind_eq_ok.mp h
      cases h
      exact List.forall_mem_cons.mpr ⟨⟨.badRule index e, rfl⟩, ih hothers⟩

/-- What is found in specifications names their rule. -/
lemma of_mem_specFindings {index position : Nat} {seen : List String} {specs : List Json}
    (h : specFindings category index position seen specs = .ok findings) :
    ∀ f ∈ findings, f.Of category ∧ f.index? = some index := by
  induction specs generalizing position seen findings with
  | nil =>
    cases h
    simp
  | cons spec rest ih =>
    rw [specFindings] at h
    obtain ⟨result, -, h⟩ := bind_eq_ok.mp h
    cases result with
    | error e =>
      obtain ⟨others, hothers, h⟩ := bind_eq_ok.mp h
      cases h
      exact List.forall_mem_cons.mpr ⟨⟨.badSpec index position e, rfl⟩, ih hothers⟩
    | ok field =>
      obtain ⟨others, hothers, h⟩ := bind_eq_ok.mp h
      split_ifs at h
      · cases h
        exact List.forall_mem_cons.mpr
          ⟨⟨.duplicateField index position field.name, rfl⟩, ih hothers⟩
      · cases h
        exact ih hothers

/-- All faults that are found in a rule are about this rule. -/
lemma of_mem_ruleFindings {index : Nat} {patterns specs : Json}
    (h : ruleFindings category index patterns specs = .ok findings) :
    ∀ f ∈ findings, f.Of category ∧ f.index? = some index := by
  rw [ruleFindings] at h
  obtain ⟨patternFaults, hpatterns, h⟩ := bind_eq_ok.mp h
  obtain ⟨specFaults, hspecs, h⟩ := bind_eq_ok.mp h
  obtain rfl := pure_eq_ok.mp h
  refine List.forall_mem_append.mpr ⟨?_, ?_⟩
  · rw [patternsFindings] at hpatterns
    split at hpatterns
    · cases hpatterns
      simpa using ⟨Finding.Of.badRule index .noPatterns, rfl⟩
    · exact of_mem_patternFindings hpatterns
  · cases specs with
    | arr items => exact of_mem_specFindings hspecs
    | _ =>
      cases hspecs
      simpa using ⟨Finding.Of.badRule index .specsNotList, rfl⟩

/-- A fault is found in a rule that is refused. -/
lemma exists_mem_ruleFindings {index : Nat} {patterns specs : Json} {e : RuleError}
    (h : ruleFindings category index patterns specs = .ok findings)
    (hrefused : Rule.compile strictVocabulary patterns specs = refuse e) :
    ∃ f ∈ findings, f.Of category ∧ f.index? = some index := by
  cases findings with
  | nil =>
    obtain ⟨rule, hrule, -⟩ := ruleFindings_eq_nil.mp h
    rw [hrule] at hrefused
    cases hrefused
  | cons f others => exact ⟨f, List.mem_cons_self, of_mem_ruleFindings h f List.mem_cons_self⟩

/-- What is found in rules names their category. -/
lemma of_mem_rulesFindings {index : Nat} {pairs : List (Json × Json)}
    (h : rulesFindings category index pairs = .ok findings) : ∀ f ∈ findings, f.Of category := by
  induction pairs generalizing index findings with
  | nil =>
    cases h
    simp
  | cons pair rest ih =>
    rw [rulesFindings] at h
    obtain ⟨first, hfirst, h⟩ := bind_eq_ok.mp h
    obtain ⟨others, hothers, h⟩ := bind_eq_ok.mp h
    obtain rfl := pure_eq_ok.mp h
    exact List.forall_mem_append.mpr
      ⟨fun f hf => (of_mem_ruleFindings hfirst f hf).1, ih hothers⟩

/-- Of every rule that is refused a fault is found. -/
lemma exists_mem_rulesFindings {index i : Nat} {pairs : List (Json × Json)} {patterns specs : Json}
    {e : RuleError} (h : rulesFindings category index pairs = .ok findings)
    (hpair : pairs[i]? = some (patterns, specs))
    (hrefused : Rule.compile strictVocabulary patterns specs = refuse e) :
    ∃ f ∈ findings, f.Of category ∧ f.index? = some (index + i) := by
  induction pairs generalizing index i findings with
  | nil => cases hpair
  | cons pair rest ih =>
    rw [rulesFindings] at h
    obtain ⟨first, hfirst, h⟩ := bind_eq_ok.mp h
    obtain ⟨others, hothers, h⟩ := bind_eq_ok.mp h
    obtain rfl := pure_eq_ok.mp h
    cases i with
    | zero =>
      cases hpair
      obtain ⟨f, hf, hplace⟩ := exists_mem_ruleFindings hfirst hrefused
      exact ⟨f, List.mem_append_left _ hf, hplace⟩
    | succ i =>
      obtain ⟨f, hf, hof, hindex⟩ := ih hothers hpair
      refine ⟨f, List.mem_append_right _ hf, hof, ?_⟩
      rw [hindex, Nat.add_right_comm, Nat.add_assoc]

/-! ### Reports on categories -/

/-- The entry at an index is no rule where it has to be one, or it holds a rule that is refused. -/
inductive AtFault (entries : List Json) (i : Nat) : Prop where
  | misfit (hlayout : IsPaired entries) (hentry : Misfit entries i)
  | refused {patterns specs : Json} {e : RuleError} (hrule : RuleAt entries i patterns specs)
    (hrefused : Rule.compile strictVocabulary patterns specs = refuse e)

/-- The layout hides the fault of an entry: the list cannot be split, and not because of this entry. -/
inductive Masked (entries : List Json) (i : Nat) : Prop where
  | odd (hlayout : ¬IsPaired entries) (hodd : entries.length % 2 = 1)
  | misfit {j : Nat} (hlayout : IsPaired entries) (hj : Misfit entries j)
    (hi : j < i ∨ ¬Misfit entries i)

/-- So does all that is found in the value of a category. -/
lemma of_mem_categoryReport {value : Json} {report : ValidationReport}
    (h : categoryReport category value = .ok report) : ∀ f ∈ report.findings, f.Of category := by
  cases value with
  | arr entries =>
    rw [categoryReport] at h
    obtain ⟨result, hsplit, h⟩ := bind_eq_ok.mp h
    have hlayout := splitsAs_split category entries
    cases result with
    | ok pairs =>
      obtain ⟨findings, hfindings, h⟩ := bind_eq_ok.mp h
      cases h
      exact of_mem_rulesFindings hfindings
    | error e =>
      cases h
      generalize split category entries = result at hsplit hlayout
      cases hlayout with
      | rules => cases hsplit
      | odd =>
        cases hsplit
        simpa using Finding.Of.oddEntries _
      | misfit =>
        cases hsplit
        simpa using Finding.Of.notPair _
  | _ =>
    cases h
    simpa using Finding.Of.rulesNotList

/-- The report on a category names the rule at an index that is at fault, unless the layout hides it. -/
theorem exists_locates_categoryReport {c : Category} {entries : List Json} {i : Nat}
    {report : ValidationReport} (h : categoryReport c.name (.arr entries) = .ok report)
    (hfault : AtFault entries i) :
    (∃ f ∈ report.findings, f.Locates c.name i) ↔ ¬Masked entries i := by
  rw [categoryReport] at h
  have hlayout := splitsAs_split c.name entries
  generalize split c.name entries = result at h hlayout
  cases hlayout with
  | @rules pairs hpaired hflat hrules =>
    obtain ⟨_, hpairs, h⟩ := bind_eq_ok.mp h
    cases hpairs
    obtain ⟨findings, hfindings, h⟩ := bind_eq_ok.mp h
    cases h
    -- All rules are looked at, so the one at fault is among the findings, and nothing masks it.
    refine iff_of_true ?_ ?_
    · cases hfault with
      | misfit hlayout hentry => exact absurd hentry (hpaired hlayout i)
      | refused hrule hrefused =>
        obtain ⟨f, hf, hof, hindex⟩ := exists_mem_rulesFindings hfindings (hrules hrule) hrefused
        rw [Nat.zero_add] at hindex
        exact ⟨f, hf, hof.locates_iff.mpr ⟨rfl, hindex⟩⟩
    · rintro (⟨hlayout, hodd⟩ | ⟨hlayout, hj, -⟩)
      · rw [hflat hlayout] at hodd
        cases hodd
      · exact hpaired hlayout _ hj
  | odd hlayout hodd =>
    cases h
    -- One finding names the category and no entry.
    refine iff_of_false ?_ (not_not.mpr (.odd hlayout hodd))
    rintro ⟨f, hf, hlocates⟩
    obtain rfl := List.mem_singleton.mp hf
    obtain ⟨-, hindex⟩ := (Finding.Of.oddEntries _).locates_iff.mp hlocates
    cases hindex
  | @misfit j hlayout hj hfirst =>
    cases h
    -- One finding names the first misfit, which masks every other entry.
    have hof : (Finding.badLayout (.notPair c.name j)).Of c.name := .notPair j
    have hlocates : (∃ f ∈ [Finding.badLayout (.notPair c.name j)], f.Locates c.name i) ↔ j = i := by
      simp [hof.locates_iff, Finding.index?]
    rw [hlocates]
    constructor
    · rintro rfl (⟨hflat, -⟩ | ⟨-, hk, hkj | hmisfit⟩)
      · exact hflat hlayout
      · exact hfirst _ hkj hk
      · exact hmisfit hj
    · intro hmasked
      by_contra hne
      rcases Nat.lt_or_ge j i with hlt | hge
      · exact hmasked (.misfit hlayout hj (.inl hlt))
      · exact hmasked (.misfit hlayout hj (.inr (hfirst i (by omega))))

/-! ### Reports on tables -/

variable {c : Category} {i : Nat}

lemma memberReport_name (c : Category) (value : Json) :
    memberReport c.name value = categoryReport c.name value := by
  rw [memberReport, if_neg, if_pos]
  · simpa using ⟨c, Category.mem_all c, rfl⟩
  · simpa using not_mem_metadataKeys c

/-- The report on another member of a table names no rule of a category. -/
lemma not_locates_of_memberReport {key : String} {value : Json} {report : ValidationReport}
    (h : memberReport key value = .ok report) (hkey : key ≠ c.name) :
    ∀ f ∈ report.findings, ¬f.Locates c.name i := by
  rw [memberReport] at h
  split_ifs at h with hmeta hname
  · cases h
    simp
  · obtain ⟨d, -, rfl⟩ := List.mem_map.mp (List.contains_iff_mem.mp hname)
    intro f hf hlocates
    obtain ⟨rfl, -⟩ := (of_mem_categoryReport h f hf).locates_iff.mp hlocates
    exact hkey rfl
  · cases h
    simpa using Finding.not_locates_unknownCategory

lemma membersReport_cons_eq_ok {key : String} {value : Json} {rest : List (String × Json)}
    {report : ValidationReport} (h : membersReport ((key, value) :: rest) = .ok report) :
    ∃ first others, memberReport key value = .ok first ∧ membersReport rest = .ok others ∧
      report.findings = first.findings ++ others.findings := by
  rw [membersReport] at h
  obtain ⟨first, hfirst, h⟩ := bind_eq_ok.mp h
  obtain ⟨others, hothers, h⟩ := bind_eq_ok.mp h
  obtain rfl := pure_eq_ok.mp h
  exact ⟨first, others, hfirst, hothers, rfl⟩

/-- No finding names a category that is no key of the table. -/
lemma not_locates_of_membersReport {members : List (String × Json)} {report : ValidationReport}
    (h : membersReport members = .ok report) (hkeys : c.name ∉ Assoc.keys members) :
    ∀ f ∈ report.findings, ¬f.Locates c.name i := by
  induction members generalizing report with
  | nil =>
    cases h
    simp
  | cons member rest ih =>
    obtain ⟨key, value⟩ := member
    obtain ⟨hkey, hrest⟩ := not_or.mp (mt List.mem_cons.mpr hkeys)
    obtain ⟨first, others, hfirst, hothers, heq⟩ := membersReport_cons_eq_ok h
    rw [heq]
    exact List.forall_mem_append.mpr
      ⟨not_locates_of_memberReport hfirst (Ne.symm hkey), ih hothers hrest⟩

/-- Of a table whose keys are given once each, the report on a category decides which of its rules
are named. -/
lemma exists_categoryReport_of_mem {members : List (String × Json)} {report : ValidationReport}
    (hnodup : (Assoc.keys members).Nodup) (h : membersReport members = .ok report) {value : Json}
    (hmem : (c.name, value) ∈ members) : ∃ own, categoryReport c.name value = .ok own ∧
      ∀ i, (∃ f ∈ report.findings, f.Locates c.name i) ↔ ∃ f ∈ own.findings, f.Locates c.name i := by
  induction members generalizing report with
  | nil => cases hmem
  | cons member rest ih =>
    obtain ⟨key, other⟩ := member
    obtain ⟨hkey, hrest⟩ := List.nodup_cons.mp hnodup
    obtain ⟨first, others, hfirst, hothers, heq⟩ := membersReport_cons_eq_ok h
    simp only [heq, List.mem_append, or_and_right, exists_or]
    rcases List.mem_cons.mp hmem with hhead | htail
    · cases hhead
      rw [memberReport_name] at hfirst
      refine ⟨first, hfirst, fun i => or_iff_left ?_⟩
      rintro ⟨f, hf, hlocates⟩
      exact not_locates_of_membersReport hothers hkey f hf hlocates
    · obtain ⟨own, hown, hiff⟩ := ih hrest hothers htail
      refine ⟨own, hown, fun i => (or_iff_right ?_).trans (hiff i)⟩
      rintro ⟨f, hf, hlocates⟩
      refine not_locates_of_memberReport hfirst ?_ f hf hlocates
      rintro rfl
      exact hkey (List.mem_map.mpr ⟨_, htail, rfl⟩)

/-- The words on a version that is missing name no rule. -/
lemma tableReport_eq_ok {members : List (String × Json)} {report : ValidationReport}
    (h : tableReport (.obj members) = .ok report) : ∃ inner, membersReport members = .ok inner ∧
      ∀ (c : Category) i, (∃ f ∈ report.findings, f.Locates c.name i) ↔
        ∃ f ∈ inner.findings, f.Locates c.name i := by
  rw [tableReport] at h
  obtain ⟨inner, hinner, h⟩ := bind_eq_ok.mp h
  refine ⟨inner, hinner, fun c i => ?_⟩
  split_ifs at h
  · cases h
    rfl
  · cases h
    simp [Finding.not_locates_missingVersion]

/-- A rule of a file that is at fault is named in the report exactly if there is a report, since all
patterns that are compiled for it are decided, and the layout of its category does not hide it. As
for the patterns that are decided, no limit on nesting is taken into account. -/
theorem fault_reported_iff {machine : Machine} {path : Path} {text : String}
    {members : List (String × Json)} (htext : machine.textAt path = .ok text)
    (hparse : Json.parse text = .ok (.obj members)) {entries : List Json}
    (hmem : (c.name, .arr entries) ∈ members) (hfault : AtFault entries i) :
    (∃ report, (fileReport (m := StateM Machine) path machine).1 = .ok report ∧
        ∃ f ∈ report.findings, f.Locates c.name i) ↔
      (∀ p ∈ tableTexts (.obj members), Pattern.Decided p) ∧ ¬Masked entries i := by
  -- Findings on other categories do not name this one, and its own ones name the entry unless it is
  -- masked.
  have hnamed : ∀ {report}, textReport text = .ok report →
      ((∃ f ∈ report.findings, f.Locates c.name i) ↔ ¬Masked entries i) := by
    intro report h
    rw [textReport, hparse] at h
    obtain ⟨inner, hinner, hiff⟩ := tableReport_eq_ok h
    obtain ⟨own, hown, hown_iff⟩ :=
      exists_categoryReport_of_mem (Json.nodup_keys_of_parse hparse) hinner hmem
    rw [hiff, hown_iff, exists_locates_categoryReport hown hfault]
  -- Whether there is a report at all is a matter of the patterns.
  have hexists : (∃ report, textReport text = .ok report) ↔
      ∀ p ∈ tableTexts (.obj members), Pattern.Decided p := by
    rw [exists_textReport]
    simp [hparse]
  simp only [fileReport_eq_ok, htext, Except.ok.injEq, exists_eq_left']
  constructor
  · rintro ⟨report, hreport, hlocates⟩
    exact ⟨hexists.mp ⟨report, hreport⟩, (hnamed hreport).mp hlocates⟩
  · rintro ⟨hdecided, hmasked⟩
    obtain ⟨report, hreport⟩ := hexists.mpr hdecided
    exact ⟨report, hreport, (hnamed hreport).mpr hmasked⟩

end

/-- Entries for browsers: a rule whose pattern is refused, and two that are no rules. -/
def misfits : List Json :=
  [.arr [.ofTexts ["("], .ofTexts ["name"]], .int 1, .int 2]

/-- The text of a table with these entries. -/
def misfitsText : String :=
  "\x7b\"version\": \"1\", \"browser\": [[[\"(\"], [\"name\"]], 1, 2]\x7d"

/-- A machine with a file that holds it. -/
def misfitsMachine : Machine where
  files := { entries := [(["misfits.json"], .file (Utf8.encode misfitsText))] }

/-- That table. -/
def misfitsMembers : List (String × Json) :=
  [("version", .str "1"), ("browser", .arr misfits)]

lemma misfits_read : misfitsMachine.textAt (.ofText "misfits.json") = .ok misfitsText ∧
    Json.parse misfitsText = .ok (.obj misfitsMembers) ∧
    Rule.compile strictVocabulary (.ofTexts ["("]) (.ofTexts ["name"]) =
      refuse (.malformedPattern "(") ∧
    (fileReport (m := StateM Machine) (.ofText "misfits.json") misfitsMachine).1 =
      .ok ⟨0, [.badLayout (.notPair "browser" 1)]⟩ := by
  decide +kernel

lemma isPaired_misfits : IsPaired misfits := ⟨_, rfl, rfl⟩

lemma misfit_misfits {i : Nat} (hi : i = 1 ∨ i = 2) : Misfit misfits i := by
  rcases hi with rfl | rfl
  · exact ⟨.int 1, rfl, by simp⟩
  · exact ⟨.int 2, rfl, by simp⟩

/-- The first entry that is no rule is named. -/
theorem fault_reported_iff_firstMisfit :
    misfitsMachine.textAt (.ofText "misfits.json") = .ok misfitsText ∧
      Json.parse misfitsText = .ok (.obj misfitsMembers) ∧
      (Category.browser.name, .arr misfits) ∈ misfitsMembers ∧ AtFault misfits 1 ∧
      ∃ report, (fileReport (m := StateM Machine) (.ofText "misfits.json") misfitsMachine).1 =
        .ok report ∧ ∃ f ∈ report.findings, f.Locates Category.browser.name 1 := by
  obtain ⟨htext, hparse, -⟩ := misfits_read
  have hmem : (Category.browser.name, Json.arr misfits) ∈ misfitsMembers := by
    simp [misfitsMembers, Category.name]
  have hfault : AtFault misfits 1 := .misfit isPaired_misfits (misfit_misfits (.inl rfl))
  have hmasked : ¬Masked misfits 1 := by
    rintro (⟨hflat, -⟩ | ⟨-, hj, hlt | hno⟩)
    · exact hflat isPaired_misfits
    · obtain rfl := Nat.lt_one_iff.mp hlt
      exact not_misfit_arr hj
    · exact hno (misfit_misfits (.inl rfl))
  -- no pattern is compiled for entries that are not split
  have htexts : tableTexts (.obj misfitsMembers) = [] := rfl
  refine ⟨htext, hparse, hmem, hfault, ?_⟩
  refine (fault_reported_iff htext hparse hmem hfault).mpr ⟨?_, hmasked⟩
  simp [htexts]

/-- The rule before it is at fault as well, and so is the entry after it, but neither is named. -/
theorem misfit_masks_faults :
    (Json.parse misfitsText = .ok (.obj misfitsMembers) ∧
      (Category.browser.name, .arr misfits) ∈ misfitsMembers ∧
      AtFault misfits 0 ∧ AtFault misfits 2) ∧
      ∃ report, (fileReport (m := StateM Machine) (.ofText "misfits.json") misfitsMachine).1 =
        .ok report ∧ ∀ i ∈ [0, 2], ∀ f ∈ report.findings, ¬f.Locates Category.browser.name i := by
  obtain ⟨-, hparse, hrefused, hreport⟩ := misfits_read
  refine ⟨⟨hparse, by simp [misfitsMembers, Category.name], ?_, ?_⟩, _, hreport, by decide⟩
  · exact .refused (.paired isPaired_misfits rfl) hrefused
  · exact .misfit isPaired_misfits (misfit_misfits (.inr rfl))

end Validation

end UserAgent
