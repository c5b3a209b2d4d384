import UserAgent.Output.ResultLog
import UserAgent.Proofs.Attempts
import UserAgent.Proofs.LetterCase
import UserAgent.Proofs.RefinedBrowsers
import UserAgent.Proofs.SeparateCategories

/-!
# Lines of the log of results

The log of results is meant to have one line for each user agent. The message of a classification is a
line exactly if the user agent, which it shows as it is, and the values that it shows are lines
(`ResultLog.isLine_classified_iff`). What a rule adds of its own to a value, such as the text of a
literal, is known from the rule; the rest of the value is taken from the user agent. So under rules
whose own texts are lines, as those of the built-in rule set are, the user agent alone decides.

The notes that are made on the way to a result quote what they take from the user agent, and each of
them is a line (`RuleSet.isLine_of_mem_classify`).
-/

namespace UserAgent

/-! ### Line breaks -/

namespace Unicode

/-- The code points that end a line. -/
def lineBreaks : List Nat :=
  [0x0a, 0x0b, 0x0c, 0x0d, 0x1c, 0x1d, 0x1e, 0x85, 0x2028, 0x2029]

/-- Whether the images of a run lie all above or all below a code point. -/
def Run.avoids (r : Run) (n : Nat) : Bool :=
  (n : Int) < r.first + r.distance || r.last + r.distance < n

/-- A character that no row of a table leads to is reached from itself only. -/
lemma Shifts.eq_of_apply_eq {s : Shifts} {n k : Nat} (hn : 0 < n)
    (hs : ∀ r ∈ s.runs.toList, r.avoids n = true) (hk : s.apply k = n) : k = n := by
  rcases s.apply_cases k with hkept | ⟨r, hr, hcontains, happly⟩
  · exact hkept.symm.trans hk
  · have havoids := hs r hr
    rw [happly, Run.apply] at hk
    simp only [Run.contains, Run.avoids, Bool.and_eq_true, Bool.or_eq_true,
      decide_eq_true_eq] at hcontains havoids
    omega

/-- No other code point is mapped to one that ends a line, and none that ends a line is printable. The
tables are looked through together. -/
lemma tables_avoid_lineBreaks :
    (∀ r ∈ lowerShifts.runs.toList, ∀ n ∈ lineBreaks, r.avoids n = true) ∧
      ∀ n ∈ lineBreaks, isPrintable n = false := by
  rw [lowerShifts, Shifts.toList_runs_ofRuns, List.forall_mem_map]
  decide +kernel

lemma pos_of_mem_lineBreaks {n : Nat} (hn : n ∈ lineBreaks) : 0 < n := by
  have hall : ∀ n ∈ lineBreaks, 0 < n := by decide
  exact hall n hn

/-- No letter ends a line. -/
lemma not_isAsciiLetter_of_mem_lineBreaks {n : Nat} (hn : n ∈ lineBreaks) :
    isAsciiLetter n = false := by
  have hall : ∀ n ∈ lineBreaks, isAsciiLetter n = false := by decide
  exact hall n hn

lemma eq_of_asciiLower_eq {n k : Nat} (hn : isAsciiLetter n = false) (h : asciiLower k = n) :
    k = n := by
  rw [asciiLower] at h
  split_ifs at h with hk
  · simp only [isAsciiLetter, Bool.or_eq_false_iff, Bool.and_eq_false_iff, decide_eq_false_iff_not,
      Bool.and_eq_true, decide_eq_true_eq] at hn hk
    omega
  · exact h

/-- The small letters of a character have a line break only if it is one. -/
lemma mem_lineBreaks_of_lowerFull {n k : Nat} (hn : n ∈ lineBreaks) (h : n ∈ lowerFull k) :
    k ∈ lineBreaks := by
  rw [lowerFull] at h
  split_ifs at h with hdotted
  · have hdots : ∀ n ∈ [0x69, 0x307], n ∉ lineBreaks := by decide
    exact absurd hn (hdots n h)
  · have hk := List.mem_singleton.mp h
    rw [lowerCode, if_neg hdotted] at hk
    split_ifs at hk with hascii
    · rwa [eq_of_asciiLower_eq (not_isAsciiLetter_of_mem_lineBreaks hn) hk.symm]
    · rwa [Shifts.eq_of_apply_eq (pos_of_mem_lineBreaks hn)
        (fun r hr => tables_avoid_lineBreaks.1 r hr _ hn) hk.symm]

end Unicode

namespace Text

/-- Whether a character ends a line. -/
def isLineBreak (c : Char) : Bool :=
  Unicode.lineBreaks.contains c.toNat

/-- Whether a text has no character that ends a line. -/
def isLine (s : String) : Bool :=
  s.toList.all fun c => !isLineBreak c

variable {s t : String}

lemma isLineBreak_iff {c : Char} : isLineBreak c = true ↔ c.toNat ∈ Unicode.lineBreaks :=
  List.contains_iff_mem

lemma isLine_iff : isLine s = true ↔ ∀ c ∈ s.toList, isLineBreak c = false := by
  simp [isLine]

/-- Two lines, one behind the other, are a line. -/
lemma isLine_append : isLine (s ++ t) = true ↔ isLine s = true ∧ isLine t = true := by
  rw [isLine, String.toList_append, List.all_append, Bool.and_eq_true, isLine, isLine]

lemma isLine_ofList {cs : List Char} :
    isLine (String.ofList cs) = true ↔ ∀ c ∈ cs, isLineBreak c = false := by
  rw [isLine_iff, String.toList_ofList]

/-- A text of characters of a line is a line. -/
lemma isLine_of_subset (hs : isLine s = true) (h : ∀ c ∈ t.toList, c ∈ s.toList) :
    isLine t = true :=
  isLine_iff.mpr fun c hc => isLine_iff.mp hs c (h c hc)

/-- The character for a code ends a line only if the code does: for a code that is not valid another
character stands, but no line break. -/
lemma mem_lineBreaks_of_ofNat {n : Nat} (h : isLineBreak (Char.ofNat n) = true) :
    n ∈ Unicode.lineBreaks := by
  rw [isLineBreak_iff] at h
  by_cases hvalid : n.isValidChar
  · rw [Char.ofNat, dif_pos hvalid] at h
    exact h
  · rw [Char.ofNat, dif_neg hvalid] at h
    exact absurd h (by decide)

/-- Characters that are made of numbers break no line if the numbers do not. -/
lemma isLineBreak_of_mem_ofCodes {codes : List Nat} {d : Char} (hd : isLineBreak d = false)
    (hcodes : ∀ n ∈ codes, n ∈ Unicode.lineBreaks → d.toNat ∈ Unicode.lineBreaks) :
    ∀ c ∈ ofCodes codes, isLineBreak c = false := by
  intro c hc
  obtain ⟨n, hn, rfl⟩ := List.mem_map.mp hc
  rw [Bool.eq_false_iff] at hd ⊢
  intro hbreak
  exact hd (isLineBreak_iff.mpr (hcodes n hn (mem_lineBreaks_of_ofNat hbreak)))

lemma isLineBreak_of_mem_toDigits {b : Nat} (hb : 1 < b) (hmax : b ≤ 16) (n : Nat) :
    ∀ c ∈ Nat.toDigits b n, isLineBreak c = false := by
  have hdigits : ∀ d < 16, isLineBreak d.digitChar = false := by decide
  induction n using Nat.strongRecOn with
  | ind n ih =>
    rcases Nat.lt_or_ge n b with hn | hn
    · rw [Nat.toDigits_of_lt_base hn]
      exact List.forall_mem_singleton.mpr (hdigits n (by omega))
    · rw [Nat.toDigits_of_base_le hb hn, List.forall_mem_append]
      exact ⟨ih _ (Nat.div_lt_self (by omega) hb),
        List.forall_mem_singleton.mpr (hdigits _ ((Nat.mod_lt n (by omega)).trans_le hmax))⟩

/-- A number is written on a line. -/
lemma isLine_toString (n : Nat) : isLine (toString n) = true := by
  refine isLine_iff.mpr fun c hc => ?_
  have hdigit : c ∈ Nat.toDigits 10 n := by simpa [toString, Nat.repr] using hc
  exact isLineBreak_of_mem_toDigits (by omega) (by omega) n c hdigit

lemma isLineBreak_of_mem_hexDigits {width n : Nat} :
    ∀ c ∈ hexDigits width n, isLineBreak c = false := by
  rw [hexDigits, List.forall_mem_append]
  refine ⟨fun c hc => ?_, isLineBreak_of_mem_toDigits (by omega) (by omega) n⟩
  rw [List.eq_of_mem_replicate hc]
  rfl

/-- A quoted text has its line breaks escaped. -/
lemma isLineBreak_of_mem_quoteChar {quote : Char} (hquote : isLineBreak quote = false) (d : Char) :
    ∀ c ∈ quoteChar quote d, isLineBreak c = false := by
  have hmark : isLineBreak '\\' = false := rfl
  rw [quoteChar]
  split_ifs with hself htab hline hreturn hprintable hshort hmiddle
  · have hd : isLineBreak d = false := by
      rcases Bool.or_eq_true_iff.mp hself with h | h
      · rw [beq_iff_eq.mp h, hquote]
      · rw [beq_iff_eq.mp h, hmark]
    exact List.forall_mem_cons.mpr ⟨hmark, List.forall_mem_singleton.mpr hd⟩
  · exact List.forall_mem_cons.mpr ⟨hmark, List.forall_mem_singleton.mpr rfl⟩
  · exact List.forall_mem_cons.mpr ⟨hmark, List.forall_mem_singleton.mpr rfl⟩
  · exact List.forall_mem_cons.mpr ⟨hmark, List.forall_mem_singleton.mpr rfl⟩
  · refine List.forall_mem_singleton.mpr (Bool.eq_false_iff.mpr fun hbreak => ?_)
    rw [Unicode.tables_avoid_lineBreaks.2 _ (isLineBreak_iff.mp hbreak)] at hprintable
    cases hprintable
  · exact List.forall_mem_cons.mpr
      ⟨hmark, List.forall_mem_cons.mpr ⟨rfl, isLineBreak_of_mem_hexDigits⟩⟩
  · exact List.forall_mem_cons.mpr
      ⟨hmark, List.forall_mem_cons.mpr ⟨rfl, isLineBreak_of_mem_hexDigits⟩⟩
  · exact List.forall_mem_cons.mpr
      ⟨hmark, List.forall_mem_cons.mpr ⟨rfl, isLineBreak_of_mem_hexDigits⟩⟩

/-- Between quotes every text is a line. -/
lemma isLine_quoted (s : String) : isLine (quoted s) = true := by
  have hquote : isLineBreak (quoteFor s.toList) = false := by
    rw [quoteFor]
    split_ifs <;> rfl
  refine isLine_ofList.mpr (List.forall_mem_cons.mpr ⟨hquote, List.forall_mem_append.mpr
    ⟨fun c hc => ?_, List.forall_mem_singleton.mpr hquote⟩⟩)
  obtain ⟨d, -, hc⟩ := List.mem_flatMap.mp hc
  exact isLineBreak_of_mem_quoteChar hquote d c hc

/-! ### Functions on texts -/

/-- The small letters of a line are a line. -/
lemma isLine_lower (h : isLine s = true) : isLine (lower s) = true := by
  have hall : ∀ before cs, (∀ c ∈ cs, isLineBreak c = false) →
      ∀ c ∈ lowerAfter before cs, isLineBreak c = false := by
    intro before cs
    induction cs generalizing before with
    | nil => exact fun _ => List.forall_mem_nil _
    | cons d cs ih =>
      intro hcs
      obtain ⟨hd, hcs⟩ := List.forall_mem_cons.mp hcs
      rw [lowerAfter, List.forall_mem_append]
      refine ⟨?_, ih _ hcs⟩
      split_ifs
      · rw [lowerSigma]
        split_ifs <;> exact List.forall_mem_singleton.mpr rfl
      · exact isLineBreak_of_mem_ofCodes hd fun n hn hbreak =>
          Unicode.mem_lineBreaks_of_lowerFull hbreak hn
  exact isLine_ofList.mpr (hall [] _ (isLine_iff.mp h))

lemma isLine_dropEndWhile {p : Char → Bool} (h : isLine s = true) : isLine (dropEndWhile p s) = true :=
  isLine_of_subset h fun c hc => by
    rw [dropEndWhile, String.toList_ofList, List.mem_reverse] at hc
    exact List.mem_reverse.mp ((List.dropWhile_sublist _).subset hc)

lemma isLine_trim (h : isLine s = true) : isLine (trim s) = true := by
  refine isLine_dropEndWhile (isLine_of_subset h fun c hc => ?_)
  rw [String.toList_ofList] at hc
  exact (List.dropWhile_sublist _).subset hc

end Text

open Text

/-- What a transform makes of a line is a line. -/
def Transform.KeepsLines (t : Transform) : Prop :=
  ∀ s, isLine s = true → isLine (t.function s) = true

/-- The built-in transforms make lines of lines. -/
lemma Transforms.keepsLines_builtIn {token : String} {t : Transform}
    (h : builtIn.find? token = some t) : t.KeepsLines :=
  forall_find?_builtIn (fun _ hs => isLine_lower hs) (fun _ hs => isLine_trim hs) h

/-! ### Texts of matches -/

section Matches

variable {m : Match} {text : Array Char}

lemma Match.isLine_slice (h : ∀ c ∈ text.toList, isLineBreak c = false) (span : Regex.Span) :
    isLine (slice text span) = true := by
  refine isLine_ofList.mpr fun c hc => h c ?_
  rw [Array.toList_extract] at hc
  exact List.mem_of_mem_drop (List.mem_of_mem_take hc)

/-- What a group captures in a line is a line. -/
lemma Match.isLine_group? (h : ∀ c ∈ m.text.toList, isLineBreak c = false) (index : Nat) :
    isLine ((m.group? index).getD unset) = true := by
  cases index with
  | zero => exact isLine_slice h m.span
  | succ slot =>
    rw [group?, groups, List.getElem?_map]
    rcases m.captures[slot]? with - | - | span
    · rfl
    · rfl
    · exact isLine_slice h span

/-- The character that a part of a template stands for, if it does not refer to a group. -/
def TemplatePiece.char? : TemplatePiece → Option Char
  | .char c => some c
  | .group _ => none

/-- The characters that a template itself brings into a text. -/
def Template.ownChars (template : Template) : List Char :=
  template.filterMap TemplatePiece.char?

/-- A template without line breaks is expanded to a line by a match in a line. -/
lemma Template.isLine_expand {template : Template}
    (hown : ∀ c ∈ template.ownChars, isLineBreak c = false)
    (h : ∀ c ∈ m.text.toList, isLineBreak c = false) : isLine (template.expand m) = true := by
  refine isLine_iff.mpr fun c hc => ?_
  rw [expand, String.toList_join] at hc
  obtain ⟨part, hpart, hc⟩ := List.mem_flatMap.mp hc
  obtain ⟨piece, hpiece, rfl⟩ := List.mem_map.mp hpart
  cases piece with
  | char d =>
    obtain rfl : c = d := by simpa [TemplatePiece.expand] using hc
    exact hown c (List.mem_filterMap.mpr ⟨.char _, hpiece, rfl⟩)
  | group index => exact isLine_iff.mp (Match.isLine_group? h index) c hc

/-- A match is one in the text that was searched. -/
lemma Pattern.text_of_searchFrom? {p : Pattern} {advance : Bool} {start : Nat}
    (h : p.searchFrom? text advance start = some m) : m.text = text := by
  have hmatch : ∀ rest pos, p.matchAt? text rest pos = some m → m.text = text := by
    intro rest pos hm
    obtain ⟨_, -, rfl⟩ := Option.map_eq_some_iff.mp hm
    rfl
  have hscan : ∀ tries pos, p.scan? text tries pos = some m → m.text = text := by
    intro tries pos hm
    obtain ⟨pos', hm⟩ := exists_matchAt?_of_scan? hm
    exact hmatch _ _ hm
  rw [searchFrom?] at h
  split_ifs at h
  · split at h
    · rename_i hm
      cases h
      exact hmatch _ _ hm
    · exact hscan _ _ h
  · exact hscan _ _ h

/-- Replacement in a line gives a line if each match is replaced by one. -/
lemma Pattern.isLine_replaceFrom {p : Pattern} {expand : Match → String}
    (hexpand : ∀ m : Match, m.text = text → isLine (expand m) = true)
    (h : ∀ c ∈ text.toList, isLineBreak c = false) (tries : Nat) (advance : Bool) (start : Nat) :
    isLine (p.replaceFrom expand text tries advance start) = true := by
  induction tries generalizing advance start with
  | zero => exact Match.isLine_slice h _
  | succ tries ih =>
    rw [replaceFrom]
    split
    · exact Match.isLine_slice h _
    · rename_i m hm
      rw [isLine_append, isLine_append]
      exact ⟨⟨Match.isLine_slice h _, hexpand m (text_of_searchFrom? hm)⟩, ih _ _⟩

/-- A replacement without line breaks of its own makes lines of lines. -/
lemma Substitution.isLine_apply {s : Substitution} {u : String}
    (hown : ∀ c ∈ s.template.ownChars, isLineBreak c = false) (h : isLine u = true) :
    isLine (s.apply u) = true := by
  have hu : ∀ c ∈ u.toList.toArray.toList, isLineBreak c = false := isLine_iff.mp h
  refine Pattern.isLine_replaceFrom (fun m hm => Template.isLine_expand hown ?_) hu _ _ _
  rw [hm]
  exact hu

end Matches

/-! ### Values of rules -/

/-- The texts that a specification itself may bring into a value. -/
def FieldSpec.ownTexts : FieldSpec → List String
  | copy _ => []
  | literal _ value => [value]
  | transform _ t => [t.name]
  | substitute _ s | substituteTransform _ s _ => [String.ofList s.template.ownChars]
  | mapped _ table => table.entries.map (·.1)

/-- Whether all that a rule itself may bring into a value has no line break. -/
def Rule.ownLines (r : Rule) : Bool :=
  r.fields.all fun spec => spec.ownTexts.all isLine

/-- The transforms of a rule make lines of lines. -/
def Rule.KeepsLines (r : Rule) : Prop :=
  ∀ spec ∈ r.fields, ∀ t, spec.transform? = some t → t.KeepsLines

/-- The rules bring no line break into a value, neither by their own texts nor by their transforms. -/
structure RuleSet.OwnLines (r : RuleSet) : Prop where
  texts : ∀ c, ∀ rule ∈ r.group c, rule.ownLines = true
  transforms : ∀ c, ∀ rule ∈ r.group c, rule.KeepsLines

/-- The value of a field is a line if the capture is, and what the specification adds is. -/
lemma FieldSpec.isLine_resolve {spec : FieldSpec} {capture : Option String}
    (hown : ∀ text ∈ spec.ownTexts, isLine text = true)
    (htransform : ∀ t, spec.transform? = some t → t.KeepsLines)
    (hcapture : isLine (capture.getD unset) = true) : isLine (spec.resolve capture) = true := by
  -- What is made of a capture is made of a line, or is the unset value.
  have honCapture : ∀ f : String → String, (∀ s, isLine s = true → isLine (f s) = true) →
      isLine (onCapture f capture) = true := by
    intro f hf
    rw [onCapture_eq]
    split_ifs
    · rfl
    · exact hf _ hcapture
  cases spec with
  | copy name => exact honCapture id fun _ h => h
  | literal name value => exact hown value (List.mem_singleton_self _)
  | transform name t =>
    rw [resolve]
    split_ifs
    · exact hown t.name (List.mem_singleton_self _)
    · cases capture with
      | none => rfl
      | some s => exact htransform t rfl s hcapture
  | substitute name s =>
    have htemplate := isLine_ofList.mp (hown _ (List.mem_singleton_self _))
    exact honCapture _ fun _ => Substitution.isLine_apply htemplate
  | mapped name table =>
    refine honCapture _ fun s hs => ?_
    rw [MappingTable.lookup]
    split
    · rename_i label triggers hfind
      exact hown label (List.mem_map_of_mem (List.mem_of_find?_eq_some hfind))
    · exact hs
  | substituteTransform name s t =>
    have htemplate := isLine_ofList.mp (hown _ (List.mem_singleton_self _))
    exact honCapture _ fun _ h => htransform t rfl _ (Substitution.isLine_apply htemplate h)

/-- The values that a rule gives for a line are lines. -/
lemma Rule.isLine_setting {r : Rule} (hown : r.ownLines = true) (hkeeps : r.KeepsLines) {p : Pattern}
    {text : Array Char} {m : Match} (h : p.search? text = some m)
    (htext : ∀ c ∈ text.toList, isLineBreak c = false)
    (field : String) : isLine (r.setting m field) = true := by
  rw [setting_eq]
  cases hsource : r.source? field with
  | none => rfl
  | some source =>
    have hmem : source.1 ∈ r.fields := mem_fields_of_source? hsource
    refine FieldSpec.isLine_resolve ?_ (hkeeps _ hmem) ?_
    · exact List.all_eq_true.mp (List.all_eq_true.mp hown _ hmem)
    · cases hword : m.word? source.2 with
      | none => rfl
      | some word =>
        exact isLine_iff.mpr fun c hc => htext c ((Pattern.mem_language_of_group h hword).2 c hc)

namespace RuleSet

variable {r : RuleSet} {u : String}

/-- Under rules that bring no line break into a value, a user agent that is a line has lines for the
values of its fields. -/
lemma isLine_rawRecord (hr : r.OwnLines) (hu : isLine u = true) {c : Category} {field : String}
    (hfield : field ∈ c.fields) : isLine ((r.rawRecord u c).value.value field) = true := by
  rcases RuleGroup.noMatch_or_firstMatch (r.group c) u.toList.toArray with
    hnone | ⟨i, j, rule, m, hfirst⟩
  · rw [rawRecord, RuleGroup.value_classify_of_noMatch hnone, Record.value, Record.ofFields_eq_map,
      Assoc.get?_map_of_mem (by simpa using hfield)]
    rfl
  · obtain ⟨hrule, p, -, -, hm⟩ := hfirst.exists_pattern
    rw [value_rawRecord_of_firstMatch hfirst hfield]
    exact Rule.isLine_setting (hr.texts c rule hrule) (hr.transforms c rule hrule) hm
      (isLine_iff.mp hu) field

end RuleSet

/-! ### Refined records -/

namespace Record

variable {r : Record}

lemma isLine_canonicalBrowserName {name : String} (h : isLine name = true) :
    isLine (canonicalBrowserName name) = true := by
  have haliases : (browserAliases.all fun entry => isLine entry.2) = true := by decide
  rw [canonicalBrowserName]
  cases hget : Assoc.get? (lower name) browserAliases with
  | none => exact h
  | some label => exact List.all_eq_true.mp haliases _ (Assoc.mem_of_get?_eq_some hget)

lemma isLine_name_refineBrowser (h : isLine (r.value "name") = true) :
    isLine (r.refineBrowser.value "name") = true := by
  rw [value] at h ⊢
  rw [get?_refineBrowser, if_neg (by decide), if_pos rfl]
  cases hget : Assoc.get? "name" r with
  | none => rfl
  | some name =>
    rw [hget] at h
    exact isLine_canonicalBrowserName h

end Record

namespace RuleSet

variable {r : RuleSet} {u : String}

/-- The name and version of a browser are lines. -/
lemma isLine_browser (hr : r.OwnLines) (hu : isLine u = true) :
    isLine ((r.record u .browser).value.value "name") = true ∧
      isLine ((r.record u .browser).value.value "version") = true := by
  have hrecord : (r.record u .browser).value = (r.rawRecord u .browser).value.refineBrowser := rfl
  rw [hrecord, Record.value_version_refineBrowser]
  exact ⟨Record.isLine_name_refineBrowser (isLine_rawRecord hr hu (by decide)),
    isLine_rawRecord hr hu (by decide)⟩

lemma isLine_os (hr : r.OwnLines) (hu : isLine u = true) :
    isLine ((r.record u .os).value.value "name") = true ∧
      isLine ((r.record u .os).value.value "version") = true := by
  rw [record_os, Record.value_refineOs, Record.value_refineOs]
  exact ⟨isLine_rawRecord hr hu (by decide), isLine_rawRecord hr hu (by decide)⟩

lemma isLine_deviceType (hr : r.OwnLines) (hu : isLine u = true) :
    isLine ((r.record u .device).value.value "type") = true := by
  rw [record_device, (Record.value_refineDevice (r.hasFields_rawRecord u .device) _).1]
  split_ifs
  · rfl
  · exact isLine_rawRecord hr hu (by decide)

/-- The built-in rules bring no line break into a value. -/
lemma ownLines_builtIn : builtIn.OwnLines where
  texts c := by
    refine BuiltIn.forall_rules ?_
    cases c with
    | browser => decide +kernel
    | engine => decide +kernel
    | os => decide +kernel
    | cpu => decide +kernel
    | device => decide +kernel
  transforms c rule hrule spec hspec t ht := by
    obtain ⟨token, htoken⟩ := BuiltIn.exists_find?_of_mem hrule hspec ht
    exact Transforms.keepsLines_builtIn htoken

end RuleSet

/-! ### Notes -/

lemma LogEntry.isLine_line {entry : LogEntry} (h : isLine entry.message = true) :
    isLine entry.line = true := by
  have hname : isLine entry.level.name = true := by
    cases entry.level <;> rfl
  rw [line, isLine_append, isLine_append]
  exact ⟨⟨hname, rfl⟩, h⟩

namespace RuleSet

variable {entry : LogEntry}

lemma isLine_of_mem_rawRecord {r : RuleSet} {u : String} {c : Category}
    (h : entry ∈ (r.rawRecord u c).log) : isLine entry.message = true := by
  rw [rawRecord, RuleGroup.classify] at h
  split at h
  · rw [List.mem_singleton.mp h]
    simp only [isLine_append, isLine_toString, isLine_quoted, and_true]
    exact ⟨rfl, rfl⟩
  · cases h

/-- What is noted on the way to a record is a line. -/
lemma isLine_of_mem_record {r : RuleSet} {u : String} {c : Category}
    (h : entry ∈ (r.record u c).log) : isLine entry.message = true := by
  cases c with
  | browser | engine | os | cpu => exact isLine_of_mem_rawRecord h
  | device =>
    have hlog : (r.record u .device).log =
        (r.rawRecord u .device).log ++ ((r.rawRecord u .os).log ++ []) := rfl
    rw [hlog, List.append_nil, List.mem_append] at h
    exact h.elim isLine_of_mem_rawRecord isLine_of_mem_rawRecord

/-- All that is noted on the way to a classification is put on one line each, whatever the user agent and
the rules are: what is taken from the user agent is quoted. -/
theorem isLine_of_mem_classify (r : RuleSet) (u : String) :
    ∀ entry ∈ (r.classify u).log, isLine entry.line = true := by
  have hlog : (r.classify u).log = (r.record u .browser).log ++ ((r.record u .engine).log ++
      ((r.record u .os).log ++ ((r.record u .device).log ++ ((r.record u .cpu).log ++
        ([⟨.debug, "Classified " ++ quoted u⟩] ++ []))))) := rfl
  intro entry h
  simp only [hlog, List.append_nil, List.mem_append, List.mem_singleton] at h
  apply LogEntry.isLine_line
  rcases h with h | h | h | h | h | rfl
  · exact isLine_of_mem_record h
  · exact isLine_of_mem_record h
  · exact isLine_of_mem_record h
  · exact isLine_of_mem_record h
  · exact isLine_of_mem_record h
  · exact isLine_append.mpr ⟨rfl, isLine_quoted u⟩

end RuleSet

/-! ### Messages -/

namespace ResultLog

lemma shown_values (r : Record) (field default : String) :
    shown (values r) field default = if r.value field = unset then default else r.value field := by
  have hget : Assoc.get? field (values r) = (Assoc.get? field r).map Json.str :=
    r.get?_toValues field
  rw [shown, hget, Record.value]
  cases Assoc.get? field r with
  | none => simp
  | some value =>
    by_cases hempty : value = unset
    · simp [hempty, unset, Json.isTruthy]
    · have hsome : value ≠ "" := hempty
      simp [hempty, hsome, Json.isTruthy, Json.toText]

lemma isLine_shown {r : Record} {field default : String} (hdefault : isLine default = true)
    (h : isLine (r.value field) = true) : isLine (shown (values r) field default) = true := by
  rw [shown_values]
  split_ifs
  · exact hdefault
  · exact h

/-- A name and a version that are lines are shown on one. -/
lemma isLine_nameAndVersion {r : Record} (hname : isLine (r.value "name") = true)
    (hversion : isLine (r.value "version") = true) : isLine (nameAndVersion (values r)) = true := by
  rw [nameAndVersion, isLine_append, isLine_append]
  exact ⟨⟨isLine_shown rfl hname, rfl⟩, isLine_shown rfl hversion⟩

/-- A number with a fixed count of places is written on a line. -/
lemma isLine_toFixed (places : Nat) (x : Binary64) : isLine (x.toFixed places) = true := by
  have hsign : ∀ c ∈ x.signChars, isLineBreak c = false := by
    rw [Binary64.signChars]
    split_ifs
    · exact List.forall_mem_singleton.mpr rfl
    · exact List.forall_mem_nil _
  have hdigits : ∀ n, ∀ c ∈ digitChars n, isLineBreak c = false :=
    isLineBreak_of_mem_toDigits (by omega) (by omega)
  have hpadded : ∀ n, ∀ c ∈ padZeros places (digitChars n), isLineBreak c = false := by
    intro n
    refine List.forall_mem_append.mpr ⟨fun c hc => ?_, hdigits n⟩
    rw [List.eq_of_mem_replicate hc]
    rfl
  have hinfinite : isLine "inf" = true := rfl
  rw [Binary64.toFixed]
  split_ifs
  · rfl
  · exact isLine_ofList.mpr (List.forall_mem_append.mpr ⟨hsign, isLine_iff.mp hinfinite⟩)
  · exact isLine_ofList.mpr (List.forall_mem_append.mpr
      ⟨List.forall_mem_append.mpr ⟨hsign, hdigits _⟩, List.forall_mem_cons.mpr ⟨rfl, hpadded _⟩⟩)

/-- A message is a line if and only if its parts are. -/
lemma isLine_message_iff (browser os device : Assoc String Json) (milliseconds : Binary64)
    (userAgent : String) : isLine (message browser os device milliseconds userAgent) = true ↔
      isLine (trimEnd (nameAndVersion browser)) = true ∧
      isLine (trimEnd (" | " ++ nameAndVersion os)) = true ∧
      isLine (shown device "type" "-") = true ∧ isLine userAgent = true := by
  have hbar : isLine " | " = true := rfl
  have hunit : isLine "ms | " = true := rfl
  simp only [message, isLine_append, isLine_toFixed, hbar, hunit, and_true, and_assoc]

lemma classified_eq (r : RuleSet) (u : String) (milliseconds : Binary64) :
    classified (r.classify u).value milliseconds =
      message (values (r.record u .browser).value) (values (r.record u .os).value)
        (values (r.record u .device).value) milliseconds u := rfl

/-- The message is no line if the user agent is none, since it ends with the user agent. -/
lemma isLine_of_isLine_classified {r : RuleSet} {u : String} {milliseconds : Binary64}
    (h : isLine (classified (r.classify u).value milliseconds) = true) : isLine u = true := by
  rw [classified_eq, isLine_message_iff] at h
  exact h.2.2.2

/-- Under rules with lines of their own, the message on a user agent that is a line is a line. -/
lemma isLine_classified {r : RuleSet} {u : String} (hr : r.OwnLines) (hu : isLine u = true)
    (milliseconds : Binary64) : isLine (classified (r.classify u).value milliseconds) = true := by
  obtain ⟨hbrowser, hversion⟩ := RuleSet.isLine_browser hr hu
  obtain ⟨hos, hosVersion⟩ := RuleSet.isLine_os hr hu
  rw [classified_eq, isLine_message_iff]
  refine ⟨isLine_dropEndWhile (isLine_nameAndVersion hbrowser hversion),
    isLine_dropEndWhile (isLine_append.mpr ⟨rfl, isLine_nameAndVersion hos hosVersion⟩),
    isLine_shown rfl (RuleSet.isLine_deviceType hr hu), hu⟩

/-- The message for a classification is a line if and only if the values that it shows and the user
agent are. Under rules that bring no line break into a value, as the built-in ones are, it is a line if
and only if the user agent is one. A transform may be any function, and one that adds a line break is
such a way to bring it. -/
theorem isLine_classified_iff (r : RuleSet) (u : String) (milliseconds : Binary64) :
    (isLine (classified (r.classify u).value milliseconds) = true ↔
      isLine (trimEnd (nameAndVersion (values (r.record u .browser).value))) = true ∧
      isLine (trimEnd (" | " ++ nameAndVersion (values (r.record u .os).value))) = true ∧
      isLine (shown (values (r.record u .device).value) "type" "-") = true ∧ isLine u = true) ∧
    (r.OwnLines →
      (isLine (classified (r.classify u).value milliseconds) = true ↔ isLine u = true)) ∧
    (isLine (classified (RuleSet.builtIn.classify u).value milliseconds) = true ↔
      isLine u = true) := by
  refine ⟨?_, fun hr => ⟨isLine_of_isLine_classified, fun hu => isLine_classified hr hu _⟩,
    isLine_of_isLine_classified, fun hu => isLine_classified RuleSet.ownLines_builtIn hu _⟩
  rw [classified_eq]
  exact isLine_message_iff _ _ _ _ _

/-- A transform that adds a mark to a text. -/
def shout : Transform where
  name := "shout"
  function := (· ++ "!")

/-- Rules that take the first line of a user agent, with a mark after it, for the name of a browser. -/
def shoutedNames : RuleSet where
  groups := {
    browser := [⟨[⟨"(.*)", {}, 1, [], .group 1 (.repeated 0 none .greedy (.any false))⟩],
      [.transform "name" shout]⟩] }
  version := RuleSet.unknownVersion
  lastUpdated := RuleSet.unknownVersion
  source := none
  fileHash := none

/-- The message for an owl is a line. That for an owl with a fox below it is not. -/
theorem isLine_classified_iff_owl : shoutedNames.OwnLines ∧
    isLine (classified (shoutedNames.classify "owl").value ⟨0⟩) = true ∧
    isLine (classified (shoutedNames.classify "owl\nfox").value ⟨0⟩) = false := by
  have hshout : shout.KeepsLines := fun s hs => isLine_append.mpr ⟨hs, rfl⟩
  have hown : shoutedNames.OwnLines := by
    refine ⟨fun c => ?_, fun c rule hrule spec hspec t ht => ?_⟩
    · cases c <;> decide
    · cases c with
      | browser =>
        obtain rfl := List.mem_singleton.mp hrule
        obtain rfl := List.mem_singleton.mp hspec
        obtain rfl := Option.some_inj.mp ht
        exact hshout
      | engine | os | cpu | device => cases hrule
  have hiff : ∀ u, isLine (classified (shoutedNames.classify u).value ⟨0⟩) = true ↔
      isLine u = true := fun u => (isLine_classified_iff shoutedNames u ⟨0⟩).2.1 hown
  refine ⟨hown, (hiff "owl").mpr rfl, ?_⟩
  rw [Bool.eq_false_iff, ne_eq, hiff]
  decide

/-- A line break in the user agent is a line break in the log. -/
theorem lineBreak_noted :
    '\n' ∈ (classified (RuleSet.builtIn.classify "owl\nfox").value ⟨0⟩).toList := by
  rw [classified_eq, message, String.toList_append]
  exact List.mem_append_right _ (by decide)

end ResultLog

end UserAgent
