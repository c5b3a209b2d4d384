import UserAgent.Proofs.LetterCase
import UserAgent.Proofs.RefinedDevices

/-!
# The name of a browser as a model

Samsung writes the name of its browser where its devices have their model. A rule gives a field no value
that begins with the letters of a word if none of the openings of its values agrees with the word
(`Rule.not_beginsWith_of_avoids`). So only the patterns of `samsungTokens` give a device of Samsung the
model of a browser, and refinement corrects it in one spelling alone
(`RuleSet.samsungBrowser_builtIn_iff`).
-/

namespace UserAgent

open Regex Unicode Text

/-! ### Beginnings up to case -/

namespace Text

/-- A text that begins with the letters of a word. -/
def BeginsWith (word s : String) : Prop :=
  ∃ start rest, s.toList = start ++ rest ∧ List.Forall₂ SameLetter start word.toList

lemma BeginsWith.refl (word : String) : BeginsWith word word :=
  ⟨word.toList, [], (List.append_nil _).symm, forall₂_refl _⟩

/-- A text begins with a word if what stands before some mark is the word. -/
lemma BeginsWith.of_before {word s : String} {mark : Char}
    (h : SameLetters (Text.before mark s) word) : BeginsWith word s := by
  rw [SameLetters, Text.before, String.toList_ofList] at h
  exact ⟨_, _, List.takeWhile_append_dropWhile.symm, h⟩

lemma SameLetter.eq_lower_or_eq_upper {c d : Char} (h : SameLetter c d) :
    c.toNat = asciiLower d.toNat ∨ c.toNat = asciiUpper d.toNat := by
  have hself : ∀ n, n = asciiLower n ∨ n = asciiUpper n := by
    intro n
    simp only [asciiLower, asciiUpper, Bool.and_eq_true, decide_eq_true_eq]
    split_ifs <;> omega
  rcases h with rfl | ⟨-, -, h⟩
  · exact hself _
  · rw [← h]
    simp only [asciiLower, asciiUpper, Bool.and_eq_true, decide_eq_true_eq] at h ⊢
    split_ifs at h ⊢ <;> omega

end Text

/-! ### Openings that disagree with a word -/

namespace Regex

/-- Whether a test accepts a letter in either case. -/
def Symbol.acceptsLetter (y : Symbol) (d : Char) : Bool :=
  y.accepts (asciiLower d.toNat) || y.accepts (asciiUpper d.toNat)

/-- A symbol that accepts one case of a letter accepts the letter. -/
lemma Symbol.acceptsLetter_of_sameLetter {y : Symbol} {c d : Char} (h : SameLetter c d)
    (hy : y.accepts c.toNat = true) : y.acceptsLetter d = true := by
  rw [acceptsLetter, Bool.or_eq_true]
  rcases h.eq_lower_or_eq_upper with hc | hc
  · exact .inl (hc ▸ hy)
  · exact .inr (hc ▸ hy)

namespace Opening

/-- Whether one of the tests accepts no case of the letter at its place. -/
def clash : List Symbol → List Char → Bool
  | y :: ys, d :: ds => !y.acceptsLetter d || clash ys ds
  | _, _ => false

/-- Symbols and a word that both begin one text do not clash. -/
lemma clash_eq_false {ys : List Symbol} {as bs cs ds : List Char}
    (hys : List.Forall₂ (fun (y : Symbol) (c : Char) => y.accepts c.toNat = true) ys as)
    (hds : List.Forall₂ SameLetter bs ds) (h : as <+: cs) (h' : bs <+: cs) : clash ys ds = false := by
  induction hys generalizing bs cs ds with
  | nil => rfl
  | @cons y a ys as hy _ ih =>
    cases hds with
    | nil => rfl
    | @cons b d bs ds hd hds =>
      cases cs with
      | nil => simp at h
      | cons c cs =>
        obtain ⟨rfl, has⟩ := List.cons_prefix_cons.mp h
        obtain ⟨rfl, hbs⟩ := List.cons_prefix_cons.mp h'
        rw [clash, y.acceptsLetter_of_sameLetter hd hy, ih hds has hbs]
        rfl

/-- Whether no text that fits begins with the letters of a word. -/
def avoids (word : String) (o : Opening) : Bool :=
  clash o.symbols word.toList || (o.whole && decide (o.symbols.length < word.toList.length))

/-- A text that fits an opening does not begin with a word that the opening avoids. -/
lemma not_beginsWith_of_avoids {o : Opening} {word s : String} (ho : o.avoids word = true)
    (h : o.Fits s.toList) : ¬ BeginsWith word s := by
  rintro ⟨start, rest, hs, hword⟩
  obtain ⟨start', rest', hs', hsymbols, hrest'⟩ := h
  rcases Bool.or_eq_true_iff.mp ho with hclash | hshort
  · rw [clash_eq_false hsymbols hword ⟨rest', hs'.symm⟩ ⟨rest, hs.symm⟩] at hclash
    cases hclash
  · obtain ⟨hwhole, hlt⟩ := Bool.and_eq_true_iff.mp hshort
    have hlength := congrArg List.length (hs'.symm.trans hs)
    rw [hrest' hwhole, List.append_nil, List.length_append, ← hsymbols.length_eq,
      hword.length_eq] at hlength
    have := of_decide_eq_true hlt
    omega

end Opening

end Regex

namespace Rule

/-- Whether a match of a pattern of the rule gives a field no value that begins with the letters of a
word. -/
def avoids (word : String) (r : Rule) (field : String) (p : Pattern) : Bool :=
  (r.openings field p).all (·.avoids word)

/-- So it is with the value that a rule gives to a field. -/
theorem not_beginsWith_of_avoids {word : String} {r : Rule} {field : String} {p : Pattern}
    (hr : r.avoids word field p = true) {text : Array Char} {m : Match} (h : p.search? text = some m) :
    ¬ BeginsWith word (r.setting m field) := by
  obtain ⟨o, ho, hfits⟩ := r.fits_setting h
  exact o.not_beginsWith_of_avoids (List.all_eq_true.mp hr o ho) hfits

end Rule

/-! ### Devices of Samsung -/

namespace RuleSet

/-- The bodies of the patterns that take any word after the name of Samsung for a model, with the slots
of the models. -/
def samsungTokens : Assoc String Nat :=
  [("samsung[-\\w]+\\s([\\w-]+)", 0), ("\\b(samsung)[-_\\s]?(\\w+)", 1)]

lemma get?_samsungTokens {token : String × Nat} (h : token ∈ samsungTokens) :
    Assoc.get? token.1 samsungTokens = some token.2 := by
  rcases List.mem_pair.mp h with rfl | rfl
  · rw [samsungTokens, Assoc.get?_cons, if_pos rfl]
  · rw [samsungTokens, Assoc.get?_cons, if_neg (by simp), Assoc.get?_cons, if_pos rfl]

/-- Whether a rule gives its devices to Samsung, and the text of a slot, which has no semicolon, for a
model. -/
def BuiltIn.takesModel (rule : Rule) (p : Pattern) (slot : Nat) : Bool :=
  ((rule.source? "vendor").any fun source => decide (source.1 = .literal "vendor" "Samsung")) &&
    decide (rule.source? "model" = some (.copy "model", slot)) &&
    (p.symbols slot).all fun y => !y.accepts ';'.toNat

/-- Every pattern for devices avoids the word for a model, those apart that name the product token.
-/
lemma BuiltIn.avoids_samsungBrowser : ∀ rule ∈ builtIn.group .device, rule.patterns.all fun p =>
    match Assoc.get? p.body samsungTokens with
    | some slot => BuiltIn.takesModel rule p slot
    | none => rule.avoids "Samsung" "vendor" p || rule.avoids "browser" "model" p := by
  refine forall_rules ?_
  decide +kernel

/-- Under a first match by one of `samsungTokens` the vendor is Samsung, and the model is what the group
of the model has captured. -/
lemma BuiltIn.rawRecord_of_token {u : String} {i j slot : Nat} {rule : Rule} {m : Match} {p : Pattern}
    (h : (builtIn.group .device).FirstMatch u.toList.toArray i j rule m)
    (hj : rule.patterns[j]? = some p) (hslot : Assoc.get? p.body samsungTokens = some slot) :
    (builtIn.rawRecord u .device).value.value "vendor" = "Samsung" ∧
      (builtIn.rawRecord u .device).value.value "model" = (m.word? slot).getD unset ∧
      ∀ word, m.word? slot = some word → Text.before ';' word = word := by
  obtain ⟨hrule, p', hp, hj', hm⟩ := h.exists_pattern
  obtain rfl : p' = p := Option.some_inj.mp (hj'.symm.trans hj)
  have hcheck := List.all_eq_true.mp (avoids_samsungBrowser rule hrule) p' hp
  simp only [hslot, takesModel, Bool.and_eq_true, decide_eq_true_eq] at hcheck
  obtain ⟨⟨hvendor, hmodel⟩, hsymbols⟩ := hcheck
  obtain ⟨⟨spec, slot'⟩, hsource, hspec⟩ := (Option.any_eq_true _ _).mp hvendor
  obtain rfl : spec = .literal "vendor" "Samsung" := of_decide_eq_true hspec
  refine ⟨?_, ?_, fun word hword => ?_⟩
  · rw [value_rawRecord_of_firstMatch h (by decide), Rule.setting_eq, hsource]
    rfl
  · rw [value_rawRecord_of_firstMatch h (by decide), Rule.setting_eq, hmodel, Option.map_some,
      Option.getD_some, FieldSpec.resolve_copy]
  · exact Record.before_of_not_mem (Pattern.not_mem_of_excludes hsymbols hm hword)

/-- Without such a match a device of Samsung has a model that does not begin as the browser does. -/
lemma BuiltIn.not_beginsWith_of_noToken {u : String} {i j : Nat} {rule : Rule} {m : Match}
    {p : Pattern} (h : (builtIn.group .device).FirstMatch u.toList.toArray i j rule m)
    (hj : rule.patterns[j]? = some p) (hnone : Assoc.get? p.body samsungTokens = none)
    (hvendor : (builtIn.rawRecord u .device).value.value "vendor" = "Samsung") :
    ¬ BeginsWith "browser" ((builtIn.rawRecord u .device).value.value "model") := by
  obtain ⟨hrule, p', hp, hj', hm⟩ := h.exists_pattern
  obtain rfl : p' = p := Option.some_inj.mp (hj'.symm.trans hj)
  have hcheck := List.all_eq_true.mp (avoids_samsungBrowser rule hrule) p' hp
  simp only [hnone, Bool.or_eq_true] at hcheck
  rw [value_rawRecord_of_firstMatch h (by decide)] at hvendor ⊢
  rcases hcheck with havoids | havoids
  · have hbegins := Rule.not_beginsWith_of_avoids havoids hm
    rw [hvendor] at hbegins
    exact absurd (BeginsWith.refl _) hbegins
  · exact Rule.not_beginsWith_of_avoids havoids hm

/-- Whether a refined device is one of Samsung with the model of a browser, in terms of the raw one. -/
lemma samsungBrowser_refineDevice {r : Record} (hr : r.HasFields Category.device.fields) (os : Record) :
    ((r.refineDevice os).value "vendor" = "Samsung" ∧
      lower ((r.refineDevice os).value "model") = "browser") ↔
    r.value "vendor" = "Samsung" ∧ r.value "model" ≠ "Browser" ∧
      lower (Text.before ';' (r.value "model")) = "browser" := by
  obtain ⟨-, hvendor, hmodel⟩ := Record.value_refineDevice hr os
  -- The vendor that Android tells is another one.
  have hsamsung : (r.refineDevice os).value "vendor" = "Samsung" ↔ r.value "vendor" = "Samsung" := by
    rw [hvendor]
    split_ifs with h
    · rw [h.2]
      decide
    · rfl
  rw [hsamsung, hmodel]
  refine and_congr_right fun hv => ?_
  by_cases hcorrected : r.value "model" = "Browser"
  · have hgeneric : lower (Text.before ';' Record.genericVendor) = "generic" := by
      rw [Record.before_of_not_mem (by simp [Record.genericVendor]), ← String.toList_inj,
        toList_lower_of_ascii (by simp [Record.genericVendor])]
      simp [Record.genericVendor, asciiLower]
    rw [if_pos ⟨hv, hcorrected⟩, hgeneric]
    exact iff_of_false (by decide) fun h => h.1 hcorrected
  · rw [if_neg fun h => hcorrected h.2]
    exact (and_iff_right hcorrected).symm

/-- Under the built-in rules a device of Samsung has a model that is the name of the browser, in some
case, exactly if the first match is one of `samsungTokens` and takes that name in another spelling than
the one that is corrected. -/
theorem samsungBrowser_builtIn_iff (u : String) :
    ((builtIn.record u .device).value.value "vendor" = "Samsung" ∧
      lower ((builtIn.record u .device).value.value "model") = "browser") ↔
    ∃ word, (∃ token ∈ samsungTokens,
        (builtIn.group .device).Takes u.toList.toArray token.1 token.2 word) ∧
      lower word = "browser" ∧ word ≠ "Browser" := by
  have hempty : lower (Text.before ';' unset) = unset := by
    rw [Record.before_of_not_mem (by simp [unset]), lower_eq_self (by simp [unset])]
  rw [record_device, samsungBrowser_refineDevice (builtIn.hasFields_rawRecord u .device)]
  rcases RuleGroup.noMatch_or_firstMatch (builtIn.group .device) u.toList.toArray with
    hnone | ⟨i, j, rule, m, hfirst⟩
  · refine iff_of_false ?_ ?_
    · rw [rawRecord, RuleGroup.value_classify_of_noMatch hnone]
      exact fun h => absurd h.1 (by decide)
    · rintro ⟨word, ⟨token, -, htakes⟩, -⟩
      exact hnone.not_takes htakes
  · obtain ⟨-, p, -, hj, -⟩ := hfirst.exists_pattern
    -- The pattern that matched has the product token, or it does not.
    cases hslot : Assoc.get? p.body samsungTokens with
    | none =>
      refine iff_of_false ?_ ?_
      · rintro ⟨hvendor, -, hbrowser⟩
        -- Without the token the model would begin with a word that no other pattern gives.
        have hletters : SameLetters
            (Text.before ';' ((builtIn.rawRecord u .device).value.value "model")) "browser" :=
          .of_lower_eq_word (by simp [isAsciiLetter]) (lower_eq_self (by simp [asciiLower])) hbrowser
        exact BuiltIn.not_beginsWith_of_noToken hfirst hj hslot hvendor (.of_before hletters)
      · rintro ⟨word, ⟨token, htoken, htakes⟩, -⟩
        rw [((hfirst.takes_iff hj).mp htakes).1, get?_samsungTokens htoken] at hslot
        cases hslot
    | some slot =>
      obtain ⟨hvendor, hmodel, hcut⟩ := BuiltIn.rawRecord_of_token hfirst hj hslot
      rw [hvendor, hmodel]
      constructor
      · rintro ⟨-, hspelled, hbrowser⟩
        cases hword : m.word? slot with
        | none =>
          rw [hword, Option.getD_none, hempty] at hbrowser
          exact absurd hbrowser (by decide)
        | some word =>
          rw [hword, Option.getD_some] at hspelled hbrowser
          rw [hcut word hword] at hbrowser
          exact ⟨word, ⟨_, Assoc.mem_of_get?_eq_some hslot,
            (hfirst.takes_iff hj).mpr ⟨rfl, hword⟩⟩, hbrowser, hspelled⟩
      · rintro ⟨word, ⟨token, htoken, htakes⟩, hbrowser, hspelled⟩
        obtain ⟨hbody, hword⟩ := (hfirst.takes_iff hj).mp htakes
        obtain rfl : token.2 = slot := by
          rw [hbody, get?_samsungTokens htoken] at hslot
          exact Option.some_inj.mp hslot
        rw [hword, Option.getD_some, hcut word hword]
        exact ⟨rfl, hspelled, hbrowser⟩

/-- A spelling of the name that is not corrected. -/
theorem samsungBrowser_builtIn_lowerCase :
    (builtIn.record "samsungbrowser" .device).value.value "vendor" = "Samsung" ∧
      lower ((builtIn.record "samsungbrowser" .device).value.value "model") = "browser" := by
  have hlower : lower "browser" = "browser" := lower_eq_self (by simp [asciiLower])
  rw [BuiltIn.record_tokens.2.2]
  exact ⟨rfl, hlower⟩

end RuleSet

end UserAgent
