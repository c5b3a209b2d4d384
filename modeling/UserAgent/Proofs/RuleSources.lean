import UserAgent.CommandLine.Run
import UserAgent.Proofs.FileHash

/-!
# Two ways to name a file of rules

The arguments and the configuration may name a file of rules. Both ways read it with the same words, but
only the configured one checks its hash: what is told of the rules is the same exactly if no hash is
asked for, or if the rules are refused for a reason other than their hash
(`CommandLine.namedRules_eq_iff`).
-/

namespace UserAgent

open Compiled

/-! ### Loading with and without a check -/

namespace RuleSet

variable [CharacterNames]

/-- What is told of a rule set: its groups, and the information on its version. -/
def told (r : RuleSet) : RuleGroups × VersionInfo :=
  (r.groups, r.info)

/-- How a file is read whose hash is not checked. -/
def unchecked (v : Vocabulary) : LoadOptions where
  vocabulary := v

variable {machine : Machine} {path : Path} {options : LoadOptions} {text : String}

lemma fileHash_of_unchecked {v : Vocabulary} {r : RuleSet}
    (h : (ofText (unchecked v) path text).value = .ok r) : r.fileHash = none :=
  (Except.ok.inj (fileHash_of_ofText h)).symm

lemma unchecked_ne_hashMismatch {v : Vocabulary} {expected actual : String} :
    (ofText (unchecked v) path text).value ≠ .error (.hashMismatch expected actual) := by
  rw [ne_eq, ofText_eq_hashMismatch]
  intro h
  cases h

/-- The digest is carried along and changes nothing else. -/
lemma value_ofTable_fileHash (v : Vocabulary) (table : Json) (source fileHash : Option String) :
    (ofTable v table source fileHash).value =
      (ofTable v table source).value.map fun r => { r with fileHash } := by
  cases table with
  | obj members =>
    simp only [ofTable, Logged.value_map]
    cases (compileMembers v {} members).value <;> rfl
  | _ => rfl

/-- A check that succeeds changes nothing but the hash that is recorded. -/
lemma value_ofText_of_checkHash {fileHash : Option String}
    (h : checkHash options text = .ok fileHash) : (ofText options path text).value =
      (ofText (unchecked options.vocabulary) path text).value.map fun r => { r with fileHash } := by
  have hunchecked : checkHash (unchecked options.vocabulary) text = .ok none := rfl
  rw [value_ofText, value_ofText, h, hunchecked]
  cases readTable text with
  | error e => rfl
  | ok table =>
    show (ofTable options.vocabulary table (some path.toText) fileHash).value.mapError _ =
      ((ofTable options.vocabulary table (some path.toText)).value.mapError _).map _
    rw [value_ofTable_fileHash]
    cases (ofTable options.vocabulary table (some path.toText)).value <;> rfl

/-- A check that fails is the end of loading. -/
lemma value_ofText_of_checkHash_error {e : LoadError} (h : checkHash options text = .error e) :
    (ofText options path text).value = .error e := by
  rw [value_ofText, h]
  rfl

/-- A check is without effect only on a text that is refused, and that has the expected hash. -/
lemma told_ofText_eq_iff (hverify : options.verifyHash = true) (path : Path) (text : String) :
    (ofText (unchecked options.vocabulary) path text).value.map told =
        (ofText options path text).value.map told ↔
      (∃ e, (ofText (unchecked options.vocabulary) path text).value = .error e) ∧
        MeetsExpectation options text := by
  rcases checkHash_cases hverify text with ⟨hmeets, hcheck⟩ | ⟨hmeets, expected, hcheck⟩
  · rw [value_ofText_of_checkHash hcheck]
    cases hplain : (ofText (unchecked options.vocabulary) path text).value with
    | error e => simp [Except.map, hmeets]
    | ok r => simp [Except.map, told, info, fileHash_of_unchecked hplain]
  · rw [value_ofText_of_checkHash_error hcheck]
    cases hplain : (ofText (unchecked options.vocabulary) path text).value with
    | error e =>
      have hne : e ≠ .hashMismatch expected (textHash text) := by
        rintro rfl
        exact unchecked_ne_hashMismatch hplain
      simp [Except.map, hmeets, hne]
    | ok r => simp [Except.map]

lemma load_run (options : LoadOptions) (machine : Machine) (path : Path) :
    load (m := StateM Machine) options path machine =
      ((load (m := StateM Machine) options path machine).1, machine) := by
  cases htext : machine.textAt path with
  | error e =>
    obtain ⟨failure, hload⟩ := load_of_textAt_error htext
    rw [hload]
  | ok text => rw [load_of_textAt _ htext]

/-- What is told of a file with and without a check of its hash. -/
lemma told_load_eq_iff (options : LoadOptions) (machine : Machine) (path : Path) :
    (load (m := StateM Machine) (unchecked options.vocabulary) path machine).1.value.map told =
        (load (m := StateM Machine) options path machine).1.value.map told ↔
      options.verifyHash = false ∨
        (∃ e, (load (m := StateM Machine) (unchecked options.vocabulary) path machine).1.value =
          .error e) ∧
        ∀ text, machine.textAt path = .ok text → MeetsExpectation options text := by
  cases htext : machine.textAt path with
  | error e =>
    obtain ⟨failure, hload⟩ := load_of_textAt_error htext
    simp [hload]
  | ok text =>
    simp only [load_of_textAt _ htext, Except.ok.injEq, forall_eq']
    cases hverify : options.verifyHash with
    | true => simp [told_ofText_eq_iff hverify]
    | false =>
      -- Without a check no digest is kept either, and both ways of loading are one.
      have hcheck : checkHash options text = .ok none := by
        rw [checkHash, hverify]
        rfl
      rw [value_ofText_of_checkHash hcheck]
      cases hplain : (ofText (unchecked options.vocabulary) path text).value with
      | error e => simp [Except.map]
      | ok r =>
        have hnone := fileHash_of_unchecked hplain
        obtain ⟨_, _, _, _, _⟩ := r
        cases hnone
        exact iff_of_true rfl (.inl rfl)

end RuleSet

/-! ### Paths -/

namespace Path

lemma expandHome?_of_isAbsolute {p : Path} (h : p.isAbsolute = true) (home : Option String) :
    p.expandHome? home = some p := by
  obtain ⟨root, names⟩ := p
  cases root with
  | none => cases h
  | slash => rfl
  | twoSlashes => rfl

lemma below_of_isAbsolute {p : Path} (h : p.isAbsolute = true) (directory : Path) :
    directory.below p = p :=
  if_pos h

end Path

/-! ### Configured files -/

/-- The home directory of a machine, if it has one. -/
abbrev Machine.home? (machine : Machine) : Option String :=
  Assoc.get? Config.homeVariable machine.environment

namespace Config

/-- The configuration with another file of rules. -/
def withRulesFile (c : Config) (file : String) : Config :=
  { c with parser := { c.parser with rulesFile := .str file } }

variable {c : Config} {file : String}

/-- An absolute file for rules is taken as it is. -/
lemma rulesPath?_withRulesFile (h : (Path.ofText file).isAbsolute = true) (home : Option String) :
    (c.withRulesFile file).rulesPath? home = .ok (some (.ofText file)) := by
  have hfile : (Json.str file).isTruthy = true := by
    rw [Json.isTruthy, Bool.not_eq_true', ← Bool.not_eq_true, String.isEmpty_iff]
    rintro rfl
    cases h
  show (if (Json.str file).isTruthy = true then _ else _) = _
  rw [if_pos hfile]
  dsimp only [withRulesFile]
  rw [Path.expandHome?_of_isAbsolute h]
  dsimp only
  rw [Path.below_of_isAbsolute h]

/-- A user agent is found: it is given, or there is a name for the variable that holds it. -/
def FindsUserAgent (c : Config) (userAgent : Option String) : Prop :=
  userAgent.isSome = true ∨ ∃ name, c.parser.userAgentVariable = .str name

lemma ambientUserAgent_run {userAgent : Option String} (h : c.FindsUserAgent userAgent)
    (machine : Machine) : ∃ u,
      (c.ambientUserAgent userAgent : StateM Machine (Except Error String)) machine =
        (.ok u, machine) := by
  cases userAgent with
  | some u => exact ⟨u, rfl⟩
  | none =>
    obtain ⟨name, hname⟩ := h.resolve_left (by simp)
    refine ⟨(Assoc.get? name machine.environment).getD "", ?_⟩
    simp only [ambientUserAgent, hname]
    rfl

section

variable [CharacterNames]

lemma ownRules_run {machine : Machine} {path : Path}
    (h : c.rulesPath? machine.home? = .ok (some path)) :
    (c.ownRules : StateM Machine _) machine =
      ((RuleSet.load (m := StateM Machine) c.loadOptions path machine).1.map fun r =>
        (r.map some).mapError .load, machine) := by
  rw [ownRules, Machine.bind_run (machine.lookupVariable_run homeVariable), h]
  exact Machine.bind_run (RuleSet.load_run c.loadOptions machine path) _

/-- The rules of a configuration with an absolute file are loaded from this file, without a check.
-/
lemma ownRules_withRulesFile (h : (Path.ofText file).isAbsolute = true) (machine : Machine) :
    ((c.withRulesFile file).ownRules : StateM Machine _) machine =
      ((RuleSet.load (m := StateM Machine) c.loadOptions (.ofText file) machine).1.map fun r =>
        (r.map some).mapError .load, machine) :=
  ownRules_run (rulesPath?_withRulesFile h machine.home?)

/-- The rules of a classifier are the configured ones, or the built-in ones. -/
lemma rules_classifier {rules : Logged (Except SetupError (Option RuleSet))} {machine : Machine}
    (h : (c.ownRules : StateM Machine _) machine = (rules, machine)) {userAgent : Option String}
    (hagent : c.FindsUserAgent userAgent) :
    (c.classifier (m := StateM Machine) userAgent machine).1.value.map Classifier.rules =
      rules.value.map fun own => own.getD .builtIn := by
  rw [classifier, Machine.bind_run h]
  obtain ⟨value, log⟩ := rules
  cases value with
  | error e => rfl
  | ok own =>
    obtain ⟨u, hu⟩ := ambientUserAgent_run hagent machine
    dsimp only
    rw [Machine.bind_run hu]
    rfl

/-- A configured file of rules is loaded as the configuration says. -/
lemma rules_classifier_withRulesFile (h : (Path.ofText file).isAbsolute = true)
    {userAgent : Option String} (hagent : c.FindsUserAgent userAgent) (machine : Machine) :
    ((c.withRulesFile file).classifier (m := StateM Machine) userAgent machine).1.value.map
        Classifier.rules =
      (RuleSet.load (m := StateM Machine) c.loadOptions (.ofText file) machine).1.value.mapError
        .load := by
  rw [rules_classifier (ownRules_withRulesFile h machine) hagent, Logged.value_map]
  cases (RuleSet.load (m := StateM Machine) c.loadOptions (.ofText file) machine).1.value <;> rfl

end

end Config

/-! ### Files that the arguments name -/

namespace CommandLine

variable {journal : Journal} {config : Config} {file : String}

lemma attempt_run {ε α : Type} (journal : Journal) (wrap : ε → RunError) (x : Logged (Except ε α))
    (machine : Machine) :
    ((attempt (m := StateM Machine) journal wrap x).run machine).1 = x.value.mapError wrap := by
  obtain ⟨machine', hfollow⟩ : ∃ machine', (journal.follow x : StateM Machine _) machine =
      (x.value, machine') := ⟨_, rfl⟩
  rw [attempt, ExceptT.run_bind_lift, Machine.bind_eq hfollow]
  cases x.value <;> rfl

section

variable [CharacterNames]

/-- A file that the arguments name is loaded without a check. -/
lemma chooseRules_named_run {named path : Path} {machine : Machine}
    (h : named.expandHome? machine.home? = some path) :
    ((chooseRules (m := StateM Machine) journal config (some named)).run machine).1 =
      (RuleSet.load (m := StateM Machine) (RuleSet.unchecked config.loadOptions.vocabulary) path
        machine).1.value.mapError (RunError.setup ∘ .load) := by
  rw [chooseRules, ExceptT.run_bind_lift,
    Machine.bind_run (machine.lookupVariable_run Config.homeVariable), h]
  dsimp only
  rw [ExceptT.run_bind_lift]
  exact (congrArg Prod.fst (Machine.bind_run (RuleSet.load_run _ machine _) _)).trans
    (attempt_run journal _ _ machine)

/-- The choice of rules for a named file with an absolute path ends as its loading without a check
does. -/
lemma chooseRules_run (h : (Path.ofText file).isAbsolute = true) (machine : Machine) :
    ((chooseRules (m := StateM Machine) journal config (some (.ofText file))).run machine).1 =
      (RuleSet.load (m := StateM Machine) (RuleSet.unchecked config.loadOptions.vocabulary)
        (.ofText file) machine).1.value.mapError (RunError.setup ∘ .load) :=
  chooseRules_named_run (Path.expandHome?_of_isAbsolute h machine.home?)

/-! ### The two ways -/

/-- What is told of the rules if the arguments name a file. -/
def namedRules (journal : Journal) (config : Config) (file : String) (machine : Machine) :
    Except RunError (RuleGroups × VersionInfo) :=
  ((chooseRules (m := StateM Machine) journal config (some (.ofText file))).run
    machine).1.map RuleSet.told

/-- What is told of the rules if the configuration names the file instead. -/
def configuredRules (config : Config) (file : String) (userAgent : Option String)
    (machine : Machine) : Except RunError (RuleGroups × VersionInfo) :=
  ((((config.withRulesFile file).classifier (m := StateM Machine) userAgent machine).1.value.map
    Classifier.rules).map RuleSet.told).mapError .setup

lemma namedRules_eq (h : (Path.ofText file).isAbsolute = true) (machine : Machine) :
    namedRules journal config file machine =
      ((RuleSet.load (m := StateM Machine) (RuleSet.unchecked config.loadOptions.vocabulary)
        (.ofText file) machine).1.value.map RuleSet.told).mapError (RunError.setup ∘ .load) := by
  rw [namedRules, chooseRules_run h]
  cases (RuleSet.load (m := StateM Machine) _ (.ofText file) machine).1.value <;> rfl

lemma configuredRules_eq (h : (Path.ofText file).isAbsolute = true) {userAgent : Option String}
    (hagent : config.FindsUserAgent userAgent) (machine : Machine) :
    configuredRules config file userAgent machine =
      ((RuleSet.load (m := StateM Machine) config.loadOptions (.ofText file)
        machine).1.value.map RuleSet.told).mapError (RunError.setup ∘ .load) := by
  rw [configuredRules, Config.rules_classifier_withRulesFile h hagent]
  cases (RuleSet.load (m := StateM Machine) _ (.ofText file) machine).1.value <;> rfl

/-- The two ways tell the same of a file exactly if no hash is asked for, or if the file is refused in
either way and for the same reason, since its text, if it has one, has the hash that is expected. -/
theorem namedRules_eq_iff (journal : Journal) (config : Config) {file : String}
    (hfile : (Path.ofText file).isAbsolute = true) {userAgent : Option String}
    (hagent : config.FindsUserAgent userAgent) (machine : Machine) :
    namedRules journal config file machine = configuredRules config file userAgent machine ↔
      config.parser.verifyHash.isTruthy = false ∨
        (∃ e, namedRules journal config file machine = .error e) ∧
          ∀ text, machine.textAt (.ofText file) = .ok text →
            RuleSet.MeetsExpectation config.loadOptions text := by
  have hinjective : Function.Injective (RunError.setup ∘ SetupError.load) := by
    intro a b h
    cases h
    rfl
  rw [namedRules_eq hfile, configuredRules_eq hfile hagent, mapError_inj hinjective,
    RuleSet.told_load_eq_iff]
  cases (RuleSet.load (m := StateM Machine) _ (.ofText file) machine).1.value with
  | error e => simp [Except.map, Except.mapError, Config.loadOptions]
  | ok r => simp [Except.map, Except.mapError, Config.loadOptions]

end

/-- A configuration that asks for a hash that no file has. -/
def distrustful : Config where
  configDirectory := ⟨.slash, ["ua"]⟩
  rulesDirectory := ⟨.slash, ["ua", "rules"]⟩
  logsDirectory := ⟨.slash, ["ua", "logs"]⟩
  parser := { verifyHash := .bool true, expectedHash := .str "00" }

/-- A journal without entries. -/
def silent : Journal := ⟨⟨.slash, ["ua", "logs"]⟩, .error, true⟩

/-- The same is told of a file that does not exist. -/
theorem namedRules_missing : (Path.ofText "/owl.json").isAbsolute = true ∧
    distrustful.FindsUserAgent none ∧
    namedRules silent distrustful "/owl.json" RuleSet.twoLineEnds =
      configuredRules distrustful "/owl.json" none RuleSet.twoLineEnds := by
  have hfile : (Path.ofText "/owl.json").isAbsolute = true := rfl
  have hagent : distrustful.FindsUserAgent none := .inr ⟨_, rfl⟩
  have htext : RuleSet.twoLineEnds.textAt (.ofText "/owl.json") =
      .error (.file ⟨.notFound, .ofText "/owl.json"⟩) := rfl
  refine ⟨hfile, hagent, (namedRules_eq_iff silent distrustful hfile hagent _).mpr (.inr ⟨?_, ?_⟩)⟩
  · exact ⟨.setup (.load (.missing (.ofText "/owl.json"))), rfl⟩
  · intro text h
    rw [htext] at h
    cases h

/-- A file whose hash is not the expected one is accepted if the arguments name it, and refused if the
configuration does. -/
theorem hash_unchecked :
    (∃ told, namedRules silent distrustful "/feed.json" RuleSet.twoLineEnds = .ok told) ∧
      configuredRules distrustful "/feed.json" none RuleSet.twoLineEnds =
        .error (.setup (.load (.hashMismatch "00" (RuleSet.textHash "\x7b\x7d\n")))) := by
  have hfile : (Path.ofText "/feed.json").isAbsolute = true := rfl
  have hagent : distrustful.FindsUserAgent none := .inr ⟨_, rfl⟩
  have htext : RuleSet.twoLineEnds.textAt (.ofText "/feed.json") = .ok "\x7b\x7d\n" := rfl
  have hdigest : "00" ≠ RuleSet.textHash "\x7b\x7d\n" := by
    intro h
    have hlength := Sha256.length_hexDigest (Utf8.encode "\x7b\x7d\n")
    rw [← RuleSet.textHash, ← h] at hlength
    cases hlength
  have hcheck : RuleSet.checkHash distrustful.loadOptions "\x7b\x7d\n" =
      .error (.hashMismatch "00" (RuleSet.textHash "\x7b\x7d\n")) :=
    (RuleSet.checkHash_checked (by decide) _).trans (if_neg hdigest)
  constructor
  · rw [namedRules_eq hfile, RuleSet.load_of_textAt _ htext]
    exact ⟨_, rfl⟩
  · rw [configuredRules_eq hfile hagent, RuleSet.load_of_textAt _ htext,
      RuleSet.value_ofText_of_checkHash_error hcheck]
    rfl

end CommandLine

end UserAgent
