import UserAgent.Proofs.Confinement

/-!
# Rules that are refused

A command that needs rules loads them before it does anything else. If the rules of its file are refused,
the run ends with a code of its own; nothing has been printed then, and no file but those of the journal
has changed (`CommandLine.run_of_refused`).
-/

namespace UserAgent

open Compiled Machine

/-! ### Sources of rules -/

/-- The failures of loading that are told as such: the file is missing, it holds no text or no JSON, it
has the wrong hash, or its table is refused. What remains are files that cannot be opened for another
reason, and counts that a pattern cannot hold. -/
def LoadError.IsRefusal : LoadError → Prop
  | unreadable error => error.cause = .notFound
  | failed failure => failure ≠ .countTooLarge
  | _ => True

/-- The file that rules are loaded from, if there is one, and how it is read: the one that is named, or
else the configured one, whose hash may be checked. -/
def Config.ruleSource? (c : Config) (named : Option Path) (home : Option String) :
    Option (LoadOptions × Path) :=
  match named with
  | some path => (path.expandHome? home).map (RuleSet.unchecked c.loadOptions.vocabulary, ·)
  | none =>
    match c.rulesPath? home with
    | .ok (some path) => some (c.loadOptions, path)
    | _ => none

namespace CommandLine

/-- The file of rules that a command names, for the commands that need rules. -/
def Command.rules? : Command → Option (Option Path)
  | parse settings => some settings.rules
  | rules settings => some settings.rules
  | config _ => none

lemma exists_report {e : LoadError} (h : e.IsRefusal) :
    ∃ message, (RunError.setup (.load e)).report? = some message := by
  cases e with
  | unreadable error => exact ⟨_, if_pos h⟩
  | failed failure =>
    cases failure with
    | countTooLarge => exact absurd rfl h
    | _ => exact ⟨_, rfl⟩
  | _ => exact ⟨_, rfl⟩

/-! ### The failure of loading -/

variable {journal : Journal} {config : Config} {named : Option Path} {machine : Machine}
  {options : LoadOptions} {path : Path} {e : LoadError}

lemma ruleSource?_eq_some_of_named {file : Path}
    (h : config.ruleSource? (some file) machine.home? = some (options, path)) :
    file.expandHome? machine.home? = some path ∧
      options = RuleSet.unchecked config.loadOptions.vocabulary := by
  obtain ⟨path', hpath, heq⟩ := Option.map_eq_some_iff.mp h
  cases heq
  exact ⟨hpath, rfl⟩

lemma ruleSource?_eq_some_of_configured
    (h : config.ruleSource? none machine.home? = some (options, path)) :
    config.rulesPath? machine.home? = .ok (some path) ∧ options = config.loadOptions := by
  simp only [Config.ruleSource?] at h
  split at h
  · rename_i path' hpath
    cases h
    exact ⟨hpath, rfl⟩
  · cases h

section

variable [CharacterNames]

/-- A configured file is loaded as the configuration says. -/
lemma chooseRules_configured_run (h : config.rulesPath? machine.home? = .ok (some path)) :
    ((chooseRules (m := StateM Machine) journal config none).run machine).1 =
      (RuleSet.load (m := StateM Machine) config.loadOptions path machine).1.value.mapError
        (RunError.setup ∘ .load) := by
  have hattempt := attempt_run journal RunError.setup
    ((RuleSet.load (m := StateM Machine) config.loadOptions path machine).1.map fun r =>
      (r.map some).mapError .load) machine
  rw [Logged.value_map] at hattempt
  rw [chooseRules, run_lift_bind (Config.ownRules_run h)]
  cases hload : (RuleSet.load (m := StateM Machine) config.loadOptions path machine).1.value with
  | error e =>
    rw [hload] at hattempt
    exact congrArg Prod.fst (run_bind_of_error (Prod.ext hattempt rfl) _)
  | ok r =>
    rw [hload] at hattempt
    exact congrArg Prod.fst (run_bind_of_ok (Prod.ext hattempt rfl) _)

/-- No rules are chosen if their file is not loaded. -/
lemma chooseRules_of_load_error
    (hsource : config.ruleSource? named machine.home? = some (options, path))
    (hload : (RuleSet.load (m := StateM Machine) options path machine).1.value = .error e) :
    ((chooseRules (m := StateM Machine) journal config named).run machine).1 =
      .error (.setup (.load e)) := by
  cases named with
  | some file =>
    obtain ⟨hpath, rfl⟩ := ruleSource?_eq_some_of_named hsource
    rw [chooseRules_named_run hpath, hload]
    rfl
  | none =>
    obtain ⟨hpath, rfl⟩ := ruleSource?_eq_some_of_configured hsource
    rw [chooseRules_configured_run hpath, hload]
    rfl

/-- A command that needs rules does nothing without them. -/
lemma runCommand_of_chooseRules_error {invocation : Invocation} {command : Command}
    {machine' : Machine} {e : RunError} (hcommand : invocation.command = some command)
    (hnamed : command.rules? = some named)
    (hchoose : (chooseRules (m := StateM Machine) journal config named).run machine =
      (.error e, machine')) :
    (runCommand (m := StateM Machine) journal config invocation).run machine =
      (.error e, machine') := by
  rw [runCommand, hcommand]
  cases command with
  | parse settings =>
    cases hnamed
    exact run_bind_of_error hchoose _
  | rules settings =>
    cases hnamed
    exact run_bind_of_error hchoose _
  | config settings => cases hnamed

/-! ### The run -/

/-- A run whose rules are refused ends with the code 2, whichever command needs them and whether the
arguments or the configuration name their file. Nothing is printed on standard output, paths lead where
they led, and all files hold what they held but those to which the paths of the journal lead. -/
theorem run_of_refused {directory : Path} {arguments : List String} {machine : Machine}
    (prepared : PreparedRun directory arguments machine) {command : Command} {named : Option Path}
    {options : LoadOptions} {path : Path} {e : LoadError}
    (hcommand : prepared.invocation.command = some command) (hnamed : command.rules? = some named)
    (hsource : prepared.config.ruleSource? named prepared.ready.home? = some (options, path))
    (hload : (RuleSet.load (m := StateM Machine) options path prepared.ready).1.value = .error e)
    (hrefusal : e.IsRefusal) :
    ∃ machine', run (m := StateM Machine) directory arguments machine = (.exited 2, machine') ∧
      machine'.output = machine.output ∧
      (∀ target location, machine.files.locate target = .ok location →
        machine'.files.locate target = .ok location) ∧
      ∀ location, (∀ p ∈ prepared.journal.files, machine'.files.locate p ≠ .ok location) →
        machine'.files.content? location = machine.files.content? location := by
  obtain ⟨message, hreport⟩ := exists_report hrefusal
  obtain ⟨chosen, hchoose⟩ : ∃ chosen, (chooseRules (m := StateM Machine) prepared.journal
      prepared.config named).run prepared.ready = (.error (.setup (.load e)), chosen) :=
    ⟨_, Prod.ext (chooseRules_of_load_error hsource hload) rfl⟩
  have hchosen : prepared.ready.ChangesOnly prepared.journal.files
      ((chooseRules (m := StateM Machine) prepared.journal prepared.config named).run
        prepared.ready).2 := confined_chooseRules named prepared.ready
  rw [hchoose] at hchosen
  have hwritten := prepared.journal.confined_write ⟨.error, message⟩ chosen
  have hchanges := (prepared.changesOnly_ready.trans hchosen).trans hwritten
  refine ⟨_, prepared.run_of_error (runCommand_of_chooseRules_error hcommand hnamed hchoose) hreport,
    hchanges.output_eq, fun _ _ => hchanges.files.toExtends.locate, hchanges.files.content?_eq⟩

end

/-- A machine with a file of results from an earlier run. -/
def keptResults : Machine :=
  usedMachine [(["w", "out.txt"], .file [111, 107])] ""

/-- Arguments that name a file of rules that does not exist. -/
def lostRules : List String :=
  ["parse", "--rules", "owl.json", "--output", "out.txt", "Owl"]

/-- What the arguments ask for. -/
def lostInvocation : Invocation where
  command := some (.parse {
    userAgents := ["Owl"]
    output := some (.ofText "out.txt")
    rules := some (.ofText "owl.json") })

/-- A run that looks for rules that do not exist. -/
def lostRun : PreparedRun (.ofText "ua") lostRules keptResults where
  invocation := lostInvocation
  config := .default (.ofText "ua")
  ready := keptResults
  invocation_eq := by decide +kernel
  config_eq := rfl
  ready_eq := prepare_usedMachine _ _ _

/-- The file of results is left as it is. -/
theorem run_of_refused_lostRules :
    (RuleSet.load (m := StateM Machine) (RuleSet.unchecked {}) (.ofText "owl.json")
        lostRun.ready).1.value = .error (.missing (.ofText "owl.json")) ∧
      ∃ machine', run (m := StateM Machine) (.ofText "ua") lostRules keptResults =
          (.exited 2, machine') ∧ machine'.output = "" ∧
        machine'.files.locate (.ofText "out.txt") = .ok ["w", "out.txt"] ∧
        machine'.files.content? ["w", "out.txt"] = some [111, 107] := by
  have hload : (RuleSet.load (m := StateM Machine) (RuleSet.unchecked {}) (.ofText "owl.json")
      lostRun.ready).1.value = .error (.missing (.ofText "owl.json")) := rfl
  have hsource : lostRun.config.ruleSource? (some (.ofText "owl.json")) lostRun.ready.home? =
      some (RuleSet.unchecked {}, .ofText "owl.json") := rfl
  obtain ⟨machine', hrun, houtput, hlocate, hcontent⟩ :=
    run_of_refused lostRun rfl rfl hsource hload trivial
  have hmain : machine'.files.locate lostRun.journal.mainFile =
      .ok ["w", "ua", "logs", "main.log"] := hlocate _ _ rfl
  have hresults : machine'.files.locate lostRun.journal.resultsFile =
      .ok ["w", "ua", "logs", "results.log"] := hlocate _ _ rfl
  refine ⟨hload, machine', hrun, houtput, hlocate _ _ rfl, hcontent _ ?_⟩
  simp [Journal.files, hmain, hresults]

end CommandLine

end UserAgent
