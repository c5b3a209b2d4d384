import UserAgent.Proofs.Confinement
import UserAgent.Proofs.SavedConfig

/-!
# Malformed configuration files

A configuration file may hold any JSON value. Its reading ends in a configuration or in a failure that is
reported exactly if the value has the form that is asked of it: an object with texts as its paths and
objects as its sections (`Config.Readable`). A value of another form is not reported, but breaks off the
run (`CommandLine.reported_iff_readable`).
-/

namespace UserAgent

open Compiled

namespace Config

/-! ### The form of the data -/

/-- The members that are paths. -/
def pathKeys : List String := ["config_dir", "rules_dir", "logs_dir"]

/-- The members that are sections. -/
def sectionKeys : List String := ["parser", "output"]

/-- The data lacks a member, or the member fits. A text counts as data without members unless it contains
the name of the member, and so does a list unless the name is one of its items; all else that is not an
object cannot be asked for a member. -/
def Admits (fits : Json → Prop) (key : String) : Json → Prop
  | .obj members => ∀ value, Assoc.get? key members = some value → fits value
  | .arr items => .str key ∉ items
  | .str s => ¬key.toList <:+: s.toList
  | .null | .bool _ | .int _ | .float _ => False

/-- A value is a text. -/
def IsText (value : Json) : Prop :=
  ∃ s, value = .str s

/-- A value is an object. -/
def IsObject (value : Json) : Prop :=
  ∃ members, value = .obj members

/-- The form that is asked of the data of a configuration. The settings may be anything. -/
structure Readable (data : Json) : Prop where
  paths : ∀ key ∈ pathKeys, Admits IsText key data
  sections : ∀ key ∈ sectionKeys, Admits IsObject key data

/-! ### Members -/

/-- The member of data that can be asked for it. -/
lemma member?_of_admits {fits : Json → Prop} {key : String} {data : Json} (h : Admits fits key data) :
    ∃ found, member? key data = .ok found ∧ ∀ value, found = some value → fits value := by
  cases data with
  | obj members => exact ⟨_, rfl, h⟩
  | arr items =>
    have hitems : .str key ∉ items := h
    exact ⟨none, by simp [member?, hitems], by simp⟩
  | str s =>
    have hs : Text.occursIn key.toList s.toList = false := by
      rw [← Bool.not_eq_true, Text.occursIn_iff]
      exact h
    exact ⟨none, by simp [member?, hs], by simp⟩
  | null | bool b | int i | float x => exact h.elim

/-- What is found if the data has a member that does not fit, or cannot be asked for it. -/
lemma member?_of_not_admits {fits : Json → Prop} {key : String} {data : Json}
    (h : ¬Admits fits key data) : member? key data = .error .wrongType ∨
      ∃ value, member? key data = .ok (some value) ∧ ¬fits value := by
  cases data with
  | obj members =>
    obtain ⟨value, hvalue⟩ := not_forall.mp h
    obtain ⟨hget, hfits⟩ := Classical.not_imp.mp hvalue
    exact .inr ⟨value, congrArg Except.ok hget, hfits⟩
  | arr items =>
    have hitems : .str key ∈ items := not_not.mp h
    exact .inl (by simp [member?, hitems])
  | str s =>
    have hs : Text.occursIn key.toList s.toList = true := Text.occursIn_iff.mpr (not_not.mp h)
    exact .inl (by simp [member?, hs])
  | null | bool b | int i | float x => exact .inl rfl

/-- A failure that says that a value does not have the form that is asked of it. -/
def Error.IsOfForm (e : Error) : Prop :=
  e = .wrongType ∨ e = .notObject

/-- A path is read from an object that admits it. -/
lemma path?_of_admits {key : String} {data : Json} (h : Admits IsText key data) :
    ∃ path, path? key data = .ok path := by
  obtain ⟨found, hfound, hfits⟩ := member?_of_admits h
  rw [path?, hfound]
  cases found with
  | none => exact ⟨none, rfl⟩
  | some value =>
    obtain ⟨s, rfl⟩ := hfits value rfl
    exact ⟨some (.ofText s), rfl⟩

/-- Data that does not admit a path, since it is no object or has another value there, is refused
for a type. -/
lemma path?_of_not_admits {key : String} {data : Json} (h : ¬Admits IsText key data) :
    path? key data = .error .wrongType := by
  rw [path?]
  rcases member?_of_not_admits h with hmember | ⟨value, hmember, hfits⟩
  · rw [hmember]
    rfl
  · rw [hmember]
    cases value with
    | str s => exact absurd ⟨s, rfl⟩ hfits
    | _ => rfl

lemma section?_of_admits {key : String} {data : Json} (h : Admits IsObject key data) :
    ∃ settings, section? key data = .ok settings := by
  obtain ⟨found, hfound, hfits⟩ := member?_of_admits h
  rw [section?, hfound]
  cases found with
  | none => exact ⟨[], rfl⟩
  | some value =>
    obtain ⟨settings, rfl⟩ := hfits value rfl
    exact ⟨settings, rfl⟩

/-- Data that does not admit a section is refused for its form. -/
lemma section?_of_not_admits {key : String} {data : Json} (h : ¬Admits IsObject key data) :
    ∃ e, section? key data = .error e ∧ e.IsOfForm := by
  rw [section?]
  rcases member?_of_not_admits h with hmember | ⟨value, hmember, hfits⟩
  · rw [hmember]
    exact ⟨.wrongType, rfl, .inl rfl⟩
  · rw [hmember]
    cases value with
    | obj settings => exact absurd ⟨settings, rfl⟩ hfits
    | _ => exact ⟨.notObject, rfl, .inr rfl⟩

/-! ### Reading the data -/

/-- Settings of the output are read, or their format is unknown. -/
lemma outputSettings_cases (settings : List (String × Json)) :
    (∃ output, outputSettings settings = .ok output) ∨
      ∃ value, outputSettings settings = .error (.unknownFormat value) := by
  unfold outputSettings
  dsimp only
  split
  · exact .inl ⟨_, rfl⟩
  · exact .inr ⟨_, rfl⟩

/-- Data of the right form is read, unless its format is unknown. -/
lemma ofJson_of_readable {data : Json} (h : Readable data) (directory : Path) :
    (∃ c, ofJson directory data = .ok c) ∨
      ∃ value, ofJson directory data = .error (.unknownFormat value) := by
  obtain ⟨config, hconfig⟩ := path?_of_admits (h.paths "config_dir" (by simp [pathKeys]))
  obtain ⟨parser, hparser⟩ := section?_of_admits (h.sections "parser" (by simp [sectionKeys]))
  obtain ⟨output, houtput⟩ := section?_of_admits (h.sections "output" (by simp [sectionKeys]))
  obtain ⟨rules, hrules⟩ := path?_of_admits (h.paths "rules_dir" (by simp [pathKeys]))
  obtain ⟨logs, hlogs⟩ := path?_of_admits (h.paths "logs_dir" (by simp [pathKeys]))
  simp only [ofJson, hconfig, hparser, houtput, hrules, hlogs, bind, Except.bind]
  rcases outputSettings_cases output with ⟨settings, hsettings⟩ | ⟨value, hvalue⟩
  · exact .inl ⟨_, by rw [hsettings]; rfl⟩
  · exact .inr ⟨value, by rw [hvalue]⟩

/-- A step that fails with a property, or that gives a value with which the rest fails so. -/
lemma exists_bind_eq_error {ε α β : Type} {P : ε → Prop} {x : Except ε α} {f : α → Except ε β}
    (h : (∃ e, x = .error e ∧ P e) ∨ ∃ a, x = .ok a ∧ ∃ e, f a = .error e ∧ P e) :
    ∃ e, (x >>= f) = .error e ∧ P e := by
  rcases h with ⟨e, rfl, he⟩ | ⟨a, rfl, h⟩
  · exact ⟨e, rfl, he⟩
  · exact h

lemma path?_step {β : Type} {key : String} {data : Json} {f : Option Path → Except Error β}
    (h : Admits IsText key data → ∀ path, ∃ e, f path = .error e ∧ e.IsOfForm) :
    ∃ e, (path? key data >>= f) = .error e ∧ e.IsOfForm := by
  by_cases hkey : Admits IsText key data
  · obtain ⟨path, hpath⟩ := path?_of_admits hkey
    exact exists_bind_eq_error (.inr ⟨path, hpath, h hkey path⟩)
  · exact exists_bind_eq_error (.inl ⟨_, path?_of_not_admits hkey, .inl rfl⟩)

lemma section?_step {β : Type} {key : String} {data : Json}
    {f : List (String × Json) → Except Error β}
    (h : Admits IsObject key data → ∀ settings, ∃ e, f settings = .error e ∧ e.IsOfForm) :
    ∃ e, (section? key data >>= f) = .error e ∧ e.IsOfForm := by
  by_cases hkey : Admits IsObject key data
  · obtain ⟨settings, hsettings⟩ := section?_of_admits hkey
    exact exists_bind_eq_error (.inr ⟨settings, hsettings, h hkey settings⟩)
  · exact exists_bind_eq_error (.inl (section?_of_not_admits hkey))

/-- Data of another form is refused for its form, and not for its format, which is looked at last. -/
lemma ofJson_of_not_readable {data : Json} (h : ¬Readable data) (directory : Path) :
    ∃ e, ofJson directory data = .error e ∧ e.IsOfForm := by
  rw [ofJson]
  refine path?_step fun hconfig _ => section?_step fun hparser _ => section?_step fun houtput _ =>
    path?_step fun hrules _ => path?_step fun hlogs _ => ?_
  refine absurd ⟨?_, ?_⟩ h
  · simp only [pathKeys, List.forall_mem_cons]
    exact ⟨hconfig, hrules, hlogs, by simp⟩
  · simp only [sectionKeys, List.forall_mem_cons]
    exact ⟨hparser, houtput, by simp⟩

/-! ### Reading the file -/

/-- Reading ends in a configuration, or in a failure that is reported. -/
def Decided : Except LoadError Config → Prop
  | .ok _ => True
  | .error e => e.isReported = true

instance : DecidablePred Decided
  | .ok _ => .isTrue trivial
  | .error e => inferInstanceAs (Decidable (e.isReported = true))

/-- Reading a text ends in a configuration, or in a failure that is reported, exactly if the text is
no JSON or its data is readable. -/
lemma decided_ofText_iff (directory : Path) (text : String) :
    Decided (ofText directory text) ↔ ∀ data, Json.parse text = .ok data → Readable data := by
  rw [ofText]
  cases hparse : Json.parse text with
  | error e => cases e <;> simp [Decided, LoadError.isReported]
  | ok data =>
    simp only [Except.ok.injEq, forall_eq']
    by_cases hdata : Readable data
    · refine iff_of_true ?_ hdata
      rcases ofJson_of_readable hdata directory with ⟨c, hc⟩ | ⟨value, hvalue⟩
      · rw [hc]
        trivial
      · rw [hvalue]
        rfl
    · refine iff_of_false ?_ hdata
      obtain ⟨e, he, rfl | rfl⟩ := ofJson_of_not_readable hdata directory
      · rw [he]
        exact Bool.false_ne_true
      · rw [he]
        exact Bool.false_ne_true

lemma load_run {directory : Path} {path : Option Path} {machine : Machine} {text : String}
    (h : machine.textAt (path.getD (fileIn directory)) = .ok text) :
    (load directory path : StateM Machine (Except LoadError Config)) machine =
      (ofText directory text, machine) :=
  load_of_textAt h

end Config

/-! ### Runs -/

namespace CommandLine

open Machine

variable {directory : Path} {arguments : List String} {invocation : Invocation} {machine : Machine}

/-- Without arguments there is nothing to be carried out, but the configuration is read. -/
lemma ofArguments_nil : Invocation.ofArguments [] = .ok {} := by
  simp [Invocation.ofArguments, Grammar.read, Word.ofTexts, readWords, programGrammar, bind,
    Except.bind, pure, Except.pure]

/-- A run without a configuration ends there, with a line on the failure if it is one that is
reported. -/
lemma run_of_config_error [CharacterNames] {e : Config.LoadError}
    (hargs : Invocation.ofArguments arguments = .ok invocation)
    (hload : (Config.load directory invocation.config : StateM Machine _) machine =
      (.error e, machine)) :
    (run directory arguments : StateM Machine Ending) machine =
      if e.isReported then
        (.exited exitUsage,
          { machine with errors := machine.errors ++ ("Invalid configuration: " ++ e.message ++ "\n") })
      else (.misconfigured e, machine) := by
  rw [run, hargs]
  dsimp only
  rw [bind_run hload]
  dsimp only
  split <;> rfl

/-- A run that has its configuration does not break off for want of it. -/
lemma run_of_config_ok [CharacterNames] {config : Config}
    (hargs : Invocation.ofArguments arguments = .ok invocation)
    (hload : (Config.load directory invocation.config : StateM Machine _) machine =
      (.ok config, machine)) (e : Config.LoadError) :
    ((run directory arguments : StateM Machine Ending) machine).1 ≠ .misconfigured e := by
  rw [run, hargs]
  dsimp only
  rw [bind_run hload]
  dsimp only
  rw [runConfigured]
  intro h
  -- No later step ends the run for its configuration.
  cases hprepare : (prepare ⟨config.logsDirectory, levelOf invocation.verbosity, invocation.quiet⟩
      config : StateM Machine (Except FileError Unit)) machine with
  | mk prepared ready =>
    rw [bind_eq hprepare] at h
    cases prepared with
    | error e => cases h
    | ok _ =>
      cases hcommand : (runCommand ⟨config.logsDirectory, levelOf invocation.verbosity,
          invocation.quiet⟩ config invocation : ExceptT RunError (StateM Machine) Nat).run ready with
      | mk result machine' =>
        dsimp only at h
        rw [bind_eq hcommand] at h
        cases result with
        | ok code => cases h
        | error e =>
          dsimp only at h
          cases hreport : e.report? with
          | none =>
            rw [hreport] at h
            cases h
          | some message =>
            rw [hreport] at h
            cases h

/-- A configuration file with any text is read, or reported with the exit code for configurations
that cannot be used, exactly if the text holds no JSON, or holds data of the form that is asked of
it. Other data breaks the run off without a report. That an interpreter gives up on JSON that is
nested too deep is left out. -/
theorem reported_iff_readable [CharacterNames] {path : Option Path} {text : String}
    (h : machine.textAt (path.getD (Config.fileIn directory)) = .ok text) :
    (Config.Decided ((Config.load directory path : StateM Machine _) machine).1 ↔
      ∀ data, Json.parse text = .ok data → Config.Readable data) ∧
    ∀ arguments invocation, Invocation.ofArguments arguments = .ok invocation →
      invocation.config = path →
      ((∃ e, ((run directory arguments : StateM Machine Ending) machine).1 = .misconfigured e) ↔
        ∃ data, Json.parse text = .ok data ∧ ¬Config.Readable data) ∧
      ∀ e, ((Config.load directory path : StateM Machine _) machine).1 = .error e → e.isReported →
        (run directory arguments : StateM Machine Ending) machine =
          (.exited exitUsage, { machine with
            errors := machine.errors ++ ("Invalid configuration: " ++ e.message ++ "\n") }) := by
  have hload := Config.load_run h
  have hdecided := Config.decided_ofText_iff directory text
  rw [hload]
  refine ⟨hdecided, fun arguments invocation hargs hpath => ⟨?_, fun e he hreported => ?_⟩⟩
  · -- A run is broken off exactly if reading is not decided, which depends on the text alone.
    have hbroken : (∃ data, Json.parse text = .ok data ∧ ¬Config.Readable data) ↔
        ¬Config.Decided (Config.ofText directory text) := by
      rw [hdecided]
      simp only [not_forall, exists_prop]
    rw [hbroken]
    cases hresult : Config.ofText directory text with
    | ok config =>
      rw [← hpath, hresult] at hload
      refine iff_of_false ?_ fun hnot => hnot trivial
      rintro ⟨e, he⟩
      exact run_of_config_ok hargs hload e he
    | error e =>
      rw [← hpath, hresult] at hload
      rw [run_of_config_error hargs hload]
      by_cases hreported : e.isReported = true
      · simp [Config.Decided, hreported]
      · simp [Config.Decided, hreported]
  · dsimp only at he
    rw [he, ← hpath] at hload
    rw [run_of_config_error hargs hload, if_pos hreported]

/-- A machine with a configuration file that holds some data. -/
def configuredMachine (data : Json) : Machine :=
  usedMachine [(["w", "ua", "config.json"], .file (Utf8.encode (data.render (.indented 2))))] ""

lemma textAt_configuredMachine {data : Json} (h : data.isPlain) :
    (configuredMachine data).textAt (Config.fileIn (.ofText "ua")) =
      .ok (data.render (.indented 2)) := by
  have hlines : '\r' ∉ (data.render (.indented 2)).toList := by
    intro hmem
    have := Json.printable_render h (.indented 2) '\r' hmem
    simp at this
  have hread : (configuredMachine data).files.read (Config.fileIn (.ofText "ua")) =
      .ok (Utf8.encode (data.render (.indented 2))) := rfl
  rw [textAt, hread]
  dsimp only
  rw [Host.textOf, Utf8.decode_encode]
  show Except.ok (Text.normalizeLines _) = Except.ok _
  rw [Text.normalizeLines_eq_self hlines]

/-- A configuration with a form of output that does not exist. -/
def unknownFormat : Json :=
  .obj [("config_dir", .str "ua"), ("output", .obj [("format", .str "xml")])]

/-- It has the form that is asked of it, and so the format is reported. -/
theorem reported_iff_readable_unknownFormat :
    (configuredMachine unknownFormat).textAt (Config.fileIn (.ofText "ua")) =
        .ok (unknownFormat.render (.indented 2)) ∧
      Config.Readable unknownFormat ∧
      (run (.ofText "ua") [] : StateM Machine Ending) (configuredMachine unknownFormat) =
        (.exited exitUsage, { configuredMachine unknownFormat with
          errors := (configuredMachine unknownFormat).errors ++ ("Invalid configuration: " ++
            (Config.LoadError.refused (.unknownFormat (.str "xml"))).message ++ "\n") }) := by
  have hplain : unknownFormat.isPlain := by
    simp [unknownFormat, Json.isPlain, Json.membersArePlain, Assoc.keys]
  have htext := textAt_configuredMachine hplain
  have hparse := Json.parse_render hplain (.indented 2)
  have hresult : Config.ofText (.ofText "ua") (unknownFormat.render (.indented 2)) =
      .error (.refused (.unknownFormat (.str "xml"))) := by
    rw [Config.ofText, hparse]
    rfl
  have hload : ((Config.load (.ofText "ua") none : StateM Machine _)
      (configuredMachine unknownFormat)).1 = .error (.refused (.unknownFormat (.str "xml"))) := by
    rw [@Config.load_run _ none _ _ htext, hresult]
  obtain ⟨hdecided, hrun⟩ := @reported_iff_readable _ _ _ none _ htext
  obtain ⟨-, hreport⟩ := hrun [] {} ofArguments_nil rfl
  refine ⟨htext, hdecided.mp ?_ _ hparse, hreport _ hload rfl⟩
  rw [hload]
  rfl

/-- A configuration with a text in place of its settings for output. -/
def sectionIsText : Json :=
  .obj [("output", .str "json")]

/-- It is neither read nor reported. -/
theorem section_not_reported :
    (configuredMachine sectionIsText).textAt (Config.fileIn (.ofText "ua")) =
        .ok (sectionIsText.render (.indented 2)) ∧
      ¬Config.Decided ((Config.load (.ofText "ua") none : StateM Machine _)
        (configuredMachine sectionIsText)).1 ∧
      ((run (.ofText "ua") [] : StateM Machine Ending) (configuredMachine sectionIsText)).1 =
        .misconfigured (.refused .notObject) := by
  have hplain : sectionIsText.isPlain := by
    simp [sectionIsText, Json.isPlain, Json.membersArePlain, Assoc.keys]
  have htext := textAt_configuredMachine hplain
  have hresult : Config.ofText (.ofText "ua") (sectionIsText.render (.indented 2)) =
      .error (.refused .notObject) := by
    rw [Config.ofText, Json.parse_render hplain]
    rfl
  have hload := @Config.load_run _ none _ _ htext
  rw [hresult] at hload
  refine ⟨htext, ?_, ?_⟩
  · rw [hload]
    exact Bool.false_ne_true
  · rw [run_of_config_error ofArguments_nil hload]
    rfl

end CommandLine

end UserAgent
