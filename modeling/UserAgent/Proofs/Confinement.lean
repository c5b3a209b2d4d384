import UserAgent.CommandLine.Run
import UserAgent.Proofs.RuleSources
import UserAgent.Proofs.WrittenFiles

/-!
# What a run may change

Most steps of the program print nothing and change no file but its own logs. A step is confined to some
paths if, on every machine, it changes only the files that these paths lead to, the directories that it
adds, and the error output (`Machine.Confined`). Confined steps make confined runs.
-/

namespace UserAgent

open Compiled

/-! ### Trees -/

namespace FileTree

variable {t t' t'' : FileTree} {location : Location} {p : Path} {paths : List Path}

/-- The content of the file at a location, if there is a file. -/
def content? (t : FileTree) (location : Location) : Option (List UInt8) :=
  match t.entry? location with
  | some (.file content) => some content
  | _ => none

/-- The second tree has the directories of the first one, so paths lead where they led. -/
structure Extends (t t' : FileTree) : Prop where
  workingDirectory_eq : t'.workingDirectory = t.workingDirectory
  directory : ∀ location, t.entry? location = some .directory → t'.entry? location = some .directory

/-- Where names lead in a tree, they lead in a tree that extends it. -/
lemma Extends.follow (h : Extends t t') {names : List String} {start : Location}
    (hfollow : t.follow start names = .ok location) : t'.follow start names = .ok location := by
  induction names generalizing start with
  | nil => exact hfollow
  | cons name names ih =>
    rw [FileTree.follow] at hfollow ⊢
    cases hstart : t.entry? start with
    | none => simp [hstart] at hfollow
    | some entry =>
      cases entry with
      | file content => simp [hstart] at hfollow
      | directory =>
        rw [hstart] at hfollow
        rw [h.directory start hstart]
        exact ih hfollow

/-- So does a path. -/
lemma Extends.locate (h : Extends t t') (hlocate : t.locate p = .ok location) :
    t'.locate p = .ok location := by
  rw [locate_eq_ok, h.workingDirectory_eq]
  exact h.follow (locate_eq_ok.mp hlocate)

/-- The second tree differs from the first one in directories that are added, and in the files that
some paths lead to. -/
structure ChangesOnly (paths : List Path) (t t' : FileTree) : Prop extends Extends t t' where
  content?_eq : ∀ location, (∀ p ∈ paths, t'.locate p ≠ .ok location) →
    t'.content? location = t.content? location

namespace ChangesOnly

lemma refl (paths : List Path) (t : FileTree) : ChangesOnly paths t t :=
  ⟨⟨rfl, fun _ h => h⟩, fun _ _ => rfl⟩

/-- Changes to the same files may follow each other. -/
lemma trans (h : ChangesOnly paths t t') (h' : ChangesOnly paths t' t'') :
    ChangesOnly paths t t'' where
  workingDirectory_eq := h'.workingDirectory_eq.trans h.workingDirectory_eq
  directory location hdirectory := h'.directory location (h.directory location hdirectory)
  content?_eq location hpaths := by
    rw [h'.content?_eq location hpaths, h.content?_eq location]
    intro p hp hlocate
    exact hpaths p hp (h'.toExtends.locate hlocate)

end ChangesOnly

/-- An entry that takes the place of none, or of a file, takes no directory away. -/
lemma extends_setEntry (hfile : t.entry? location ≠ some .directory) (entry : Entry) :
    Extends t (t.setEntry location entry) := by
  refine ⟨rfl, fun other hother => ?_⟩
  have hne : location ≠ other := by
    rintro rfl
    exact hfile hother
  rw [found_setEntry_of_ne hne, hother]

/-- An entry that is set leaves the content of every other place. -/
lemma content?_setEntry_of_ne {other : Location} (h : location ≠ other) (entry : Entry) :
    (t.setEntry location entry).content? other = t.content? other := by
  rw [content?, content?, found_setEntry_of_ne h]

/-- To append is to set one entry, at the place where the path leads, which is no directory. -/
lemma exists_setEntry_of_append {content : List UInt8} (h : t.append p content = .ok t') :
    ∃ location entry, t.locate p = .ok location ∧ t.entry? location ≠ some .directory ∧
      t' = t.setEntry location entry := by
  obtain ⟨location, hlocate, h⟩ := bind_eq_ok.mp h
  cases hentry : t.entry? location with
  | none =>
    rw [hentry] at h
    exact ⟨location, _, hlocate, by simp [hentry], (pure_eq_ok.mp h).symm⟩
  | some entry =>
    rw [hentry] at h
    cases entry with
    | file old => exact ⟨location, _, hlocate, by simp [hentry], (pure_eq_ok.mp h).symm⟩
    | directory => cases h

/-- To append to one of the files changes these files only. -/
lemma changesOnly_append {content : List UInt8} (hp : p ∈ paths) (h : t.append p content = .ok t') :
    ChangesOnly paths t t' := by
  obtain ⟨location, entry, hlocate, hfile, rfl⟩ := exists_setEntry_of_append h
  refine ⟨extends_setEntry hfile entry, fun other hother => ?_⟩
  apply content?_setEntry_of_ne
  rintro rfl
  exact hother p hp (locate_setEntry entry hfile hlocate)

/-- A directory that is made changes no file. -/
lemma changesOnly_makeDirectory (h : t.makeDirectory p = .ok t') : ChangesOnly paths t t' := by
  obtain ⟨location, -, h⟩ := bind_eq_ok.mp h
  cases hentry : t.entry? location with
  | some entry =>
    rw [hentry] at h
    cases h
  | none =>
    rw [hentry] at h
    obtain rfl := pure_eq_ok.mp h
    have hroot : location ≠ [] := by
      rintro rfl
      cases hentry
    refine ⟨extends_setEntry (by simp [hentry]) .directory, fun other _ => ?_⟩
    by_cases hother : location = other
    · subst hother
      simp [content?, hentry, found_setEntry_self hroot]
    · exact content?_setEntry_of_ne hother _

lemma lookup?_eq_some {entry : Entry} : t.lookup? p = some entry ↔
    ∃ location, t.locate p = .ok location ∧ t.entry? location = some entry := by
  rw [lookup?]
  cases t.locate p <;> simp

lemma makeDirectory_of_exists (h : t.lookup? p = some .directory) :
    t.makeDirectory p = .error ⟨.alreadyExists, p⟩ := by
  obtain ⟨location, hlocate, hentry⟩ := lookup?_eq_some.mp h
  refine bind_eq_error.mpr (.inr ⟨location, hlocate, ?_⟩)
  rw [hentry]

/-- Nothing is added to a file that exists. -/
lemma append_nil_of_exists {content : List UInt8} (h : t.lookup? p = some (.file content)) :
    t.append p [] = .ok t := by
  obtain ⟨location, hlocate, hentry⟩ := lookup?_eq_some.mp h
  have hget : Assoc.get? location t.entries = some (.file content) := by
    unfold entry? at hentry
    split at hentry
    · cases hentry
    · exact hentry
  refine bind_eq_ok.mpr ⟨location, hlocate, ?_⟩
  rw [hentry]
  dsimp only
  rw [List.append_nil, setEntry, Assoc.insert_of_get?_eq_some hget]
  rfl

end FileTree

/-! ### Machines -/

namespace Machine

open Host

variable {paths : List Path} {machine machine' machine'' : Machine}

/-- The second machine differs from the first one in its error output, in directories that are added,
and in the files that some paths lead to. -/
structure ChangesOnly (paths : List Path) (machine machine' : Machine) : Prop where
  files : machine.files.ChangesOnly paths machine'.files
  environment_eq : machine'.environment = machine.environment
  input_eq : machine'.input = machine.input
  unifiesLineEnds_eq : machine'.unifiesLineEnds = machine.unifiesLineEnds
  terminal_eq : machine'.terminal = machine.terminal
  output_eq : machine'.output = machine.output

namespace ChangesOnly

lemma refl (paths : List Path) (machine : Machine) : ChangesOnly paths machine machine :=
  ⟨.refl paths _, rfl, rfl, rfl, rfl, rfl⟩

lemma trans (h : ChangesOnly paths machine machine') (h' : ChangesOnly paths machine' machine'') :
    ChangesOnly paths machine machine'' where
  files := h.files.trans h'.files
  environment_eq := h'.environment_eq.trans h.environment_eq
  input_eq := h'.input_eq.trans h.input_eq
  unifiesLineEnds_eq := h'.unifiesLineEnds_eq.trans h.unifiesLineEnds_eq
  terminal_eq := h'.terminal_eq.trans h.terminal_eq
  output_eq := h'.output_eq.trans h.output_eq

/-- The change of files leaves what the program reads from its input. -/
lemma inputText_eq (h : ChangesOnly paths machine machine') :
    machine'.inputText = machine.inputText := by
  rw [inputText, inputText, h.input_eq, h.unifiesLineEnds_eq]

end ChangesOnly

/-- On every machine the step changes only files that some paths lead to. -/
def Confined {α : Type} (paths : List Path) (x : StateM Machine α) : Prop :=
  ∀ machine, ChangesOnly paths machine (x machine).2

section Steps

variable {α β ε : Type}

/-- A step that leaves the machine as it is changes no file. -/
lemma confined_of_reads {x : StateM Machine α} (h : ∀ machine, (x machine).2 = machine) :
    Confined paths x := by
  intro machine
  rw [h machine]
  exact .refl paths machine

lemma confined_pure (a : α) : Confined paths (pure a : StateM Machine α) :=
  confined_of_reads fun _ => rfl

/-- Steps that change only certain files do so one after the other. -/
lemma confined_bind {x : StateM Machine α} {f : α → StateM Machine β} (hx : Confined paths x)
    (hf : ∀ a, Confined paths (f a)) : Confined paths (x >>= f) :=
  fun machine => (hx machine).trans (hf (x machine).1 (x machine).2)

/-- So does a step that is taken for each item of a list. -/
lemma confined_forM {xs : List α} {f : α → StateM Machine PUnit} (hf : ∀ a, Confined paths (f a)) :
    Confined paths (xs.forM f) := by
  induction xs with
  | nil => exact confined_pure ()
  | cons x xs ih => exact confined_bind (hf x) fun _ => ih

/-- The same for steps that may fail. -/
lemma confined_run_bind {x : ExceptT ε (StateM Machine) α} {f : α → ExceptT ε (StateM Machine) β}
    (hx : Confined paths x.run) (hf : ∀ a, Confined paths (f a).run) :
    Confined paths (x >>= f).run := by
  rw [ExceptT.run_bind]
  refine confined_bind hx fun result => ?_
  cases result with
  | ok a => exact hf a
  | error e => exact confined_pure _

lemma confined_run_lift {x : StateM Machine α} (hx : Confined paths x) :
    Confined paths (ExceptT.lift x : ExceptT ε (StateM Machine) α).run :=
  confined_bind hx fun _ => confined_pure _

/-- A step that gives a value, before another one. -/
lemma run_bind_of_ok {x : ExceptT ε (StateM Machine) α} {a : α}
    (h : x.run machine = (.ok a, machine')) (f : α → ExceptT ε (StateM Machine) β) :
    (x >>= f).run machine = (f a).run machine' := by
  rw [ExceptT.run_bind]
  exact bind_eq h _

/-- A step that fails, before another one. -/
lemma run_bind_of_error {x : ExceptT ε (StateM Machine) α} {e : ε}
    (h : x.run machine = (.error e, machine')) (f : α → ExceptT ε (StateM Machine) β) :
    (x >>= f).run machine = (.error e, machine') := by
  rw [ExceptT.run_bind]
  exact bind_eq h _

/-- A step that cannot fail, before another one. -/
lemma run_lift_bind {x : StateM Machine α} {a : α} (h : x machine = (a, machine'))
    (f : α → ExceptT ε (StateM Machine) β) :
    (ExceptT.lift x >>= f).run machine = (f a).run machine' := by
  rw [ExceptT.run_bind_lift]
  exact bind_eq h _

/-! ### Operations of a machine -/

/-- A step is confined if the change that it makes to the tree is. -/
lemma confined_changeFiles {change : FileTree → Except FileError FileTree}
    (h : ∀ t t', change t = .ok t' → t.ChangesOnly paths t') :
    Confined paths (changeFiles change) := by
  intro machine
  rw [changeFiles]
  split
  · rename_i files hfiles
    exact ⟨h _ _ hfiles, rfl, rfl, rfl, rfl, rfl⟩
  · exact .refl paths machine

lemma confined_appendBytes {path : Path} (hpath : path ∈ paths) (content : List UInt8) :
    Confined paths (appendBytes path content : StateM Machine (Except FileError Unit)) :=
  confined_changeFiles fun _ _ h => FileTree.changesOnly_append hpath h

lemma confined_makeDirectory (path : Path) :
    Confined paths (makeDirectory path : StateM Machine (Except FileError Unit)) :=
  confined_changeFiles fun _ _ h => FileTree.changesOnly_makeDirectory h

lemma confined_printErrorLine (line : String) :
    Confined paths (printErrorLine line : StateM Machine Unit) :=
  fun _ => ⟨.refl paths _, rfl, rfl, rfl, rfl, rfl⟩

lemma confined_ensureDirectory (path : Path) :
    Confined paths (ensureDirectory path : StateM Machine (Except FileError Unit)) := by
  refine confined_bind (confined_makeDirectory path) fun result => ?_
  cases result with
  | ok => exact confined_pure _
  | error e => exact confined_bind (confined_of_reads fun _ => rfl) fun _ => confined_pure _

/-- No file changes where missing directories are made, from the outermost one on. -/
lemma confined_ensureDirectories (above : Nat) (path : Path) :
    Confined paths (ensureDirectories above path : StateM Machine (Except FileError Unit)) := by
  induction above generalizing path with
  | zero => exact confined_ensureDirectory path
  | succ above ih =>
    rw [ensureDirectories]
    refine confined_bind (confined_ensureDirectory path) fun result => ?_
    split
    · refine confined_bind (ih path.parent) fun made => ?_
      split
      · exact confined_ensureDirectory path
      · exact confined_pure _
    · exact confined_pure _

lemma confined_makeDirectories (path : Path) :
    Confined paths (makeDirectories path : StateM Machine (Except FileError Unit)) :=
  confined_ensureDirectories _ path

lemma appendBytes_nil_run {path : Path} {content : List UInt8}
    (h : machine.files.lookup? path = some (.file content)) :
    (appendBytes path [] : StateM Machine (Except FileError Unit)) machine = (.ok (), machine) := by
  show changeFiles (·.append path []) machine = _
  rw [changeFiles, FileTree.append_nil_of_exists h]

/-- To make sure of a directory that exists changes nothing. -/
lemma ensureDirectory_run {path : Path} (h : machine.files.lookup? path = some .directory) :
    (ensureDirectory path : StateM Machine (Except FileError Unit)) machine =
      (.ok (), machine) := by
  have hmake : (makeDirectory path : StateM Machine (Except FileError Unit)) machine =
      (.error ⟨.alreadyExists, path⟩, machine) := by
    show changeFiles (·.makeDirectory path) machine = _
    rw [changeFiles, FileTree.makeDirectory_of_exists h]
  have hexists : (isDirectory path : StateM Machine Bool) machine = (true, machine) := by
    show (machine.files.lookup? path == some .directory, machine) = _
    rw [h]
    rfl
  rw [ensureDirectory, bind_run hmake]
  dsimp only
  rw [bind_run hexists]
  rfl

/-- So it is with all directories above it. -/
lemma makeDirectories_run {path : Path} (h : machine.files.lookup? path = some .directory) :
    (makeDirectories path : StateM Machine (Except FileError Unit)) machine =
      (.ok (), machine) := by
  rw [makeDirectories]
  cases path.names.length with
  | zero => exact ensureDirectory_run h
  | succ above => exact bind_run (ensureDirectory_run h) _

end Steps

end Machine

/-! ### Journals -/

open Machine

namespace CommandLine

namespace Journal

/-- The files of a journal. -/
def files (journal : Journal) : List Path :=
  [journal.mainFile, journal.resultsFile]

variable (journal : Journal)

/-- To open the journal changes its own files only. -/
lemma confined_prepare :
    Confined journal.files (journal.prepare : StateM Machine (Except FileError Unit)) := by
  refine confined_bind (confined_makeDirectories _) fun made => ?_
  cases made with
  | error e => exact confined_pure _
  | ok =>
    refine confined_bind (confined_appendBytes (by simp [files]) []) fun opened => ?_
    cases opened with
    | error e => exact confined_pure _
    | ok => exact confined_appendBytes (by simp [files]) []

/-- So does an entry that is written to it. -/
lemma confined_write (entry : LogEntry) :
    Confined journal.files (journal.write entry : StateM Machine Unit) := by
  rw [write]
  split
  · refine confined_bind (confined_of_reads fun _ => rfl) fun time => ?_
    refine confined_bind (confined_appendBytes (by simp [files]) _) fun _ => ?_
    split
    · exact confined_printErrorLine _
    · exact confined_pure _
  · exact confined_pure _

lemma confined_follow {α : Type} (x : Logged α) :
    Confined journal.files (journal.follow x : StateM Machine α) :=
  confined_bind (confined_forM journal.confined_write) fun _ => confined_pure _

lemma confined_writeResult (r : Classification) (nanoseconds : Nat) :
    Confined journal.files (journal.writeResult r nanoseconds : StateM Machine Unit) := by
  refine confined_bind (confined_of_reads fun _ => rfl) fun time => ?_
  exact confined_bind (confined_appendBytes (by simp [files]) _) fun _ => confined_pure _

end Journal

/-! ### Steps of a run -/

section Steps

variable {journal : Journal} {config : Config}

lemma confined_prepare_makeAll {paths : List Path} (directories : List Path) :
    Confined paths (prepare.makeAll directories : StateM Machine (Except FileError Unit)) := by
  induction directories with
  | nil => exact confined_pure _
  | cons path rest ih =>
    refine confined_bind (confined_makeDirectories path) fun made => ?_
    cases made with
    | error e => exact confined_pure _
    | ok => exact ih

/-- The preparation of a run changes the files of the journal only. -/
lemma confined_prepare : Confined journal.files
    (prepare journal config : StateM Machine (Except FileError Unit)) := by
  refine confined_bind journal.confined_prepare fun prepared => ?_
  cases prepared with
  | error e => exact confined_pure _
  | ok => exact confined_prepare_makeAll _

lemma confined_attempt {ε α : Type} (wrap : ε → RunError) (x : Logged (Except ε α)) :
    Confined journal.files (attempt (m := StateM Machine) journal wrap x).run := by
  refine confined_run_bind (confined_run_lift (journal.confined_follow x)) fun value => ?_
  cases value <;> exact confined_pure _

lemma confined_load [CharacterNames] {paths : List Path} (options : LoadOptions) (path : Path) :
    Confined paths (RuleSet.load (m := StateM Machine) options path) :=
  confined_of_reads fun machine => congrArg Prod.snd (RuleSet.load_run options machine path)

/-- The rules of a configuration are chosen without a change to files. -/
lemma confined_ownRules [CharacterNames] {paths : List Path} :
    Confined paths (config.ownRules : StateM Machine _) := by
  refine confined_bind (confined_of_reads fun _ => rfl) fun home => ?_
  cases config.rulesPath? home with
  | error e => exact confined_pure _
  | ok path =>
    cases path with
    | some path => exact confined_bind (confined_load _ path) fun _ => confined_pure _
    | none =>
      dsimp only
      split <;> exact confined_pure _

/-- The rules of a command are chosen with a change to no file but the journal's. -/
lemma confined_chooseRules [CharacterNames] (named : Option Path) :
    Confined journal.files (chooseRules (m := StateM Machine) journal config named).run := by
  cases named with
  | some path =>
    refine confined_run_bind (confined_run_lift (confined_of_reads fun _ => rfl)) fun home => ?_
    cases path.expandHome? home with
    | some path =>
      exact confined_run_bind (confined_run_lift (confined_load _ path)) fun _ => confined_attempt _ _
    | none => exact confined_pure _
  | none =>
    refine confined_run_bind (confined_run_lift confined_ownRules) fun own => ?_
    exact confined_run_bind (confined_attempt _ own) fun _ => confined_pure _

end Steps

/-! ### Runs that get to their command -/

/-- A configuration is loaded without a change to the machine. -/
lemma load_config_run (directory : Path) (path : Option Path) (machine : Machine) :
    (Config.load directory path : StateM Machine _) machine =
      ((Config.load (m := StateM Machine) directory path machine).1, machine) := by
  rw [Config.load, bind_run (machine.pathExists_run _)]
  split
  · rw [bind_run (machine.readText_run _)]
    cases machine.textAt (path.getD (Config.fileIn directory)) with
    | ok text => rfl
    | error e => cases e <;> rfl
  · rfl

/-- The journal that is asked for under a configuration. -/
def Invocation.journal (invocation : Invocation) (config : Config) : Journal :=
  ⟨config.logsDirectory, levelOf invocation.verbosity, invocation.quiet⟩

/-- Directories that exist are left as they are. -/
lemma makeAll_run {machine : Machine} {directories : List Path}
    (h : ∀ path ∈ directories, machine.files.lookup? path = some .directory) :
    (prepare.makeAll directories : StateM Machine (Except FileError Unit)) machine =
      (.ok (), machine) := by
  induction directories with
  | nil => rfl
  | cons path rest ih =>
    obtain ⟨hpath, hrest⟩ := List.forall_mem_cons.mp h
    rw [prepare.makeAll, bind_run (makeDirectories_run hpath)]
    exact ih hrest

/-- A machine that has the directories of a configuration and the files of the journal is left as it
is. -/
lemma prepare_run {invocation : Invocation} {config : Config} {machine : Machine}
    (hdirectories : ∀ path ∈ config.directories, machine.files.lookup? path = some .directory)
    (hfiles : ∀ path ∈ (invocation.journal config).files,
      ∃ content, machine.files.lookup? path = some (.file content)) :
    (prepare (invocation.journal config) config : StateM Machine _) machine = (.ok (), machine) := by
  have hlogs : machine.files.lookup? (invocation.journal config).directory = some .directory :=
    hdirectories config.logsDirectory (by simp [Config.directories])
  obtain ⟨_, hmain⟩ := hfiles (invocation.journal config).mainFile (by simp [Journal.files])
  obtain ⟨_, hresults⟩ := hfiles (invocation.journal config).resultsFile (by simp [Journal.files])
  have hjournal : ((invocation.journal config).prepare : StateM Machine _) machine =
      (.ok (), machine) := by
    rw [Journal.prepare, bind_run (makeDirectories_run hlogs)]
    dsimp only
    rw [bind_run (appendBytes_nil_run hmain)]
    exact appendBytes_nil_run hresults
  rw [prepare, bind_run hjournal]
  exact makeAll_run hdirectories

/-- A machine on which the program has run before, so that its directories and files are there. -/
def usedMachine (others : Assoc Location Entry) (input : String) : Machine where
  files :=
    { entries := [(["w"], .directory), (["w", "ua"], .directory), (["w", "ua", "logs"], .directory),
        (["w", "ua", "rules"], .directory), (["w", "ua", "logs", "main.log"], .file []),
        (["w", "ua", "logs", "results.log"], .file [])] ++ others
      workingDirectory := ["w"] }
  input
  unifiesLineEnds := false

/-- A machine on which the program has run is ready for the next run. -/
lemma prepare_usedMachine (invocation : Invocation) (others : Assoc Location Entry)
    (input : String) :
    (prepare (invocation.journal (.default (.ofText "ua"))) (.default (.ofText "ua")) :
      StateM Machine _) (usedMachine others input) = (.ok (), usedMachine others input) := by
  apply prepare_run
  · simp only [Config.directories, List.forall_mem_cons]
    refine ⟨rfl, rfl, rfl, ?_⟩
    simp
  · simp only [Journal.files, List.forall_mem_cons]
    refine ⟨⟨[], rfl⟩, ⟨[], rfl⟩, ?_⟩
    simp

/-- A run that gets to its command: its arguments are read, so is a configuration, and the directories
are made. -/
structure PreparedRun (directory : Path) (arguments : List String) (machine : Machine) where
  invocation : Invocation
  config : Config
  /-- The machine with all directories. -/
  ready : Machine
  invocation_eq : Invocation.ofArguments arguments = .ok invocation
  config_eq : (Config.load (m := StateM Machine) directory invocation.config machine).1 = .ok config
  ready_eq : (prepare (invocation.journal config) config : StateM Machine _) machine =
    (.ok (), ready)

namespace PreparedRun

variable [CharacterNames] {directory : Path} {arguments : List String} {machine machine' : Machine}
  (prepared : PreparedRun directory arguments machine)

/-- The journal of the run. -/
def journal : Journal :=
  prepared.invocation.journal prepared.config

/-- The command of the run, before it is known how the run ends. -/
def command : StateM Machine (Except RunError Nat) :=
  (runCommand prepared.journal prepared.config prepared.invocation).run

omit [CharacterNames] in
/-- What comes before the command changes the files of the journal only. -/
lemma changesOnly_ready : machine.ChangesOnly prepared.journal.files prepared.ready := by
  have h : machine.ChangesOnly prepared.journal.files
      (prepare (m := StateM Machine) prepared.journal prepared.config machine).2 :=
    confined_prepare machine
  have hready : (prepare prepared.journal prepared.config : StateM Machine _) machine =
      (.ok (), prepared.ready) := prepared.ready_eq
  rwa [hready] at h

/-- How the run ends, given what its command gives. -/
def ending : Except RunError Nat → StateM Machine Ending
  | .ok code => return .exited code
  | .error e =>
    match e.report? with
    | some message => do
      prepared.journal.write ⟨.error, message⟩
      return .exited exitRules
    | none => return .failed e

/-- A run is the run of its command on the machine that is ready, and the report on how that ended.
-/
lemma run_eq : run (m := StateM Machine) directory arguments machine =
    (prepared.command >>= prepared.ending) prepared.ready := by
  have hconfig := load_config_run directory prepared.invocation.config machine
  rw [prepared.config_eq] at hconfig
  rw [run, prepared.invocation_eq]
  refine (bind_run hconfig _).trans ?_
  exact bind_eq prepared.ready_eq _

/-- A run ends as its command does. -/
lemma run_of_ok {code : Nat} (h : prepared.command prepared.ready = (.ok code, machine')) :
    run (m := StateM Machine) directory arguments machine = (.exited code, machine') := by
  rw [prepared.run_eq, bind_eq h]
  rfl

/-- A failure of the command that is reported leaves a line in the journal, and a code of its own. -/
lemma run_of_error {e : RunError} (h : prepared.command prepared.ready = (.error e, machine'))
    {message : String} (hreport : e.report? = some message) :
    run (m := StateM Machine) directory arguments machine =
      (.exited exitRules,
        ((prepared.journal.write ⟨.error, message⟩ : StateM Machine Unit) machine').2) := by
  rw [prepared.run_eq, bind_eq h, ending, hreport]
  rfl

end PreparedRun

end CommandLine

end UserAgent
