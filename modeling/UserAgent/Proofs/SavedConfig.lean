import UserAgent.Config.File
import UserAgent.Proofs.JsonText
import UserAgent.Proofs.WrittenFiles

/-!
# Configurations that were saved

A configuration is seen from the directory of the program when it is read, and again when it is read
back after it was saved. `Config.load_save_iff` says which configurations are read back as they were.
-/

namespace UserAgent

open Compiled

/-! ### Paths -/

namespace Path

/-- The names of a path have a meaning and hold no separator. -/
def Normal (p : Path) : Prop :=
  ∀ name ∈ p.names, isName name ∧ '/' ∉ name.toList

/-- A path that is read from a text is normal. -/
lemma normal_ofText (text : String) : (ofText text).Normal := by
  intro name hname
  obtain ⟨hmem, hisName⟩ := List.mem_filter.mp hname
  obtain ⟨part, hpart, rfl⟩ := List.mem_map.mp hmem
  refine ⟨hisName, ?_⟩
  rw [String.toList_ofList]
  exact Text.not_mem_of_mem_splitAfter List.not_mem_nil hpart

lemma Normal.below {directory p : Path} (hdirectory : directory.Normal) (hp : p.Normal) :
    (directory.below p).Normal := by
  rw [Path.below]
  split
  · exact hp
  · intro name hname
    exact (List.mem_append.mp hname).elim (hdirectory name) (hp name)

lemma rootOf_eq {cs : List Char} (h : cs.head? ≠ some '/') :
    rootOf cs = .none ∧ rootOf ('/' :: cs) = .slash ∧ rootOf ('/' :: '/' :: cs) = .twoSlashes := by
  cases cs with
  | nil => exact ⟨rfl, rfl, rfl⟩
  | cons c cs =>
    have hc : c ≠ '/' := by simpa using h
    simp [rootOf, hc]

lemma splitOn_slash (text : String) :
    Text.splitOn '/' ("/" ++ text) = "" :: Text.splitOn '/' text := by
  simp [Text.splitOn, Text.splitAfter]

section Normal

variable {names : List String} (h : ∀ name ∈ names, isName name ∧ '/' ∉ name.toList)

include h

lemma head?_joinWith : (Text.joinWith "/" names).toList.head? ≠ some '/' := by
  cases names with
  | nil => simp [Text.joinWith]
  | cons name names =>
    obtain ⟨hname, hslash⟩ := h name List.mem_cons_self
    have hhead : ∃ c cs, name.toList = c :: cs ∧ c ≠ '/' := by
      cases hcs : name.toList with
      | nil => simp [isName, String.toList_eq_nil_iff.mp hcs] at hname
      | cons c cs => exact ⟨c, cs, rfl, fun heq => hslash (by simp [hcs, heq])⟩
    obtain ⟨c, cs, hcs, hc⟩ := hhead
    cases names with
    | nil => simp [Text.joinWith, hcs, hc]
    | cons next names => simp [Text.joinWith, hcs, hc]

/-- Names that are joined by slashes are split into the same names. -/
lemma filter_splitOn_joinWith :
    (Text.splitOn '/' (Text.joinWith "/" names)).filter isName = names := by
  cases names with
  | nil => simp [Text.joinWith, Text.splitOn, Text.splitAfter, isName]
  | cons name names =>
    have hsplit := Text.splitOn_joinWith (List.cons_ne_nil name names) fun s hs => (h s hs).2
    rw [show "/" = String.ofList ['/'] from rfl, hsplit]
    exact List.filter_eq_self.mpr fun s hs => (h s hs).1

end Normal

/-- The text of a path stands for that path. -/
lemma ofText_toText {p : Path} (h : p.Normal) : ofText p.toText = p := by
  obtain ⟨root, names⟩ := p
  have hnames := filter_splitOn_joinWith h
  obtain ⟨hnone, hslash, htwo⟩ := rootOf_eq (head?_joinWith h)
  cases root with
  | none =>
    cases names with
    | nil => rfl
    | cons name names => simp [toText, ofText, PathRoot.text, hnames, hnone]
  | slash => simp [toText, ofText, PathRoot.text, splitOn_slash, hslash, hnames, isName]
  | twoSlashes =>
    have htext : "//" ++ Text.joinWith "/" names = "/" ++ ("/" ++ Text.joinWith "/" names) := by
      rw [← String.append_assoc]
      rfl
    simp [toText, ofText, PathRoot.text, htext, splitOn_slash, htwo, hnames, isName]

lemma isAbsolute_below {directory : Path} (h : directory.isAbsolute) (p : Path) :
    (directory.below p).isAbsolute := by
  rw [below]
  split <;> assumption

/-- When a path that is seen from a directory stays the same if it is seen from there again. -/
lemma below_below_eq_iff (directory p : Path) : directory.below (directory.below p) =
    directory.below p ↔ directory.names = [] ∨ (directory.below p).isAbsolute := by
  rw [below]
  by_cases h : (directory.below p).isAbsolute
  · simp [h]
  · rw [if_neg h]
    have hp : ¬p.isAbsolute := by
      intro hp
      rw [below, if_pos hp] at h
      exact h hp
    have habsolute : Path.isAbsolute { directory with names := directory.names ++ p.names } = false := by
      simpa [below, hp] using h
    simp [below, hp, habsolute]

end Path

/-! ### Configurations -/

namespace Config

/-- A path of a configuration is normal. -/
lemma normal_of_path? {key : String} {data : Json} {p : Path} (h : path? key data = .ok (some p)) :
    p.Normal := by
  obtain ⟨found, -, h⟩ := bind_eq_ok.mp h
  split at h
  · obtain rfl := Option.some_inj.mp (pure_eq_ok.mp h)
    exact Path.normal_ofText _
  · cases h
  · cases h

/-- The directories of a configuration are seen from its own directory. -/
lemma normal_of_ofJson {directory : Path} {data : Json} {c : Config} (hdirectory : directory.Normal)
    (h : ofJson directory data = .ok c) : c.configDirectory.Normal ∧ c.rulesDirectory.Normal ∧
      c.logsDirectory.Normal ∧ (∃ p, c.rulesDirectory = c.configDirectory.below p) ∧
      ∃ p, c.logsDirectory = c.configDirectory.below p := by
  simp only [ofJson, bind_eq_ok, pure_eq_ok] at h
  obtain ⟨config, hconfig, parser, -, output, -, rules, hrules, logs, hlogs, settings, -, rfl⟩ := h
  have hnormal : ∀ {key found} {default : Path}, path? key data = .ok found → default.Normal →
      (found.getD default).Normal := by
    intro key found default hpath hdefault
    cases found with
    | none => exact hdefault
    | some p => exact normal_of_path? hpath
  have hd := hnormal hconfig hdirectory
  exact ⟨hd, hd.below (hnormal hrules (Path.normal_ofText _)),
    hd.below (hnormal hlogs (Path.normal_ofText _)), ⟨_, rfl⟩, _, rfl⟩

/-- What a saved configuration is read back as: its directories are seen from the directory of the
program once more. -/
lemma ofJson_toJson {c : Config} (directory : Path) (hconfig : c.configDirectory.Normal)
    (hrules : c.rulesDirectory.Normal) (hlogs : c.logsDirectory.Normal) :
    ofJson directory c.toJson = .ok (ofDirectories c.configDirectory c.rulesDirectory
      c.logsDirectory c.parser c.output) := by
  have hread : ofJson directory c.toJson = (outputSettings [("format", .str c.output.format.name),
      ("color", c.output.color), ("show_empty", c.output.showEmpty)]).map
      (ofDirectories (.ofText c.configDirectory.toText) (.ofText c.rulesDirectory.toText)
        (.ofText c.logsDirectory.toText) c.parser) := rfl
  have hformat : OutputFormat.ofJson? (.str c.output.format.name) = some c.output.format := by
    cases c.output.format <;> rfl
  have houtput : outputSettings [("format", .str c.output.format.name),
      ("color", c.output.color), ("show_empty", c.output.showEmpty)] = .ok c.output := by
    simp only [outputSettings, setting, Assoc.get?_cons, if_pos, Option.getD_some, hformat]
    rfl
  rw [hread, houtput, Path.ofText_toText hconfig, Path.ofText_toText hrules,
    Path.ofText_toText hlogs]
  rfl

/-- The directory of the program is the working directory, or the other directories do not depend on
it. -/
def Settled (c : Config) : Prop :=
  c.configDirectory.names = [] ∨ c.rulesDirectory.isAbsolute ∧ c.logsDirectory.isAbsolute

/-- The settings are texts and flags where these are meant. -/
structure WellTyped (c : Config) : Prop where
  rulesFile : ∃ s, c.parser.rulesFile = .str s
  strictTransforms : ∃ b, c.parser.strictTransforms = .bool b
  verifyHash : ∃ b, c.parser.verifyHash = .bool b
  expectedHash : ∃ s, c.parser.expectedHash = .str s
  userAgentVariable : ∃ s, c.parser.userAgentVariable = .str s
  color : ∃ b, c.output.color = .bool b
  showEmpty : ∃ b, c.output.showEmpty = .bool b

lemma WellTyped.isPlain_toJson {c : Config} (h : c.WellTyped) : c.toJson.isPlain := by
  obtain ⟨⟨_, h₁⟩, ⟨_, h₂⟩, ⟨_, h₃⟩, ⟨_, h₄⟩, ⟨_, h₅⟩, ⟨_, h₆⟩, _, h₇⟩ := h
  simp [toJson, h₁, h₂, h₃, h₄, h₅, h₆, h₇, Json.isPlain, Json.membersArePlain, Assoc.keys]

/-- The text of a saved configuration is in its file. -/
lemma textAt_of_save {c : Config} {machine machine' : Machine} {path : Option Path} {file : Path}
    (h : (save c path : StateM Machine (Except FileError Path)) machine = (.ok file, machine'))
    (hplain : c.toJson.isPlain) : machine'.textAt file = .ok c.toText := by
  have hlines : '\r' ∉ c.toText.toList := by
    intro hmem
    have := Json.printable_render hplain (.indented 2) '\r' hmem
    simp at this
  generalize hpath : path.getD (fileIn c.configDirectory) = target at h
  rw [save, hpath] at h
  cases hmake : (Host.makeDirectories target.parent : StateM Machine (Except FileError Unit))
      machine with
  | mk made machine₁ =>
    replace h := (Machine.bind_eq hmake _).symm.trans h
    cases made with
    | error e => cases h
    | ok _ =>
      cases hwrite : (Host.writeText target c.toText : StateM Machine (Except FileError Unit))
          machine₁ with
      | mk written machine₂ =>
        replace h := (Machine.bind_eq hwrite _).symm.trans h
        cases written with
        | error e => cases h
        | ok _ =>
          cases h
          exact Machine.textAt_of_writeText hwrite hlines

/-- A configuration of well-typed settings is read from its text as from its JSON object. -/
lemma ofText_toText {c : Config} (directory : Path) (h : c.toJson.isPlain) :
    ofText directory c.toText = (ofJson directory c.toJson).mapError .refused := by
  rw [ofText, toText, Json.parse_render h]

/-- A configuration is loaded from the text of its file. -/
lemma load_of_textAt {directory file : Path} {machine : Machine} {text : String}
    (h : machine.textAt file = .ok text) :
    (load directory (some file) : StateM Machine (Except LoadError Config)) machine =
      (ofText directory text, machine) := by
  rw [load, Option.getD_some, Machine.bind_run (machine.pathExists_run file),
    machine.isSome_lookup?_of_textAt file h, if_pos rfl,
    Machine.bind_run (machine.readText_run file), h]
  rfl

/-- A configuration that was read and saved is read back with its directories seen from the directory of
the program once more. It is the same exactly if that directory is the working directory or the other
directories are absolute, which they always are if it is absolute itself. -/
theorem load_save_iff {directory : Path} {data : Json} {c : Config} (hdirectory : directory.Normal)
    (h : ofJson directory data = .ok c) :
    (∀ directory', ofJson directory' c.toJson = .ok (ofDirectories c.configDirectory c.rulesDirectory
      c.logsDirectory c.parser c.output)) ∧
    (∀ directory', ofJson directory' c.toJson = .ok c ↔ c.Settled) ∧
    (c.WellTyped → ∀ machine machine' path file,
      (save c path : StateM Machine (Except FileError Path)) machine = (.ok file, machine') →
      ∀ directory', ((load directory' (some file) : StateM Machine (Except LoadError Config))
        machine').1 = .ok c ↔ c.Settled) ∧
    (c.configDirectory.isAbsolute → c.Settled) := by
  obtain ⟨hconfig, hrules, hlogs, ⟨rules, hrulesBelow⟩, logs, hlogsBelow⟩ :=
    normal_of_ofJson hdirectory h
  have hread := fun directory' => ofJson_toJson directory' hconfig hrules hlogs
  have hiff : ∀ directory', ofJson directory' c.toJson = .ok c ↔ c.Settled := by
    intro directory'
    rw [hread, Except.ok.injEq]
    -- What is read back has each directory below the one of the configuration once more.
    have hsame : ofDirectories c.configDirectory c.rulesDirectory c.logsDirectory c.parser c.output =
        c ↔ c.configDirectory.below c.rulesDirectory = c.rulesDirectory ∧
          c.configDirectory.below c.logsDirectory = c.logsDirectory := by
      obtain ⟨_, _, _, _, _⟩ := c
      simp [ofDirectories]
    have hrulesIff := Path.below_below_eq_iff c.configDirectory rules
    have hlogsIff := Path.below_below_eq_iff c.configDirectory logs
    rw [← hrulesBelow] at hrulesIff
    rw [← hlogsBelow] at hlogsIff
    rw [hsame, hrulesIff, hlogsIff, Settled, ← or_and_left]
  refine ⟨hread, hiff, ?_, ?_⟩
  · intro htyped machine machine' path file hsave directory'
    rw [load_of_textAt (textAt_of_save hsave htyped.isPlain_toJson),
      ofText_toText directory' htyped.isPlain_toJson, ← hiff directory', hread]
    simp [Except.mapError]
  · intro habsolute
    right
    rw [hrulesBelow, hlogsBelow]
    exact ⟨Path.isAbsolute_below habsolute rules, Path.isAbsolute_below habsolute logs⟩

/-- A configuration in an absolute directory. -/
def inHome : Json :=
  .obj [("config_dir", .str "/home/owl/ua"), ("rules_dir", .str "tables"),
    ("output", .obj [("format", .str "json")])]

/-- It is the same after it was saved to its own directory, on a machine without files. -/
theorem load_save_inHome : ∃ c file machine', ofJson (.ofText "ua") inHome = .ok c ∧
    (save c none : StateM Machine (Except FileError Path)) {} = (.ok file, machine') ∧
    c.rulesDirectory = .ofText "/home/owl/ua/tables" ∧
    ((load (.ofText "ua") (some file) : StateM Machine (Except LoadError Config)) machine').1 =
      .ok c := by
  have hread : ofJson (.ofText "ua") inHome = .ok (ofDirectories (.ofText "/home/owl/ua")
      (.ofText "tables") (.ofText "logs") {} { format := .json }) := by
    decide +kernel
  generalize hc : ofDirectories (.ofText "/home/owl/ua") (.ofText "tables") (.ofText "logs") {}
    { format := .json } = c at hread
  have hsaved : ((save c none : StateM Machine (Except FileError Path)) {}).1 =
      .ok (.ofText "/home/owl/ua/config.json") := by
    subst hc
    decide +kernel
  obtain ⟨-, -, hload, hsettled⟩ := load_save_iff (Path.normal_ofText "ua") hread
  have htyped : c.WellTyped := by
    subst hc
    exact ⟨⟨_, rfl⟩, ⟨_, rfl⟩, ⟨_, rfl⟩, ⟨_, rfl⟩, ⟨_, rfl⟩, ⟨_, rfl⟩, ⟨_, rfl⟩⟩
  have habsolute : c.configDirectory.isAbsolute := by
    subst hc
    decide +kernel
  have hsave : (save c none : StateM Machine (Except FileError Path)) {} =
      (.ok (.ofText "/home/owl/ua/config.json"), ((save c none : StateM Machine _) {}).2) :=
    Prod.ext hsaved rfl
  refine ⟨c, _, _, hread, hsave, ?_, (hload htyped _ _ _ _ hsave _).mpr (hsettled habsolute)⟩
  subst hc
  decide +kernel

/-- A configuration in a directory that is seen from the working directory. -/
def inWorkingDirectory : Json :=
  .obj [("config_dir", .str "ua")]

/-- Its other directories move when it is read back. -/
theorem directories_moved : ∃ c c', ofJson (.ofText "/home/owl/ua") inWorkingDirectory = .ok c ∧
    ofJson (.ofText "/home/owl/ua") c.toJson = .ok c' ∧
    c.rulesDirectory = .ofText "ua/rules" ∧ c'.rulesDirectory = .ofText "ua/ua/rules" ∧ c' ≠ c := by
  have hany : (ofJson (.ofText "/home/owl/ua") inWorkingDirectory).toOption.any (fun c =>
      (ofJson (.ofText "/home/owl/ua") c.toJson).toOption.any fun c' =>
        decide (c.rulesDirectory = .ofText "ua/rules" ∧
          c'.rulesDirectory = .ofText "ua/ua/rules" ∧ c' ≠ c)) = true := by
    decide +kernel
  obtain ⟨c, hc, h⟩ := exists_ok_of_any hany
  obtain ⟨c', hc', h⟩ := exists_ok_of_any h
  exact ⟨c, c', hc, hc', of_decide_eq_true h⟩

end Config

end UserAgent
