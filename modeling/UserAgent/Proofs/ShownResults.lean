import UserAgent.Proofs.CommandWords
import UserAgent.Proofs.Confinement
import UserAgent.Proofs.JsonText
import UserAgent.Proofs.RefinedDevices
import UserAgent.Proofs.SavedConfig

/-!
# Results that are shown

The user agents that a command is asked for are those of its arguments, in their order, and after them
the lines of its input that are not blank; if there are none, it is that of the environment. Asked for
JSON, the command prints one object for every one of them, in the same order, with the records that a
classifier gives in the categories that are selected (`CommandLine.run_shows_results`).
-/

namespace UserAgent

open Compiled Machine

/-! ### Lines -/

namespace Text

/-- A line has no line feed, and no carriage return at its end. -/
structure IsLine (line : List Char) : Prop where
  feedless : '\n' ∉ line
  finished : line.getLast? ≠ some '\r'

/-- Nothing but carriage returns. -/
def AreReturns (cs : List Char) : Prop :=
  ∀ c ∈ cs, c = '\r'

/-- The lines that characters make up. A line feed ends a line; the carriage returns before it, and those
at the end of the text, belong to no line. -/
inductive HasLines : List Char → List (List Char) → Prop
  | last {line returns : List Char} (hline : IsLine line) (hreturns : AreReturns returns) :
      HasLines (line ++ returns) [line]
  | cons {line returns rest : List Char} {lines : List (List Char)} (hline : IsLine line)
      (hreturns : AreReturns returns) (hrest : HasLines rest lines) :
      HasLines (line ++ returns ++ '\n' :: rest) (line :: lines)

lemma AreReturns.not_mem {returns : List Char} (h : AreReturns returns) {c : Char} (hc : c ≠ '\r') :
    c ∉ returns :=
  fun hmem => hc (h c hmem)

/-- A line with its returns holds no line feed. -/
lemma IsLine.feed_not_mem_append {line returns : List Char} (hline : IsLine line)
    (hreturns : AreReturns returns) : '\n' ∉ line ++ returns := by
  rw [List.mem_append, not_or]
  exact ⟨hline.feedless, hreturns.not_mem (by decide)⟩

/-- What is left of a line with carriage returns after it when they are removed. -/
lemma IsLine.dropEndWhile_append {line returns : List Char} (hline : IsLine line)
    (hreturns : AreReturns returns) :
    dropEndWhile (· == '\r') (String.ofList (line ++ returns)) = String.ofList line := by
  have hdropped : (returns.reverse ++ line.reverse).dropWhile (· == '\r') =
      line.reverse.dropWhile (· == '\r') :=
    List.dropWhile_append_of_pos fun c hc => by simp [hreturns c (List.mem_reverse.mp hc)]
  have hkept : line.reverse.dropWhile (· == '\r') = line.reverse := by
    have hhead := hline.finished
    rw [← List.head?_reverse] at hhead
    cases hrev : line.reverse with
    | nil => rfl
    | cons c cs =>
      rw [hrev, List.head?_cons, ne_eq, Option.some_inj] at hhead
      rw [List.dropWhile_cons, if_neg (by simpa using hhead)]
  rw [dropEndWhile, String.toList_ofList, List.reverse_append, hdropped, hkept, List.reverse_reverse]

/-- Every text is cut into its lines. -/
lemma HasLines.map_splitOn {s : String} {lines : List (List Char)} (h : HasLines s.toList lines) :
    (splitOn '\n' s).map (dropEndWhile (· == '\r')) = lines.map String.ofList := by
  rw [splitOn, List.map_map]
  generalize s.toList = cs at h
  induction h with
  | last hline hreturns =>
    rw [splitAfter_of_not_mem (hline.feed_not_mem_append hreturns)]
    exact congrArg ([·]) (hline.dropEndWhile_append hreturns)
  | cons hline hreturns _ ih =>
    rw [splitAfter_append (hline.feed_not_mem_append hreturns), List.map_cons, ih, List.map_cons]
    exact congrArg (· :: _) (hline.dropEndWhile_append hreturns)

/-- A character before a line and the carriage returns after it makes the line longer, or is a carriage
return as well. -/
lemma IsLine.exists_cons {c : Char} {line returns : List Char} (hc : c ≠ '\n') (hline : IsLine line)
    (hreturns : AreReturns returns) : ∃ line' returns', c :: (line ++ returns) = line' ++ returns' ∧
      IsLine line' ∧ AreReturns returns' := by
  have hfeedless : '\n' ∉ c :: line := by
    simp [Ne.symm hc, hline.feedless]
  cases line with
  | nil =>
    by_cases hreturn : c = '\r'
    · exact ⟨[], c :: returns, rfl, hline, List.forall_mem_cons.mpr ⟨hreturn, hreturns⟩⟩
    · exact ⟨[c], returns, rfl, ⟨hfeedless, by simpa using hreturn⟩, hreturns⟩
  | cons d line =>
    exact ⟨c :: d :: line, returns, rfl, ⟨hfeedless, by simpa using hline.finished⟩, hreturns⟩

/-- All characters make up lines. -/
lemma exists_hasLines (cs : List Char) : ∃ lines, HasLines cs lines := by
  have hnil : IsLine [] := ⟨by simp, by simp⟩
  have hnone : AreReturns [] := by simp [AreReturns]
  induction cs with
  | nil => exact ⟨_, .last hnil hnone⟩
  | cons c cs ih =>
    obtain ⟨lines, hlines⟩ := ih
    by_cases hfeed : c = '\n'
    · subst hfeed
      exact ⟨_, .cons hnil hnone hlines⟩
    -- Else the character belongs to the first line, or to the carriage returns after it.
    cases hlines with
    | last hline hreturns =>
      obtain ⟨line', returns', heq, hline', hreturns'⟩ := hline.exists_cons hfeed hreturns
      rw [heq]
      exact ⟨_, .last hline' hreturns'⟩
    | cons hline hreturns hrest =>
      obtain ⟨line', returns', heq, hline', hreturns'⟩ := hline.exists_cons hfeed hreturns
      rw [← List.cons_append, heq]
      exact ⟨_, .cons hline' hreturns' hrest⟩

end Text

/-! ### Records as JSON -/

namespace Json

lemma arePlain_iff {items : List Json} : arePlain items = true ↔ ∀ item ∈ items, item.isPlain := by
  induction items with
  | nil => simp [arePlain]
  | cons item items ih => simp [arePlain, ih]

lemma membersArePlain_iff {members : List (String × Json)} :
    membersArePlain members = true ↔ ∀ member ∈ members, member.2.isPlain := by
  induction members with
  | nil => simp [membersArePlain]
  | cons member members ih => simp [membersArePlain, ih]

end Json

namespace Record

/-- To set fields repeats no key. -/
lemma nodup_keys_assign (specs : List FieldSpec) (captures : List (Option String)) {r : Record}
    (h : r.keys.Nodup) : (Rule.assign specs captures r).keys.Nodup := by
  induction specs generalizing captures r with
  | nil => exact h
  | cons spec specs ih => exact ih _ (Assoc.nodup_keys_insert _ h)

lemma nodup_keys_refineBrowser {r : Record} (h : r.keys.Nodup) : r.refineBrowser.keys.Nodup := by
  apply Assoc.nodup_keys_insert
  split
  · split
    · exact h
    · exact Assoc.nodup_keys_insert _ h
  · exact h

lemma nodup_keys_fillAndroid {r : Record} (h : r.keys.Nodup) (os : Record) :
    (r.fillAndroid os).keys.Nodup := by
  rw [fillAndroid]
  split
  · apply Assoc.nodup_keys_insert
    split
    · exact Assoc.nodup_keys_insert _ h
    · exact h
  · exact h

/-- The refinement of a device repeats no key. -/
lemma nodup_keys_refineDevice {r : Record} (h : r.keys.Nodup) (os : Record) :
    (r.refineDevice os).keys.Nodup := by
  have hsamsung : (r.fillAndroid os).correctSamsung.keys.Nodup := by
    rw [correctSamsung]
    split
    · exact Assoc.nodup_keys_insert _ (nodup_keys_fillAndroid h os)
    · exact nodup_keys_fillAndroid h os
  rw [refineDevice, cutModel]
  split
  · split
    · exact Assoc.nodup_keys_insert _ hsamsung
    · exact hsamsung
  · exact hsamsung

/-- A record is a plain value, since its keys are different. -/
lemma isPlain_toJson {r : Record} (h : r.keys.Nodup) : r.toJson.isPlain := by
  rw [toJson, Json.isPlain, Bool.and_eq_true, decide_eq_true_iff, Json.membersArePlain_iff,
    List.forall_mem_map]
  refine ⟨?_, fun _ _ => rfl⟩
  simpa [Assoc.keys, Function.comp_def] using h

end Record

namespace RuleSet

/-- A record that was captured has different keys. -/
lemma nodup_keys_rawRecord (r : RuleSet) (userAgent : String) (c : Category) :
    (r.rawRecord userAgent c).value.keys.Nodup := by
  have hempty : (Record.ofFields c.fields).keys.Nodup := Assoc.nodup_keys_ofList _
  rw [rawRecord, RuleGroup.classify]
  split
  · exact Record.nodup_keys_assign _ _ hempty
  · exact hempty

/-- No record has a field twice. -/
lemma nodup_keys_record (r : RuleSet) (userAgent : String) (c : Category) :
    (r.record userAgent c).value.keys.Nodup := by
  have hraw := r.nodup_keys_rawRecord userAgent
  cases c with
  | browser => exact Record.nodup_keys_refineBrowser (hraw .browser)
  | engine => exact hraw .engine
  | os => exact Assoc.nodup_keys_insert _ (hraw .os)
  | cpu => exact hraw .cpu
  | device => exact Record.nodup_keys_refineDevice (hraw .device) _

lemma input_classify (r : RuleSet) (userAgent : String) :
    (r.classify userAgent).value.input = userAgent := rfl

lemma get_classify (r : RuleSet) (userAgent : String) (c : Category) :
    (r.classify userAgent).value.get c = (r.record userAgent c).value := by
  cases c <;> rfl

end RuleSet

/-! ### Objects -/

/-- A category is selected; all are if none is named. -/
def Category.IsSelected (categories : List Category) (c : Category) : Prop :=
  categories = [] ∨ c ∈ categories

/-- The members of an object show a user agent in the selected categories: it is the input, every
selected category has the record that a classifier gives, and there is nothing else. -/
structure RuleSet.Shows (r : RuleSet) (categories : List Category) (userAgent : String)
    (members : List (String × Json)) : Prop where
  nodup : (Assoc.keys members).Nodup
  input : Assoc.get? "input" members = some (.str userAgent)
  record : ∀ c, Category.IsSelected categories c →
    Assoc.get? c.name members = some (Classifier.record ⟨userAgent, r⟩ c).value.toJson
  keys : ∀ key ∈ Assoc.keys members,
    key = "input" ∨ ∃ c, Category.IsSelected categories c ∧ key = c.name

/-- A value shows user agents: one as an object, several as a list of objects in the same order. -/
inductive RuleSet.ShowsAll (r : RuleSet) (categories : List Category) : List String → Json → Prop
  | one {userAgent : String} {members : List (String × Json)}
      (h : r.Shows categories userAgent members) : ShowsAll r categories [userAgent] (.obj members)
  | many {userAgents : List String} {objects : List (List (String × Json))}
      (hlength : userAgents.length ≠ 1) (h : List.Forall₂ (r.Shows categories) userAgents objects) :
      ShowsAll r categories userAgents (.arr (objects.map .obj))

namespace Classification

/-- The members of the object of a classification. -/
def shownMembers (categories : List Category) (r : Classification) : List (String × Json) :=
  ("input", .str r.input) ::
    (order.filter (TextFormat.selection categories).contains).map fun c => (c.name, (r.get c).toJson)

/-- A result is written as the object of what is shown of it. -/
lemma resultJson_eq (categories : List Category) (r : Classification) :
    JsonFormat.resultJson categories r = .obj (r.shownMembers categories) := by
  cases categories <;> rfl

/-- A category is shown exactly if it is selected, or if none is. -/
lemma mem_shown_iff {categories : List Category} {c : Category} :
    c ∈ order.filter (TextFormat.selection categories).contains ↔
      Category.IsSelected categories c := by
  have horder : c ∈ order := by cases c <;> decide
  cases categories with
  | nil =>
    have hall := Category.mem_all c
    simp [TextFormat.selection, Category.IsSelected, horder, hall]
  | cons d categories => simp [TextFormat.selection, Category.IsSelected, horder]

/-- Under the name of a category stands its record. -/
lemma get?_map_name {cs : List Category} {c : Category} (h : c ∈ cs) (f : Category → Json) :
    Assoc.get? c.name (cs.map fun c => (c.name, f c)) = some (f c) := by
  induction cs with
  | nil => cases h
  | cons d cs ih =>
    rw [List.map_cons, Assoc.get?_cons]
    by_cases hname : d.name = c.name
    · rw [if_pos hname, Category.name_injective hname]
    · rw [if_neg hname]
      apply ih
      refine (List.mem_cons.mp h).resolve_left ?_
      rintro rfl
      exact hname rfl

end Classification

namespace RuleSet

variable (r : RuleSet) (categories : List Category)

lemma input_ne_name (c : Category) : "input" ≠ c.name := by
  cases c <;> decide

/-- The object of a classification shows its user agent. -/
lemma shows_classify (userAgent : String) :
    r.Shows categories userAgent ((r.classify userAgent).value.shownMembers categories) where
  nodup := by
    have horder : Classification.order.Nodup := by decide
    have hnames := (horder.filter (TextFormat.selection categories).contains).map
      Category.name_injective
    simp only [Classification.shownMembers, Assoc.keys, List.map_cons, List.map_map,
      Function.comp_def, List.nodup_cons]
    refine ⟨?_, hnames⟩
    intro hmem
    obtain ⟨c, -, hc⟩ := List.mem_map.mp hmem
    exact input_ne_name c hc.symm
  input := by
    rw [Classification.shownMembers, Assoc.get?_cons, if_pos rfl, input_classify]
  record c hc := by
    rw [Classification.shownMembers, Assoc.get?_cons, if_neg (input_ne_name c)]
    rw [Classification.get?_map_name (Classification.mem_shown_iff.mpr hc) fun c =>
      ((r.classify userAgent).value.get c).toJson, get_classify]
    rfl
  keys key hkey := by
    simp only [Classification.shownMembers, Assoc.keys, List.map_cons, List.map_map,
      List.mem_cons, List.mem_map] at hkey
    rcases hkey with hinput | ⟨c, hc, rfl⟩
    · exact .inl hinput
    · exact .inr ⟨c, Classification.mem_shown_iff.mp hc, rfl⟩

/-- What is shown of a result is a plain value. -/
lemma isPlain_shownMembers (userAgent : String) :
    (Json.obj ((r.classify userAgent).value.shownMembers categories)).isPlain := by
  have hvalues : Json.membersArePlain ((r.classify userAgent).value.shownMembers categories) := by
    rw [Json.membersArePlain_iff, Classification.shownMembers, List.forall_mem_cons,
      List.forall_mem_map]
    refine ⟨rfl, fun c _ => ?_⟩
    dsimp only
    rw [get_classify]
    exact Record.isPlain_toJson (r.nodup_keys_record userAgent c)
  rw [Json.isPlain, hvalues]
  simp [(r.shows_classify categories userAgent).nodup]

/-- The value whose text is printed. -/
def shownJson : List String → Json
  | [userAgent] => .obj ((r.classify userAgent).value.shownMembers categories)
  | userAgents =>
    .arr ((userAgents.map fun u => (r.classify u).value.shownMembers categories).map .obj)

/-- The value that is written shows all results, as one object or as a list in order. -/
lemma showsAll_shownJson (userAgents : List String) :
    r.ShowsAll categories userAgents (r.shownJson categories userAgents) := by
  unfold shownJson
  split
  · exact .one (r.shows_classify categories _)
  · rename_i hone
    refine .many ?_ ?_
    · intro hlength
      obtain ⟨u, hu⟩ := List.length_eq_one_iff.mp hlength
      exact hone u hu
    · rw [List.forall₂_map_right_iff, List.forall₂_same]
      exact fun u _ => r.shows_classify categories u

lemma isPlain_shownJson (userAgents : List String) : (r.shownJson categories userAgents).isPlain := by
  unfold shownJson
  split
  · exact r.isPlain_shownMembers categories _
  · rw [Json.isPlain, Json.arePlain_iff, List.map_map, List.forall_mem_map]
    exact fun u _ => r.isPlain_shownMembers categories u

/-- The text of the results is that value, written with indentation. -/
lemma resultsText_eq (userAgents : List String) :
    CommandLine.resultsText (.json (.indented 2)) categories
        (userAgents.map fun u => (r.classify u).value) =
      (r.shownJson categories userAgents).render (.indented 2) := by
  have hjson : JsonFormat.resultJson categories =
      fun result => .obj (result.shownMembers categories) :=
    funext (Classification.resultJson_eq categories)
  match userAgents with
  | [] => rfl
  | [u] =>
    show (JsonFormat.resultJson categories _).render (.indented 2) = _
    rw [hjson]
    rfl
  | u :: v :: rest =>
    show (Json.arr (((u :: v :: rest).map fun u => (r.classify u).value).map
      (JsonFormat.resultJson categories))).render (.indented 2) = _
    rw [hjson, shownJson, List.map_map, List.map_map]
    · rfl
    · simp

end RuleSet

/-! ### User agents that are asked for -/

namespace CommandLine

/-- The user agents of the arguments, and after them the lines of the input that are not blank, if they
are read. -/
inductive Collects (settings : ParseCommand) (input : String) : List String → Prop
  | arguments (h : settings.readsInput = false) : Collects settings input settings.userAgents
  | lines {lines : List (List Char)} (h : settings.readsInput = true)
      (hlines : Text.HasLines input.toList lines) :
      Collects settings input
        (settings.userAgents ++ (lines.map String.ofList).filter Text.hasContent)

/-- The user agents that are classified: those that are collected, or else that of the environment. -/
inductive AsksFor (config : Config) (settings : ParseCommand) (machine : Machine) :
    List String → Prop
  | collected {userAgents : List String} (h : Collects settings machine.inputText userAgents)
      (hne : userAgents ≠ []) : AsksFor config settings machine userAgents
  | ambient {name : String} (h : Collects settings machine.inputText [])
      (hname : config.parser.userAgentVariable = .str name) :
      AsksFor config settings machine [(Assoc.get? name machine.environment).getD ""]

/-- The user agent that an entry of the collected list stands for. -/
inductive StandsFor (config : Config) (machine : Machine) : Option String → String → Prop
  | given (userAgent : String) : StandsFor config machine (some userAgent) userAgent
  | ambient {name : String} (hname : config.parser.userAgentVariable = .str name) :
      StandsFor config machine none ((Assoc.get? name machine.environment).getD "")

variable {config : Config} {settings : ParseCommand} {machine machine' : Machine}
  {userAgents : List String}

lemma exists_collects (settings : ParseCommand) (input : String) :
    ∃ userAgents, Collects settings input userAgents := by
  obtain ⟨lines, hlines⟩ := Text.exists_hasLines input.toList
  cases h : settings.readsInput with
  | false => exact ⟨_, .arguments h⟩
  | true => exact ⟨_, .lines h hlines⟩

/-- Some user agents are asked for, unless there are none and the configuration does not name a
variable. -/
theorem exists_asksFor (settings : ParseCommand) (machine : Machine)
    (hname : ∃ name, config.parser.userAgentVariable = .str name) :
    ∃ userAgents, AsksFor config settings machine userAgents := by
  obtain ⟨userAgents, hcollects⟩ := exists_collects settings machine.inputText
  obtain ⟨name, hname⟩ := hname
  by_cases hne : userAgents = []
  · exact ⟨_, .ambient (hne ▸ hcollects) hname⟩
  · exact ⟨userAgents, .collected hcollects hne⟩

/-- The collected user agents are those of the arguments and then those of the input. -/
lemma Collects.eq_append (h : Collects settings machine.inputText userAgents) :
    userAgents = settings.userAgents ++
      if settings.readsInput then inputLines machine.inputText else [] := by
  cases h with
  | arguments hreads => simp [hreads]
  | lines hreads hlines =>
    rw [if_pos hreads, inputLines, hlines.map_splitOn]

/-- The command goes on with the collected user agents, or with none if there is none, which asks
for the ambient one. -/
lemma collect_run (settings : ParseCommand) (machine : Machine) :
    (collect settings : StateM Machine _) machine =
      (match settings.userAgents ++ if settings.readsInput then inputLines machine.inputText else [] with
        | [] => [none]
        | userAgents => userAgents.map some, machine) := by
  have hlisted : ∀ userAgents : List String,
      (match userAgents with
        | [] => pure [none]
        | userAgents => pure (userAgents.map some) : StateM Machine _) machine =
      (match userAgents with
        | [] => [none]
        | userAgents => userAgents.map some, machine) := by
    intro userAgents
    cases userAgents <;> rfl
  rw [collect]
  cases settings.readsInput with
  | false => exact hlisted (settings.userAgents ++ [])
  | true => exact hlisted (settings.userAgents ++ inputLines machine.inputText)

/-- The command goes on with what stands for the user agents that are asked for. -/
lemma AsksFor.exists_collect_run (h : AsksFor config settings machine userAgents) :
    ∃ given, (collect settings : StateM Machine _) machine = (given, machine) ∧
      List.Forall₂ (StandsFor config machine) given userAgents := by
  refine ⟨_, collect_run settings machine, ?_⟩
  cases h with
  | collected h hne =>
    rw [← h.eq_append]
    cases userAgents with
    | nil => exact absurd rfl hne
    | cons u rest =>
      dsimp only
      rw [List.forall₂_map_left_iff, List.forall₂_same]
      exact fun u _ => .given u
  | ambient h hname =>
    rw [← h.eq_append]
    exact .cons (.ambient hname) .nil

/-- A change to files does not change what is asked for. -/
lemma AsksFor.of_changesOnly {paths : List Path} (h : AsksFor config settings machine userAgents)
    (hchanges : machine.ChangesOnly paths machine') :
    AsksFor config settings machine' userAgents := by
  cases h with
  | collected h hne => exact .collected (hchanges.inputText_eq ▸ h) hne
  | ambient h hname =>
    rw [← hchanges.environment_eq]
    exact .ambient (hchanges.inputText_eq ▸ h) hname

lemma StandsFor.of_changesOnly {paths : List Path} {given : Option String} {userAgent : String}
    (h : StandsFor config machine given userAgent) (hchanges : machine.ChangesOnly paths machine') :
    StandsFor config machine' given userAgent := by
  cases h with
  | given => exact .given userAgent
  | ambient hname =>
    rw [← hchanges.environment_eq]
    exact .ambient hname

/-- What stands for a user agent is made to it. -/
lemma StandsFor.ambientUserAgent_run {given : Option String} {userAgent : String}
    (h : StandsFor config machine given userAgent) :
    (config.ambientUserAgent given : StateM Machine _) machine = (.ok userAgent, machine) := by
  cases h with
  | given => rfl
  | ambient hname =>
    simp only [Config.ambientUserAgent, hname]
    rfl

/-! ### The run -/

variable {journal : Journal} {rules : RuleSet}

/-- If the arguments name no file of rules, the configured rules are chosen, or the built-in ones. -/
lemma chooseRules_of_ownRules [CharacterNames] {own : Option RuleSet} {log : List LogEntry}
    (h : (config.ownRules : StateM Machine _) machine = (⟨.ok own, log⟩, machine)) :
    ((chooseRules (m := StateM Machine) journal config none).run machine).1 =
      .ok (own.getD .builtIn) := by
  obtain ⟨machine', hattempt⟩ : ∃ machine', (attempt (m := StateM Machine) journal .setup
      ⟨Except.ok own, log⟩).run machine = (.ok own, machine') :=
    ⟨_, Prod.ext (attempt_run journal _ _ machine) rfl⟩
  rw [chooseRules, run_lift_bind h, run_bind_of_ok hattempt]
  rfl

lemma confined_ambientUserAgent {paths : List Path} (given : Option String) :
    Confined paths (config.ambientUserAgent given : StateM Machine _) := by
  unfold Config.ambientUserAgent
  split
  · exact confined_pure _
  · exact confined_bind (confined_of_reads fun _ => rfl) fun _ => confined_pure _
  · exact confined_pure _

/-- One user agent is classified with a change to the files of the journal only. -/
lemma confined_classifyOne (given : Option String) : Confined journal.files
    (classifyOne (m := StateM Machine) journal config rules given).run := by
  refine confined_run_bind (confined_run_lift (confined_ambientUserAgent given)) fun found => ?_
  cases found with
  | error e => exact confined_pure _
  | ok userAgent =>
    refine confined_run_lift ?_
    refine confined_bind (confined_of_reads fun _ => rfl) fun start => ?_
    refine confined_bind (journal.confined_follow _) fun result => ?_
    refine confined_bind (confined_of_reads fun _ => rfl) fun stop => ?_
    exact confined_bind (journal.confined_writeResult _ _) fun _ => confined_pure _

/-- One user agent is classified by the rules. -/
lemma classifyOne_run (journal : Journal) (rules : RuleSet) {given : Option String}
    {userAgent : String} (h : StandsFor config machine given userAgent) :
    ((classifyOne (m := StateM Machine) journal config rules given).run machine).1 =
      .ok (rules.classify userAgent).value := by
  rw [classifyOne, run_lift_bind h.ambientUserAgent_run]
  rfl

/-- All user agents are classified one after the other. -/
lemma exists_mapM_classifyOne_run {given : List (Option String)}
    (h : List.Forall₂ (StandsFor config machine) given userAgents)
    (hchanges : machine.ChangesOnly journal.files machine') : ∃ machine'',
      (given.mapM (classifyOne (m := StateM Machine) journal config rules)).run machine' =
          (.ok (userAgents.map fun u => (rules.classify u).value), machine'') ∧
        machine.ChangesOnly journal.files machine'' := by
  induction h generalizing machine' with
  | nil => exact ⟨machine', rfl, hchanges⟩
  | cons hfirst _ ih =>
    have hone := classifyOne_run journal rules (hfirst.of_changesOnly hchanges)
    obtain ⟨last, hothers, hlast⟩ := ih (hchanges.trans (confined_classifyOne _ machine'))
    refine ⟨last, ?_, hlast⟩
    rw [List.mapM_cons, run_bind_of_ok (Prod.ext hone rfl), run_bind_of_ok hothers]
    rfl

/-- Asked for JSON, the command prints the text of the value that shows all results. -/
lemma runParse_run [CharacterNames] (hjson : settings.json = true)
    (houtput : settings.output = none) {chosen : Machine}
    (hrules : (chooseRules (m := StateM Machine) journal config settings.rules).run machine =
      (.ok rules, chosen))
    (hchosen : machine.ChangesOnly journal.files chosen)
    (hasks : AsksFor config settings machine userAgents) : ∃ last,
      (runParse (m := StateM Machine) journal config settings).run machine =
        (.ok exitOk, { last with output := last.output ++
          ((rules.shownJson settings.categories userAgents).render (.indented 2) ++ "\n") }) ∧
      machine.ChangesOnly journal.files last := by
  obtain ⟨given, hcollect, hgiven⟩ := (hasks.of_changesOnly hchosen).exists_collect_run
  obtain ⟨middle, hclassify, hmiddle⟩ :=
    exists_mapM_classifyOne_run hgiven (.refl journal.files chosen)
  have hnoted := journal.confined_write (classifiedEntry (userAgents.map fun u =>
    (rules.classify u).value).length) middle
  obtain ⟨noted, hwrite⟩ : ∃ noted, (journal.write (classifiedEntry (userAgents.map fun u =>
      (rules.classify u).value).length) : StateM Machine Unit) middle = ((), noted) := ⟨_, rfl⟩
  rw [hwrite] at hnoted
  have hformatter : (formatter config settings.json settings.output.isNone
      config.output.showEmpty.isTruthy : StateM Machine Formatter) noted =
        (.json (.indented 2), noted) := by
    rw [hjson]
    rfl
  -- The command is taken apart step by step; only the last step prints.
  refine ⟨noted, ?_, (hchosen.trans hmiddle).trans hnoted⟩
  rw [runParse, run_bind_of_ok hrules, run_lift_bind hcollect, run_bind_of_ok hclassify,
    run_lift_bind hwrite, run_lift_bind hformatter, houtput]
  dsimp only
  rw [RuleSet.resultsText_eq]
  rfl

/-- Any user agents, lines and categories can be asked for on the command line. A run that asks for
JSON, and whose rules are loaded, then prints the text of a JSON value that shows all user agents: one
as an object, several as a list of objects in their order, each with the records of the selected
categories and nothing else. -/
theorem run_shows_results [CharacterNames] :
    (∀ {operands userAgents : List String}, Presents operands userAgents →
      ∀ (readsInput : Bool) (categories : List Category),
        Invocation.ofArguments ("parse" :: optionTexts readsInput categories ++ operands) =
          .ok { command := some (.parse { userAgents, readsInput, categories, json := true }) }) ∧
    ∀ {directory : Path} {arguments : List String} {machine : Machine}
      (prepared : PreparedRun directory arguments machine) {settings : ParseCommand}
      {rules : RuleSet} {userAgents : List String},
      prepared.invocation.command = some (.parse settings) → settings.json = true →
      settings.output = none →
      ((chooseRules (m := StateM Machine) prepared.journal prepared.config settings.rules).run
        prepared.ready).1 = .ok rules →
      AsksFor prepared.config settings machine userAgents →
      ∃ machine' printed value,
        run (m := StateM Machine) directory arguments machine = (.exited 0, machine') ∧
          machine'.output = machine.output ++ printed ∧ Json.parse printed = .ok value ∧
          rules.ShowsAll settings.categories userAgents value := by
  refine ⟨fun hoperands => ofArguments_parse hoperands, ?_⟩
  intro directory arguments machine prepared settings rules userAgents hcommand hjson houtput hrules
    hasks
  have hchosen : prepared.ready.ChangesOnly prepared.journal.files
      ((chooseRules (m := StateM Machine) prepared.journal prepared.config settings.rules).run
        prepared.ready).2 := confined_chooseRules settings.rules prepared.ready
  obtain ⟨last, hrun, hlast⟩ := runParse_run hjson houtput (Prod.ext hrules rfl) hchosen
    (hasks.of_changesOnly prepared.changesOnly_ready)
  have hparse : prepared.command =
      (runParse prepared.journal prepared.config settings).run := by
    rw [PreparedRun.command, runCommand, hcommand]
  rw [← hparse] at hrun
  -- The line feed behind the value is white space to the reader.
  have hblank : Json.IsBlank "\n".toList := by simp [Json.IsBlank]
  refine ⟨_, _, _, prepared.run_of_ok hrun, ?_,
    Json.parse_render_append (rules.isPlain_shownJson settings.categories userAgents)
      (.indented 2) hblank,
    rules.showsAll_shownJson settings.categories userAgents⟩
  rw [← prepared.changesOnly_ready.output_eq, ← hlast.output_eq]

/-- A machine with three lines on its input, of which one is blank. The last one has a carriage return
inside. -/
def birdLines : Machine :=
  usedMachine [] "Owl\r\n \nFinch\rWren"

/-- Arguments with a user agent that begins with a dash. -/
def birdArguments : List String :=
  "parse" :: optionTexts true [.os, .os] ++ ["--", "-x"]

/-- What the arguments ask for. -/
def birdCommand : ParseCommand where
  userAgents := ["-x"]
  readsInput := true
  categories := [.os, .os]
  json := true

/-- A run that classifies what the arguments and the lines say. -/
def birdRun : PreparedRun (.ofText "ua") birdArguments birdLines where
  invocation := { command := some (.parse birdCommand) }
  config := .default (.ofText "ua")
  ready := birdLines
  invocation_eq := ofArguments_parse (.inl rfl) true [.os, .os]
  config_eq := rfl
  ready_eq := prepare_usedMachine _ _ _

lemma hasLines_birdLines : Text.HasLines birdLines.inputText.toList
    [['O', 'w', 'l'], [' '], ['F', 'i', 'n', 'c', 'h', '\r', 'W', 'r', 'e', 'n']] := by
  have hnone : Text.AreReturns [] := by simp [Text.AreReturns]
  have hlast : Text.HasLines (['F', 'i', 'n', 'c', 'h', '\r', 'W', 'r', 'e', 'n'] ++ [])
      [['F', 'i', 'n', 'c', 'h', '\r', 'W', 'r', 'e', 'n']] :=
    .last ⟨by simp, by simp⟩ hnone
  have hblank : Text.HasLines ([' '] ++ [] ++ '\n' :: ['F', 'i', 'n', 'c', 'h', '\r', 'W', 'r', 'e', 'n'])
      [[' '], ['F', 'i', 'n', 'c', 'h', '\r', 'W', 'r', 'e', 'n']] :=
    .cons ⟨by simp, by simp⟩ hnone hlast
  have howl : Text.IsLine ['O', 'w', 'l'] := ⟨by simp, by simp⟩
  have hreturn : Text.AreReturns ['\r'] := by simp [Text.AreReturns]
  exact .cons howl hreturn hblank

/-- The user agent of the arguments is shown first, and the blank line is passed over. -/
theorem run_shows_results_birdLines : ∃ machine' printed value,
    run (m := StateM Machine) (.ofText "ua") birdArguments birdLines = (.exited 0, machine') ∧
      machine'.output = "" ++ printed ∧ Json.parse printed = .ok value ∧
      RuleSet.builtIn.ShowsAll [.os, .os] ["-x", "Owl", "Finch\rWren"] value := by
  have hlines : (["Owl", " ", "Finch\rWren"].filter Text.hasContent) = ["Owl", "Finch\rWren"] := by
    decide
  have hcollects : Collects birdCommand birdLines.inputText ("-x" :: ["Owl", "Finch\rWren"]) :=
    hlines ▸ .lines rfl hasLines_birdLines
  have hown : (birdRun.config.ownRules : StateM Machine _) birdRun.ready =
      (⟨.ok none, []⟩, birdRun.ready) := rfl
  have hrules : ((chooseRules (m := StateM Machine) birdRun.journal birdRun.config none).run
      birdRun.ready).1 = .ok .builtIn := by
    rw [chooseRules_of_ownRules hown, Option.getD_none]
  exact run_shows_results.2 birdRun rfl rfl rfl hrules (.collected hcollects (by simp))

end CommandLine

end UserAgent
