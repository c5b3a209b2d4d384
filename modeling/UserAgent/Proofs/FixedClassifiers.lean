import UserAgent.Proofs.SeparateCategories
import UserAgent.Proofs.ShownResults
import UserAgent.Session

/-!
# Classifiers are fixed when they are made

A classifier of a session keeps the user agent that was read, and the rules that were chosen, when it was
made. Whatever happens to the variables, the files, the rule sets and the other classifiers afterwards,
and to the records that were given out, its replies stay the same until its name is given to another
classifier (`Session.run_keeps_classifier`).
-/

namespace UserAgent

open Compiled

/-- A classifier is set up with the rules and the user agent that are found one after the other. -/
lemma Config.value_classifier_of_ok [CharacterNames] {config : Config} {userAgent : Option String}
    {machine machine' machine'' : Machine} {own : Logged (Except SetupError (Option RuleSet))}
    {rules : Option RuleSet} {read : String}
    (hown : (config.ownRules : StateM Machine _) machine = (own, machine'))
    (hrules : own.value = .ok rules)
    (hread : (config.ambientUserAgent userAgent : StateM Machine _) machine' =
      (.ok read, machine'')) :
    ((config.classifier userAgent : StateM Machine _) machine).1.value =
      .ok ⟨read, rules.getD .builtIn⟩ := by
  rw [Config.classifier, Machine.bind_eq hown, hrules]
  dsimp only
  rw [Machine.bind_eq hread]
  rfl

namespace Session

/-! ### Making a classifier -/

/-- The name that a step gives to the classifier that it makes. -/
def Step.madeName? : Step → Option String
  | .makeClassifier name .. | .configureClassifier name .. => some name
  | _ => none

/-- The user agent that the answer to a step tells. -/
def Answer.userAgent? : Answer → Option String
  | .text userAgent | .configured userAgent _ => some userAgent
  | _ => none

/-- The classifier that a step asks for: the user agent that is read, and the rules that are chosen, in
the session as it is before the step. -/
inductive Chooses [CharacterNames] (s : Session) : Step → Classifier → Prop where
  | builtIn {name variableName : String} {userAgent : Option String} :
      Chooses s (.makeClassifier name userAgent none variableName)
        ⟨userAgent.getD ((Assoc.get? variableName s.machine.environment).getD ""), .builtIn⟩
  | named {name rules variableName : String} {userAgent : Option String} {source : NumberedRules}
      (hrules : Assoc.get? rules s.ruleSets = some source) :
      Chooses s (.makeClassifier name userAgent (some rules) variableName)
        ⟨userAgent.getD ((Assoc.get? variableName s.machine.environment).getD ""), source.rules⟩
  | configured {name : String} {userAgent : Option String} {data : Json} {config : Config}
      {c : Classifier} (hconfig : Config.ofJson s.directory data = .ok config)
      (hc : ((config.classifier userAgent : StateM Machine _) s.machine).1.value = .ok c) :
      Chooses s (.configureClassifier name userAgent data) c

end Session

/-! ### Replies -/

/-- The reply to a step that asks for the classifier with a name. -/
def Classifier.reply? (c : Classifier) (name : String) : Session.Step → Option Session.Answer
  | .record asked category =>
    if asked = name then some (.record (c.rules.record c.userAgent category).value) else none
  | .classify asked =>
    if asked = name then some (.classification (c.rules.classify c.userAgent).value) else none
  | .changeRecord asked category field value =>
    if asked = name then
      some (.records (Assoc.insert field value (c.rules.record c.userAgent category).value)
        (c.rules.record c.userAgent category).value)
    else none
  | .info asked => if asked = name then some (.info c.rules.info) else none
  | _ => none

namespace Session

variable {s s' : Session} {step : Step} {answer : Answer} {name : String} {c : Classifier}

/-- A session holds a classifier under a name. -/
def Holds (s : Session) (name : String) (c : Classifier) : Prop :=
  ∃ numbered, Assoc.get? name s.classifiers = some numbered ∧ numbered.classifier = c

lemma findClassifier_eq_ok {numbered : NumberedClassifier} :
    s.findClassifier name = .ok numbered ↔ Assoc.get? name s.classifiers = some numbered := by
  rw [findClassifier]
  cases Assoc.get? name s.classifiers <;> simp

lemma findRules_eq_ok {rules : NumberedRules} :
    s.findRules name = .ok rules ↔ Assoc.get? name s.ruleSets = some rules := by
  rw [findRules]
  cases Assoc.get? name s.ruleSets <;> simp

/-- A classifier that a session holds gives its replies, and they change nothing. -/
lemma Holds.step_eq [CharacterNames] (h : s.Holds name c)
    (hreply : c.reply? name step = some answer) :
    s.step step = .ok (answer, s) := by
  obtain ⟨numbered, hget, rfl⟩ := h
  have hfind := findClassifier_eq_ok.mpr hget
  cases step with
  | record asked category | classify asked | info asked =>
    simp only [Classifier.reply?, Option.ite_none_right_eq_some, Option.some.injEq] at hreply
    obtain ⟨rfl, rfl⟩ := hreply
    rw [Session.step, hfind]
    rfl
  | changeRecord asked category field value =>
    simp only [Classifier.reply?, Option.ite_none_right_eq_some, Option.some.injEq] at hreply
    obtain ⟨rfl, rfl⟩ := hreply
    rw [Session.step, hfind]
    rfl
  | _ => cases hreply

/-! ### What a step does to the classifiers -/

/-- What a step that makes a classifier does: it tells the user agent of the classifier that it asks for,
and it keeps that classifier under the name. -/
structure Makes [CharacterNames] (s s' : Session) (step : Step) (answer : Answer) (name : String)
    (c : Classifier) :
    Prop where
  chooses : s.Chooses step c
  userAgent?_eq : answer.userAgent? = some c.userAgent
  exists_insert : ∃ numbered : NumberedClassifier, numbered.classifier = c ∧
    s'.classifiers = Assoc.insert name numbered s.classifiers

/-- A classifier that was made can be found under its name. -/
lemma Makes.holds [CharacterNames] (h : Makes s s' step answer name c) : s'.Holds name c := by
  obtain ⟨numbered, hc, hinsert⟩ := h.exists_insert
  refine ⟨numbered, ?_, hc⟩
  rw [hinsert, Assoc.get?_insert_self]

lemma rules_configuredRules (s : Session) (own : Option RuleSet) :
    (s.configuredRules own).1.rules = own.getD .builtIn := by
  cases own with
  | none => rw [configuredRules, NumberedRules.builtIn, Option.getD_none]
  | some rules => rw [configuredRules, Option.getD_some]

lemma classifiers_configuredRules (s : Session) (own : Option RuleSet) :
    (s.configuredRules own).2.classifiers = s.classifiers := by
  cases own <;> rfl

lemma machine_configuredRules (s : Session) (own : Option RuleSet) :
    (s.configuredRules own).2.machine = s.machine := by
  cases own <;> rfl

lemma perform_eq {α : Type} (s : Session) (operation : StateM Machine α) :
    s.perform operation = ((operation s.machine).1, { s with machine := (operation s.machine).2 }) :=
  rfl

/-- A session sets up a classifier as the configuration does on its machine. -/
lemma exists_of_configure [CharacterNames] {config : Config} {userAgent : Option String}
    (h : s.configure name userAgent config = .ok (answer, s')) :
    ∃ c, ((config.classifier userAgent : StateM Machine _) s.machine).1.value = .ok c ∧
      answer.userAgent? = some c.userAgent ∧
      ∃ numbered : NumberedClassifier, numbered.classifier = c ∧
        s'.classifiers = Assoc.insert name numbered s.classifiers := by
  simp only [configure, perform_eq] at h
  obtain ⟨own, hown, h⟩ := bind_eq_ok.mp h
  obtain ⟨read, hread, h⟩ := bind_eq_ok.mp h
  rw [mapError_eq_ok] at hown hread
  rw [machine_configuredRules] at hread
  obtain ⟨rfl, rfl⟩ := Prod.mk.inj (pure_eq_ok.mp h)
  refine ⟨_, Config.value_classifier_of_ok rfl hown (Prod.ext hread rfl), rfl,
    ⟨read, (s.configuredRules own).1⟩, ?_, ?_⟩
  · rw [NumberedClassifier.classifier, rules_configuredRules]
  · rw [addClassifier, classifiers_configuredRules]
    cases own <;> rfl

lemma classifier_builtIn (userAgent : String) :
    NumberedClassifier.classifier ⟨userAgent, .builtIn⟩ = ⟨userAgent, .builtIn⟩ := by
  rw [NumberedClassifier.classifier, NumberedRules.builtIn]

section

variable [CharacterNames]

/-- A step that succeeds makes the classifier that it asks for, or it leaves all classifiers as they
are. -/
theorem step_cases (h : s.step step = .ok (answer, s')) :
    (step.madeName? = none ∧ s'.classifiers = s.classifiers) ∨
      ∃ name c, step.madeName? = some name ∧ Makes s s' step answer name c := by
  cases step with
  | setVariable name value | nameBuiltIn name =>
    obtain ⟨rfl, rfl⟩ := Prod.mk.inj (Except.ok.inj h)
    exact .inl ⟨rfl, rfl⟩
  | putFile path content =>
    -- An operation of the machine changes the machine of the session and nothing else of it.
    rw [Session.step, perform_eq] at h
    split at h
    · rename_i t hperform
      obtain ⟨-, rfl⟩ := Prod.mk.inj hperform
      obtain ⟨rfl, rfl⟩ := Prod.mk.inj (Except.ok.inj h)
      exact .inl ⟨rfl, rfl⟩
    · cases h
  | showFile path =>
    rw [Session.step] at h
    split at h
    · cases h
    · split at h
      · cases h
        exact .inl ⟨rfl, rfl⟩
      · cases h
  | compileRules name vocabulary table =>
    obtain ⟨rules, -, h⟩ := bind_eq_ok.mp h
    obtain ⟨rfl, rfl⟩ := Prod.mk.inj (pure_eq_ok.mp h)
    exact .inl ⟨rfl, rfl⟩
  | loadRules name options path =>
    rw [Session.step, perform_eq] at h
    obtain ⟨rules, -, h⟩ := bind_eq_ok.mp h
    obtain ⟨rfl, rfl⟩ := Prod.mk.inj (pure_eq_ok.mp h)
    exact .inl ⟨rfl, rfl⟩
  | saveRules name path =>
    obtain ⟨source, -, h⟩ := bind_eq_ok.mp h
    rw [perform_eq] at h
    obtain ⟨⟨⟩, -, h⟩ := bind_eq_ok.mp h
    obtain ⟨rfl, rfl⟩ := Prod.mk.inj (pure_eq_ok.mp h)
    exact .inl ⟨rfl, rfl⟩
  | makeClassifier name userAgent rules variableName =>
    -- Only here and for a configuration a classifier is made; without rules that are named it takes
    -- the built-in ones.
    refine .inr ⟨name, ?_⟩
    cases rules with
    | none =>
      obtain ⟨source, hsource, h⟩ := bind_eq_ok.mp h
      obtain rfl := pure_eq_ok.mp hsource
      obtain ⟨rfl, rfl⟩ := Prod.mk.inj (pure_eq_ok.mp h)
      exact ⟨_, rfl, .builtIn, rfl, _, classifier_builtIn _, rfl⟩
    | some rules =>
      obtain ⟨source, hsource, h⟩ := bind_eq_ok.mp h
      obtain ⟨rfl, rfl⟩ := Prod.mk.inj (pure_eq_ok.mp h)
      exact ⟨_, rfl, .named (findRules_eq_ok.mp hsource), rfl, _, rfl, rfl⟩
  | configureClassifier name userAgent data =>
    obtain ⟨config, hconfig, h⟩ := bind_eq_ok.mp h
    obtain ⟨c, hc, htold, hinsert⟩ := exists_of_configure h
    exact .inr ⟨name, c, rfl, .configured (mapError_eq_ok.mp hconfig) hc, htold, hinsert⟩
  | record name category | classify name | info name | changeRecord name category field value =>
    obtain ⟨numbered, -, h⟩ := bind_eq_ok.mp h
    obtain ⟨rfl, rfl⟩ := Prod.mk.inj (pure_eq_ok.mp h)
    exact .inl ⟨rfl, rfl⟩
  | sameRules name other =>
    obtain ⟨numbered, -, h⟩ := bind_eq_ok.mp h
    obtain ⟨numbered', -, h⟩ := bind_eq_ok.mp h
    obtain ⟨rfl, rfl⟩ := Prod.mk.inj (pure_eq_ok.mp h)
    exact .inl ⟨rfl, rfl⟩

/-! ### Runs -/

variable {steps : List Step}

/-- After a step that succeeds, the others start from what it leaves. -/
lemma run_cons_of_ok (h : s.step step = .ok (answer, s')) (steps : List Step) :
    s.run (step :: steps) = (.ok answer :: (s'.run steps).1, (s'.run steps).2) := by
  rw [run, h]

/-- After a step that fails, the others start from where it started. -/
lemma run_cons_of_error {e : StepError} (h : s.step step = .error e) (steps : List Step) :
    s.run (step :: steps) = (.error e :: (s.run steps).1, (s.run steps).2) := by
  rw [run, h]

/-- Every step has an answer. -/
lemma length_run (s : Session) (steps : List Step) : (s.run steps).1.length = steps.length := by
  induction steps generalizing s with
  | nil => rfl
  | cons step steps ih =>
    cases h : s.step step with
    | error e => rw [run_cons_of_error h, List.length_cons, List.length_cons, ih]
    | ok taken => rw [run_cons_of_ok h, List.length_cons, List.length_cons, ih]

/-- Steps after which a name belongs to the classifier that had it before: if a step gives the name
away, it has failed. -/
def KeepsName (name : String) (steps : List Step) (answers : List (Except StepError Answer)) : Prop :=
  List.Forall₂ (fun step answer => step.madeName? = some name → ∃ e, answer = .error e) steps answers

/-- A name is kept if no step makes anything under it. -/
lemma keepsName_of_ne (s : Session) (h : ∀ step ∈ steps, step.madeName? ≠ some name) :
    KeepsName name steps (s.run steps).1 := by
  refine List.forall₂_iff_zip.mpr ⟨(s.length_run steps).symm, fun hmem hname => ?_⟩
  exact absurd hname (h _ (List.of_mem_zip hmem).1)

/-- A step that makes no classifier with the name leaves the one that has it. -/
lemma Holds.of_step (h : s.Holds name c) (hstep : s.step step = .ok (answer, s'))
    (hname : step.madeName? ≠ some name) : s'.Holds name c := by
  obtain ⟨numbered, hget, hc⟩ := h
  refine ⟨numbered, ?_, hc⟩
  obtain ⟨-, hsame⟩ | ⟨made, d, hmade, makes⟩ := step_cases hstep
  · rw [hsame, hget]
  · obtain ⟨_, -, hinsert⟩ := makes.exists_insert
    have hne : made ≠ name := by
      rintro rfl
      exact hname hmade
    rw [hinsert, Assoc.get?_insert_of_ne hne, hget]

/-- A classifier that keeps its name gives its replies all the time. -/
lemma Holds.of_run (h : s.Holds name c) (hkeeps : KeepsName name steps (s.run steps).1) :
    (s.run steps).2.Holds name c ∧
      List.Forall₂ (fun step answer => ∀ reply, c.reply? name step = some reply → answer = .ok reply)
        steps (s.run steps).1 := by
  induction steps generalizing s with
  | nil => exact ⟨h, .nil⟩
  | cons step steps ih =>
    cases hstep : s.step step with
    | error e =>
      rw [run_cons_of_error hstep] at hkeeps ⊢
      obtain ⟨-, hkeeps⟩ := List.forall₂_cons.mp hkeeps
      obtain ⟨hholds, hreplies⟩ := ih h hkeeps
      refine ⟨hholds, .cons (fun reply hreply => ?_) hreplies⟩
      rw [h.step_eq hreply] at hstep
      cases hstep
    | ok taken =>
      obtain ⟨answer, s'⟩ := taken
      rw [run_cons_of_ok hstep] at hkeeps ⊢
      obtain ⟨hname, hkeeps⟩ := List.forall₂_cons.mp hkeeps
      have hne : step.madeName? ≠ some name := by
        intro hmade
        obtain ⟨e, he⟩ := hname hmade
        cases he
      obtain ⟨hholds, hreplies⟩ := ih (h.of_step hstep hne) hkeeps
      refine ⟨hholds, .cons (fun reply hreply => ?_) hreplies⟩
      rw [h.step_eq hreply] at hstep
      exact congrArg Except.ok (Prod.mk.inj (Except.ok.inj hstep)).1.symm

/-- A step that makes a classifier reads the user agent, and chooses the rules, in the session as it is
then. Whatever steps follow, as long as none of them gives the name to another classifier, every reply
under the name, on the way and at the end, is that of this user agent and these rules. -/
theorem run_keeps_classifier {create : Step} (hstep : s.step create = .ok (answer, s'))
    (hname : create.madeName? = some name) :
    ∃ c, s.Chooses create c ∧ answer.userAgent? = some c.userAgent ∧
      (c.rules.classify c.userAgent).value.input = c.userAgent ∧
      (∀ category, (c.rules.classify c.userAgent).value.get category =
        (c.rules.record c.userAgent category).value) ∧
      ∀ steps, KeepsName name steps (s'.run steps).1 →
        (∀ step reply, c.reply? name step = some reply →
          (s'.run steps).2.step step = .ok (reply, (s'.run steps).2)) ∧
        List.Forall₂
          (fun step answer => ∀ reply, c.reply? name step = some reply → answer = .ok reply)
          steps (s'.run steps).1 := by
  obtain ⟨hnone, -⟩ | ⟨made, c, hmade, makes⟩ := step_cases hstep
  · rw [hnone] at hname
    cases hname
  · obtain rfl : made = name := Option.some.inj (hmade.symm.trans hname)
    refine ⟨c, makes.chooses, makes.userAgent?_eq, c.rules.input_classify c.userAgent,
      c.rules.get_classify c.userAgent, fun steps hkeeps => ?_⟩
    obtain ⟨hholds, hreplies⟩ := makes.holds.of_run hkeeps
    exact ⟨fun step reply hreply => hholds.step_eq hreply, hreplies⟩

end

/-- A session with rules for foxes, and with a user agent in a variable. -/
def foxSession : Session where
  machine := { environment := [("UA", "owl")] }
  directory := .ofText "ua"
  ruleSets := [("foxes", ⟨1, .foxesOn "4"⟩)]
  made := 1

/-- The variable, the rules and the record that was given out change, and other classifiers are made. -/
def laterSteps : List Step :=
  [.setVariable "UA" (some "fox"), .compileRules "foxes" {} (.obj []), .nameBuiltIn "foxes",
    .makeClassifier "second" none (some "foxes") "UA",
    .changeRecord "first" .os "name" "changed"]

/-- The classifier of the owl still finds the fourth Android. -/
theorem run_keeps_classifier_foxes : ∃ s', foxSession.step
      (.makeClassifier "first" none (some "foxes") "UA") = .ok (.text "owl", s') ∧
    Step.madeName? (.makeClassifier "first" none (some "foxes") "UA") = some "first" ∧
    KeepsName "first" laterSteps (s'.run laterSteps).1 ∧
    (s'.run laterSteps).2.step (.record "first" .os) =
      .ok (.record [("name", "android"), ("version", "4")], (s'.run laterSteps).2) := by
  obtain ⟨s', hstep⟩ : ∃ s', foxSession.step
      (.makeClassifier "first" none (some "foxes") "UA") = .ok (.text "owl", s') := ⟨_, rfl⟩
  have hkeeps : KeepsName "first" laterSteps (s'.run laterSteps).1 := by
    refine s'.keepsName_of_ne ?_
    simp [laterSteps, Step.madeName?]
  obtain ⟨c, hc, -, -, -, hreplies⟩ := run_keeps_classifier hstep rfl
  refine ⟨s', hstep, rfl, hkeeps, (hreplies laterSteps hkeeps).1 _ _ ?_⟩
  cases hc with
  | named hrules =>
    cases hrules
    rfl

end Session

end UserAgent
