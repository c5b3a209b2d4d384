import UserAgent.Proofs.Agreement
import UserAgent.Proofs.FaultOrigin

/-!
# Failures that are not refusals

A table with a fault is refused, and a validator reports the fault. Yet three faults of patterns go
past both: a repetition count that is out of range, one with too many digits, and flags that exclude
each other end the run with a failure of their own. A pattern overruns if it has such a fault. Nothing
else escapes: a table is accepted or refused unless the first item that is not accepted is a pattern
that overruns, and a file has a report unless a pattern that is compiled for the report overruns. How
deep values and patterns may be nested is a limit of the interpreter that runs a program, and is left
out.
-/

namespace UserAgent

namespace Compiled

variable {α β : Type}

/-! ### Runs that escape -/

/-- A run ends with a failure that is not a refusal. -/
def Escapes (x : Compiled α) (f : Failure) : Prop :=
  x = .error f ∧ ∀ e, f ≠ .refused e

@[simp] lemma not_escapes_ok {a : α} {f : Failure} : ¬Escapes (.ok a) f := by
  rintro ⟨h, _⟩
  cases h

/-- A refusal lets no failure escape. -/
@[simp] lemma not_escapes_refuse {e : RuleError} {f : Failure} :
    ¬Escapes (refuse e : Compiled α) f := by
  rintro ⟨h, hf⟩
  cases h
  exact hf e rfl

@[simp] lemma not_escapes_pure {a : α} {f : Failure} : ¬Escapes (pure a : Compiled α) f :=
  not_escapes_ok

/-- A failure escapes from a sequence if it does from the first part, or from the second one after a
success of the first. -/
lemma escapes_bind {x : Compiled α} {g : α → Compiled β} {f : Failure} :
    Escapes (x >>= g) f ↔ Escapes x f ∨ ∃ a, x = .ok a ∧ Escapes (g a) f := by
  simp only [Escapes, bind_eq_error]
  constructor
  · rintro ⟨h | ⟨a, ha, h⟩, hf⟩
    · exact .inl ⟨h, hf⟩
    · exact .inr ⟨a, ha, h, hf⟩
  · rintro (⟨h, hf⟩ | ⟨a, ha, h, hf⟩)
    · exact ⟨.inl h, hf⟩
    · exact ⟨.inr ⟨a, ha, h⟩, hf⟩

/-- What comes after a run does not matter if it cannot escape. -/
lemma escapes_bind_of_forall {x : Compiled α} {g : α → Compiled β} {f : Failure}
    (hg : ∀ a, ¬Escapes (g a) f) : Escapes (x >>= g) f ↔ Escapes x f := by
  rw [escapes_bind]
  refine or_iff_left ?_
  rintro ⟨a, _, h⟩
  exact hg a h

lemma escapes_bind_pure {x : Compiled α} {g : α → β} {f : Failure} :
    Escapes (x >>= fun a => pure (g a)) f ↔ Escapes x f :=
  escapes_bind_of_forall fun _ => not_escapes_pure

/-- A walk over a list passes items that are accepted, and reaches one with a property. -/
inductive Reaches (accepted : α → Prop) (P : α → Prop) : List α → Prop where
  | here {x : α} {xs : List α} (h : P x) : Reaches accepted P (x :: xs)
  | later {x : α} {xs : List α} (hx : accepted x) (h : Reaches accepted P xs) :
      Reaches accepted P (x :: xs)

namespace Reaches

variable {accepted P Q : α → Prop} {xs : List α}

lemma imp (h : Reaches accepted P xs) (hPQ : ∀ x ∈ xs, P x → Q x) : Reaches accepted Q xs := by
  induction h with
  | here hx => exact .here (hPQ _ List.mem_cons_self hx)
  | later hx _ ih => exact .later hx (ih fun y hy => hPQ y (List.mem_cons_of_mem _ hy))

/-- What is reached is a certain item. -/
lemma exists_eq (h : Reaches accepted P xs) : ∃ x ∈ xs, P x ∧ Reaches accepted (· = x) xs := by
  induction h with
  | here hx => exact ⟨_, List.mem_cons_self, hx, .here rfl⟩
  | later hx _ ih =>
    obtain ⟨y, hy, hP, h⟩ := ih
    exact ⟨y, List.mem_cons_of_mem _ hy, hP, .later hx h⟩

/-- A walk passes all items, or it reaches one that is not accepted. -/
lemma forall_or_reaches (accepted : α → Prop) (xs : List α) :
    (∀ x ∈ xs, accepted x) ∨ Reaches accepted (fun x => ¬accepted x) xs := by
  induction xs with
  | nil => simp
  | cons x xs ih =>
    by_cases hx : accepted x
    · rcases ih with hall | h
      · exact .inl (List.forall_mem_cons.mpr ⟨hx, hall⟩)
      · exact .inr (.later hx h)
    · exact .inr (.here hx)

end Reaches

/-- A run over a list fails as the first item does that is not accepted. -/
lemma mapM_eq_error {g : α → Compiled β} {xs : List α} {f : Failure} :
    xs.mapM g = .error f ↔ Reaches (fun x => ∃ y, g x = .ok y) (fun x => g x = .error f) xs := by
  induction xs with
  | nil =>
    refine ⟨fun h => ?_, fun h => ?_⟩
    · cases h
    · cases h
  | cons x xs ih =>
    rw [List.mapM_cons, bind_eq_error]
    constructor
    · rintro (h | ⟨y, hy, h⟩)
      · exact .here h
      · exact .later ⟨y, hy⟩ (ih.mp (bind_pure_eq_error.mp h))
    · rintro (h | ⟨⟨y, hy⟩, h⟩)
      · exact .inl h
      · exact .inr ⟨y, hy, bind_pure_eq_error.mpr (ih.mpr h)⟩

/-- A failure escapes from a list if it does from the first item that does not succeed. -/
lemma escapes_mapM {g : α → Compiled β} {xs : List α} {f : Failure} :
    Escapes (xs.mapM g) f ↔ Reaches (fun x => ∃ y, g x = .ok y) (fun x => Escapes (g x) f) xs := by
  rw [Escapes, mapM_eq_error]
  constructor
  · rintro ⟨h, hf⟩
    exact h.imp fun x _ hx => ⟨hx, hf⟩
  · intro h
    obtain ⟨x, -, ⟨-, hf⟩, -⟩ := h.exists_eq
    exact ⟨h.imp fun x _ hx => hx.1, hf⟩

end Compiled

open Compiled

/-! ### Patterns -/

/-- A fault that becomes a failure of its own is no refusal. -/
lemma Regex.Fault.ne_refused_of_failure? {fault : Regex.Fault} {f : Failure}
    (h : fault.failure? = some f) (e : RuleError) : f ≠ .refused e := by
  cases fault <;> cases h <;> exact Failure.noConfusion

/-- The text of a pattern overruns: a repetition count is out of range or has too many digits, or its
flags exclude each other. -/
def Pattern.Overruns [CharacterNames] (text : String) (f : Failure) : Prop :=
  ∃ fault, Pattern.compile text = .error (.malformed fault) ∧ fault.failure? = some f

namespace FieldSpec

section

variable [CharacterNames]

/-- The failures that escape from a pattern are those of its overruns. -/
lemma escapes_compilePattern {text : String} {f : Failure} :
    Escapes (compilePattern text) f ↔ Pattern.Overruns text f := by
  unfold compilePattern Pattern.Overruns
  split
  · rename_i hcompile
    simp [hcompile]
  · rename_i hcompile
    simp [hcompile]
  · rename_i fault hcompile
    simp only [hcompile, Except.error.injEq, Pattern.Error.malformed.injEq, exists_eq_left']
    split
    · rename_i failure hfailure
      rw [hfailure]
      constructor
      · rintro ⟨h, _⟩
        cases h
        rfl
      · intro h
        cases h
        exact ⟨rfl, Regex.Fault.ne_refused_of_failure? hfailure⟩
    · rename_i hfailure
      simp [hfailure]

lemma escapes_compilePatternValue {value : Json} {f : Failure} :
    Escapes (compilePatternValue value) f ↔ ∃ text, value = .str text ∧ Pattern.Overruns text f := by
  cases value with
  | str text => simp [compilePatternValue, escapes_compilePattern]
  | _ => simp [compilePatternValue]

/-- A replacement lets escape what its search pattern does; templates are refused or accepted. -/
lemma escapes_compileSubstitution {pattern source : String} {f : Failure} :
    Escapes (compileSubstitution pattern source) f ↔ Pattern.Overruns pattern f := by
  rw [compileSubstitution, escapes_bind_of_forall, escapes_compilePattern]
  intro search
  dsimp only
  split
  · exact not_escapes_ok
  · exact not_escapes_refuse
  · exact not_escapes_refuse

/-! ### Field specifications -/

/-- The text of the search pattern that is compiled when a specification is read. -/
def searchText? (v : Vocabulary) : Json → Option String
  | .arr [.str name, .str second, .str _] =>
    if name = "" || second = mappingKeyword then none else some second
  | .arr [.str name, .str second, .str _, .str token] =>
    if name = "" || (v.transforms.find? token).isNone then none else some second
  | _ => none

/-- A specification overruns if its search pattern does. -/
def Overruns (v : Vocabulary) (spec : Json) (f : Failure) : Prop :=
  ∃ text, searchText? v spec = some text ∧ Pattern.Overruns text f

end

variable {v : Vocabulary} {f : Failure}

lemma not_escapes_requireTexts {spec items : List Json} : ¬Escapes (requireTexts spec items) f := by
  induction items with
  | nil => exact not_escapes_ok
  | cons item items ih =>
    cases item with
    | str s =>
      rw [requireTexts, escapes_bind_pure]
      exact ih
    | _ => exact not_escapes_refuse

/-- Of three texts the second one is compiled, unless it is the keyword. -/
lemma escapes_decodeTriple [CharacterNames] {name second third : String} :
    Escapes (decodeTriple v name second third) f ↔
      second ≠ mappingKeyword ∧ Pattern.Overruns second f := by
  rw [decodeTriple]
  split_ifs with hkey
  · simp only [hkey, ne_eq, not_true_eq_false, false_and, iff_false]
    split
    · exact not_escapes_ok
    · exact not_escapes_refuse
  · rw [escapes_bind_pure, escapes_compileSubstitution]
    simp [hkey]

/-- Of four texts the second one is compiled, if the transform is there. -/
lemma escapes_decodeQuadruple [CharacterNames] {name pattern template token : String} :
    Escapes (decodeQuadruple v name pattern template token) f ↔
      (v.transforms.find? token).isSome = true ∧ Pattern.Overruns pattern f := by
  rw [decodeQuadruple]
  split
  · rename_i t ht
    rw [escapes_bind_pure, escapes_compileSubstitution, ht]
    simp
  · rename_i hnone
    rw [hnone]
    simp

lemma not_escapes_decodePair {name token : String} : ¬Escapes (decodePair v name token) f := by
  rw [decodePair]
  split
  · exact not_escapes_ok
  · split
    · exact not_escapes_refuse
    · exact not_escapes_ok

/-- The search pattern of a list is found among its texts. -/
lemma searchText?_of_texts {texts : List String} :
    searchText? v (.ofTexts texts) =
      match texts with
      | [name, second, _] => if name = "" || second = mappingKeyword then none else some second
      | [name, second, _, token] =>
        if name = "" || (v.transforms.find? token).isNone then none else some second
      | _ => none := by
  match texts with
  | [] | [_] | [_, _] | [_, _, _] | [_, _, _, _] | _ :: _ :: _ :: _ :: _ :: _ => rfl

lemma texts_of_searchText? {items : List Json} {text : String}
    (h : searchText? v (.arr items) = some text) : ∃ texts : List String, items = texts.map .str := by
  unfold searchText? at h
  split at h
  · rename_i hitems
    cases hitems
    exact ⟨[_, _, _], rfl⟩
  · rename_i hitems
    cases hitems
    exact ⟨[_, _, _, _], rfl⟩
  · cases h

/-- A list of texts without a name is refused. -/
lemma not_escapes_decode_unnamed [CharacterNames] {texts : List String} :
    ¬Escapes (decode v (.ofTexts ("" :: texts))) f := by
  rw [Json.ofTexts, decode]
  split_ifs
  · exact not_escapes_refuse
  · rw [requireTexts_eq_ok.mpr rfl]
    exact not_escapes_refuse

/-- The same for every number of texts. -/
lemma escapes_decode_ofTexts [CharacterNames] {texts : List String} :
    Escapes (decode v (.ofTexts texts)) f ↔ Overruns v (.ofTexts texts) f := by
  rw [Overruns, searchText?_of_texts]
  match texts with
  | [] | [_] | _ :: _ :: _ :: _ :: _ :: _ => simp [decode, Json.ofTexts]
  | [name, token] =>
    by_cases hname : name = ""
    · subst hname
      simp [not_escapes_decode_unnamed]
    · simp [decode_two v hname, not_escapes_decodePair]
  | [name, second, third] =>
    by_cases hname : name = ""
    · subst hname
      simp [not_escapes_decode_unnamed]
    · rw [decode_three v hname, escapes_decodeTriple]
      by_cases hkey : second = mappingKeyword <;> simp [hname, hkey]
  | [name, second, third, token] =>
    by_cases hname : name = ""
    · subst hname
      simp [not_escapes_decode_unnamed]
    · rw [decode_four v hname, escapes_decodeQuadruple]
      cases htoken : v.transforms.find? token <;> simp [hname, htoken]

/-- Reading a specification escapes exactly if its search pattern overruns. -/
theorem escapes_decode [CharacterNames] {spec : Json} : Escapes
    (decode v spec) f ↔ Overruns v spec f := by
  cases spec with
  | str name =>
    rw [decode]
    split_ifs <;> simp [Overruns, searchText?]
  | arr items =>
    by_cases htexts : ∃ texts : List String, items = texts.map .str
    · obtain ⟨texts, rfl⟩ := htexts
      exact escapes_decode_ofTexts
    · have hnone : ¬Overruns v (.arr items) f := by
        rintro ⟨text, htext, _⟩
        exact htexts (texts_of_searchText? htext)
      rw [iff_false_right hnone, decode]
      split_ifs
      · exact not_escapes_refuse
      · rw [escapes_bind]
        rintro (h | ⟨texts, h, _⟩)
        · exact not_escapes_requireTexts h
        · exact htexts ⟨texts, requireTexts_eq_ok.mp h⟩
  | _ => simp [decode, Overruns, searchText?]

end FieldSpec

/-! ### Rules -/

section

variable [CharacterNames]

/-- A pattern of a rule overruns. -/
def Rule.PatternOverruns (pattern : Json) (f : Failure) : Prop :=
  ∃ text, pattern = .str text ∧ Pattern.Overruns text f

/-- The walk over a rule, over its patterns first and then over its specifications, reaches a pattern
that overruns. -/
def Rule.Overruns (v : Vocabulary) (patterns specs : Json) (f : Failure) : Prop :=
  patternList patterns ≠ [] ∧ ∃ items, specs = .arr items ∧
    (Reaches (fun p => ∃ q, FieldSpec.compilePatternValue p = .ok q) (PatternOverruns · f)
        (patternList patterns) ∨
      (∀ p ∈ patternList patterns, ∃ q, FieldSpec.compilePatternValue p = .ok q) ∧
        Reaches (fun s => ∃ g, FieldSpec.decode v s = .ok g) (FieldSpec.Overruns v · f) items)

/-- The walk over the rules of a category reaches one that overruns. -/
def RuleGroup.Overruns (v : Vocabulary) (category : String) (value : Json) (f : Failure) : Prop :=
  ∃ entries pairs, value = .arr entries ∧ split category entries = .ok pairs ∧
    Reaches (fun pair => ∃ rule, Rule.compile v pair.1 pair.2 = .ok rule)
      (fun pair => Rule.Overruns v pair.1 pair.2 f) pairs

/-- The walk over the members of a table reaches a category that overruns. Members that name no
category are passed. -/
def RuleSet.Overruns (v : Vocabulary) (table : Json) (f : Failure) : Prop :=
  ∃ members, table = .obj members ∧
    Reaches (fun m => ∀ c, Category.ofName? m.1 = some c →
        ∃ rules, RuleGroup.compile v c.name m.2 = .ok rules)
      (fun m => ∃ c, Category.ofName? m.1 = some c ∧ RuleGroup.Overruns v c.name m.2 f) members

variable {v : Vocabulary} {f : Failure}

/-- A failure that escapes from a rule is one of a pattern, or one of a search pattern behind
patterns that compile. -/
theorem Rule.escapes_compile {patterns specs : Json} :
    Escapes (compile v patterns specs) f ↔ Rule.Overruns v patterns specs f := by
  unfold compile Rule.Overruns
  cases hpatterns : patternList patterns with
  | nil => simp
  | cons p ps =>
    cases specs with
    | arr items =>
      simp only [escapes_bind, not_escapes_pure, and_false, exists_false, or_false, escapes_mapM,
        FieldSpec.escapes_compilePatternValue, FieldSpec.escapes_decode, exists_and_right,
        exists_mapM_eq_ok, ne_eq, reduceCtorEq, not_false_eq_true, true_and, Json.arr.injEq,
        exists_eq_left']
      rfl
    | _ => simp

end

/-- Only refusals name the rule. -/
lemma Failure.atRule_eq_iff {failure : Failure} {category : String} {index : Nat}
    (hf : ∀ e, f ≠ .refused e) : failure.atRule category index = f ↔ failure = f := by
  cases failure with
  | refused e => exact iff_of_false (fun h => hf _ h.symm) (fun h => hf _ h.symm)
  | _ => rfl

/-- A failure that is not a refusal is the same for the rule and for the rules of its category. -/
lemma RuleGroup.escapes_compilePairs [CharacterNames] {category : String} {index : Nat}
    {pairs : List (Json × Json)} :
    Escapes (compilePairs v category index pairs) f ↔
      Reaches (fun pair => ∃ rule, Rule.compile v pair.1 pair.2 = .ok rule)
        (fun pair => Rule.Overruns v pair.1 pair.2 f) pairs := by
  induction pairs generalizing index with
  | nil =>
    refine ⟨fun h => absurd h not_escapes_ok, fun h => ?_⟩
    cases h
  | cons pair rest ih =>
    obtain ⟨patterns, specs⟩ := pair
    rw [compilePairs]
    constructor
    · intro h
      split at h
      · rename_i rule hrule
        exact .later ⟨rule, hrule⟩ (ih.mp (escapes_bind_pure.mp h))
      · rename_i failure hfailure
        refine .here (Rule.escapes_compile.mp ?_)
        obtain ⟨hf, hrefused⟩ := h
        have hsame := (Failure.atRule_eq_iff hrefused).mp (Except.error.inj hf)
        exact ⟨hfailure.trans (congrArg Except.error hsame), hrefused⟩
    · rintro (h | ⟨⟨rule, hrule⟩, h⟩)
      · obtain ⟨hcompile, hrefused⟩ := Rule.escapes_compile.mpr h
        rw [hcompile]
        exact ⟨congrArg Except.error ((Failure.atRule_eq_iff hrefused).mpr rfl), hrefused⟩
      · simp only at hrule
        rw [hrule]
        exact escapes_bind_pure.mpr (ih.mpr h)

/-- The layout is refused or accepted. -/
lemma RuleGroup.not_escapes_splitPaired {category : String} {index : Nat} {entries : List Json} :
    ¬Escapes (splitPaired category index entries) f := by
  induction entries generalizing index with
  | nil => exact not_escapes_ok
  | cons entry rest ih =>
    unfold splitPaired
    split
    · rename_i hnil
      cases hnil
    · rename_i heq
      cases heq
      rw [escapes_bind_pure]
      exact ih
    · exact not_escapes_refuse

/-- A list of rules that has none of the layouts is refused. -/
lemma RuleGroup.not_escapes_split {category : String} {entries : List Json} :
    ¬Escapes (split category entries) f := by
  cases entries with
  | nil => exact not_escapes_ok
  | cons first rest =>
    rw [split]
    split_ifs
    · exact not_escapes_splitPaired
    · exact not_escapes_refuse
    · exact not_escapes_ok

/-- A failure that escapes from a category is one of a rule. -/
theorem RuleGroup.escapes_compile [CharacterNames] {category : String} {value : Json} :
    Escapes (compile v category value) f ↔ RuleGroup.Overruns v category value f := by
  unfold RuleGroup.Overruns
  cases value with
  | arr entries =>
    rw [compile, escapes_bind]
    simp only [escapes_compilePairs, not_escapes_split, false_or, Json.arr.injEq]
    constructor
    · rintro ⟨pairs, hsplit, h⟩
      exact ⟨entries, pairs, rfl, hsplit, h⟩
    · rintro ⟨_, pairs, rfl, hsplit, h⟩
      exact ⟨pairs, hsplit, h⟩
  | _ => simp [compile]

/-! ### Tables -/

/-- A failure that escapes from a table is one of the first category that is not accepted. -/
lemma RuleSet.escapes_compileMembers [CharacterNames] {groups : RuleGroups}
    {members : List (String × Json)} :
    Escapes (compileMembers v groups members).value f ↔
      Reaches (fun m => ∀ c, Category.ofName? m.1 = some c →
          ∃ rules, RuleGroup.compile v c.name m.2 = .ok rules)
        (fun m => ∃ c, Category.ofName? m.1 = some c ∧ RuleGroup.Overruns v c.name m.2 f) members := by
  induction members generalizing groups with
  | nil =>
    refine ⟨fun h => absurd h not_escapes_ok, fun h => ?_⟩
    cases h
  | cons member rest ih =>
    obtain ⟨key, value⟩ := member
    rw [value_compileMembers_cons]
    -- A key that names no category is passed over.
    cases hkey : Category.ofName? key with
    | none =>
      refine ⟨fun h => .later (fun c hc => ?_) (ih.mp h), ?_⟩
      · rw [hkey] at hc
        cases hc
      · rintro (⟨c, hc, _⟩ | ⟨_, h⟩)
        · rw [hkey] at hc
          cases hc
        · exact ih.mpr h
    | some c =>
      have hc : ∀ {d}, Category.ofName? key = some d → d = c := fun h =>
        Option.some.inj (h.symm.trans hkey)
      dsimp only
      rw [escapes_bind, RuleGroup.escapes_compile]
      constructor
      · rintro (h | ⟨rules, hrules, h⟩)
        · exact .here ⟨c, hkey, h⟩
        · exact .later (fun d hd => hc hd ▸ ⟨rules, hrules⟩) (ih.mp h)
      · rintro (⟨d, hd, h⟩ | ⟨haccepted, h⟩)
        · exact .inl (hc hd ▸ h)
        · obtain ⟨rules, hrules⟩ := haccepted c hkey
          exact .inr ⟨rules, hrules, ih.mpr h⟩

/-- Compiling a table escapes exactly if it reaches a pattern that overruns. -/
theorem RuleSet.escapes_ofTable [CharacterNames] {table : Json} {source fileHash : Option String} :
    Escapes (ofTable v table source fileHash).value f ↔ RuleSet.Overruns v table f := by
  unfold RuleSet.Overruns
  cases table with
  | obj members =>
    rw [ofTable, Logged.value_map, escapes_bind_pure, escapes_compileMembers]
    simp
  | _ => simp [ofTable]

/-- A run that does not escape gives a result or is refused. -/
lemma forall_not_escapes {α : Type} {x : Compiled α} :
    (∀ f, ¬Escapes x f) ↔ (∃ a, x = .ok a) ∨ ∃ e, x = refuse e := by
  cases x with
  | ok a => simp
  | error failure =>
    cases failure with
    | refused e =>
      refine ⟨fun _ => .inr ⟨e, rfl⟩, fun _ f => ?_⟩
      exact not_escapes_refuse
    | _ =>
      refine iff_of_false (fun h => h _ ⟨rfl, fun _ => Failure.noConfusion⟩) ?_
      rintro (⟨a, h⟩ | ⟨e, h⟩)
      · cases h
      · cases h

/-! ### Reports -/

/-- A text compiles to a pattern or has a fault that is reported. -/
def Pattern.Decided [CharacterNames] (text : String) : Prop :=
  ∀ f, ¬Pattern.Overruns text f

/-- A text that is compiled as a pattern of a rule. -/
def Rule.patternText? : Json → Option String
  | .str text => some text
  | _ => none

/-- The texts of the search patterns that are compiled when specifications are read. -/
def Rule.searchTexts (v : Vocabulary) : Json → List String
  | .arr specs => specs.filterMap (FieldSpec.searchText? v)
  | _ => []

/-- The texts of the patterns that are compiled for the report on a rule. -/
def Rule.patternTexts (v : Vocabulary) (patterns specs : Json) : List String :=
  (patternList patterns).filterMap patternText? ++ searchTexts v specs

namespace Validation

variable [CharacterNames]

/-- The texts of the patterns that are compiled for the report on a category. -/
def categoryTexts (category : String) : Json → List String
  | .arr entries =>
    match RuleGroup.split category entries with
    | .ok pairs => pairs.flatMap fun pair => Rule.patternTexts strictVocabulary pair.1 pair.2
    | .error _ => []
  | _ => []

/-- The texts of the patterns that are compiled for the report on a table. -/
def tableTexts : Json → List String
  | .obj members => members.flatMap fun (key, value) =>
    if (Category.all.map Category.name).contains key then categoryTexts key value else []
  | _ => []

omit [CharacterNames] in
/-- An attempt gives a result if no failure escapes. -/
lemma exists_attempt {α : Type} {x : Compiled α} :
    (∃ result, attempt x = .ok result) ↔ ∀ f, ¬Escapes x f := by
  rw [forall_not_escapes]
  cases x with
  | ok a => simp [attempt]
  | error failure => cases failure <;> simp [attempt, refuse]

variable {category : String}

/-- Patterns are reported on if no failure escapes from any of them. -/
lemma exists_patternFindings {index : Nat} {patterns : List Json} :
    (∃ findings, patternFindings category index patterns = .ok findings) ↔
      ∀ p ∈ patterns, ∀ f, ¬Escapes (FieldSpec.compilePatternValue p) f := by
  induction patterns with
  | nil => simp [patternFindings]
  | cons p rest ih =>
    rw [List.forall_mem_cons, ← exists_attempt, ← ih, patternFindings]
    refine exists_bind_eq_ok fun result => ?_
    cases result with
    | ok q => rfl
    | error e => exact exists_bind_pure_eq_ok

/-- Specifications are reported on if no failure escapes from any of them. -/
lemma exists_specFindings {index position : Nat} {seen : List String} {specs : List Json} :
    (∃ findings, specFindings category index position seen specs = .ok findings) ↔
      ∀ s ∈ specs, ∀ f, ¬Escapes (FieldSpec.decode strictVocabulary s) f := by
  induction specs generalizing position seen with
  | nil => simp [specFindings]
  | cons s rest ih =>
    rw [List.forall_mem_cons, ← exists_attempt, specFindings]
    refine exists_bind_eq_ok fun result => ?_
    cases result with
    | ok field =>
      exact exists_bind_pure_eq_ok.trans ih
    | error e => exact exists_bind_pure_eq_ok.trans ih

lemma forall_not_escapes_compilePatternValue {p : Json} :
    (∀ f, ¬Escapes (FieldSpec.compilePatternValue p) f) ↔
      ∀ text, Rule.patternText? p = some text → Pattern.Decided text := by
  cases p with
  | str text => simp [FieldSpec.escapes_compilePatternValue, Rule.patternText?, Pattern.Decided]
  | _ => simp [FieldSpec.escapes_compilePatternValue, Rule.patternText?]

/-- No failure escapes from a specification whose search pattern is decided. -/
lemma forall_not_escapes_decode {s : Json} :
    (∀ f, ¬Escapes (FieldSpec.decode v s) f) ↔
      ∀ text, FieldSpec.searchText? v s = some text → Pattern.Decided text := by
  simp only [FieldSpec.escapes_decode, FieldSpec.Overruns, not_exists, not_and, Pattern.Decided]
  exact ⟨fun h text htext f => h f text htext, fun h f text htext => h text htext f⟩

omit [CharacterNames] in
lemma forall_mem_filterMap {α β : Type} {g : α → Option β} {xs : List α} {P : β → Prop} :
    (∀ y ∈ xs.filterMap g, P y) ↔ ∀ x ∈ xs, ∀ y, g x = some y → P y := by
  simp only [List.mem_filterMap]
  exact ⟨fun h x hx y hy => h y ⟨x, hx, hy⟩, fun h y ⟨x, hx, hy⟩ => h x hx y hy⟩

lemma exists_patternsFindings {index : Nat} {patterns : Json} :
    (∃ findings, patternsFindings category index patterns = .ok findings) ↔
      ∀ text ∈ (Rule.patternList patterns).filterMap Rule.patternText?, Pattern.Decided text := by
  unfold patternsFindings
  split
  · rename_i hnil
    simp [hnil]
  · rw [exists_patternFindings, forall_mem_filterMap]
    exact forall₂_congr fun p _ => forall_not_escapes_compilePatternValue

lemma exists_specsFindings {index : Nat} {specs : Json} :
    (∃ findings, specsFindings category index specs = .ok findings) ↔
      ∀ text ∈ Rule.searchTexts strictVocabulary specs, Pattern.Decided text := by
  cases specs with
  | arr items =>
    rw [specsFindings, Rule.searchTexts, exists_specFindings, forall_mem_filterMap]
    exact forall₂_congr fun s _ => forall_not_escapes_decode
  | _ => simp [specsFindings, Rule.searchTexts]

/-- A rule is reported on unless a pattern that is compiled for it overruns. -/
lemma exists_ruleFindings {index : Nat} {patterns specs : Json} :
    (∃ findings, ruleFindings category index patterns specs = .ok findings) ↔
      ∀ text ∈ Rule.patternTexts strictVocabulary patterns specs, Pattern.Decided text := by
  rw [ruleFindings, exists_bind_eq_ok fun _ => exists_bind_pure_eq_ok, exists_patternsFindings,
    exists_specsFindings, Rule.patternTexts, List.forall_mem_append]

/-- Rules are reported on if all their patterns are decided. -/
lemma exists_rulesFindings {index : Nat} {pairs : List (Json × Json)} :
    (∃ findings, rulesFindings category index pairs = .ok findings) ↔
      ∀ text ∈ pairs.flatMap fun pair => Rule.patternTexts strictVocabulary pair.1 pair.2,
        Pattern.Decided text := by
  induction pairs generalizing index with
  | nil => simp [rulesFindings]
  | cons pair rest ih =>
    obtain ⟨patterns, specs⟩ := pair
    rw [rulesFindings, exists_bind_eq_ok fun _ => exists_bind_pure_eq_ok, exists_ruleFindings, ih,
      List.flatMap_cons, List.forall_mem_append]

/-- A category is reported on if all patterns that are compiled for it are decided. -/
lemma exists_categoryReport {value : Json} :
    (∃ report, categoryReport category value = .ok report) ↔
      ∀ text ∈ categoryTexts category value, Pattern.Decided text := by
  cases value with
  | arr entries =>
    rw [categoryReport, categoryTexts]
    cases hsplit : RuleGroup.split category entries with
    | ok pairs => exact exists_bind_pure_eq_ok.trans exists_rulesFindings
    | error failure =>
      -- a list that is not split is refused, and the refusal is reported
      have hattempt : ∃ result, attempt (RuleGroup.split category entries) = .ok result :=
        exists_attempt.mpr fun _ => RuleGroup.not_escapes_split
      rw [hsplit] at hattempt
      cases failure with
      | refused e => exact iff_of_true ⟨⟨0, [.badLayout e]⟩, rfl⟩ (by simp)
      | _ => simp [attempt] at hattempt
  | _ => simp [categoryReport, categoryTexts]

lemma exists_memberReport {key : String} {value : Json} :
    (∃ report, memberReport key value = .ok report) ↔
      ∀ text ∈ (if (Category.all.map Category.name).contains key then categoryTexts key value
        else []), Pattern.Decided text := by
  rw [memberReport]
  by_cases hmeta : RuleSet.metadataKeys.contains key = true
  · have hname : ¬(Category.all.map Category.name).contains key = true := by
      intro h
      obtain ⟨c, _, rfl⟩ := List.mem_map.mp (List.contains_iff_mem.mp h)
      exact not_mem_metadataKeys c (List.contains_iff_mem.mp hmeta)
    rw [if_pos hmeta, if_neg hname]
    simp
  · rw [if_neg hmeta]
    split_ifs
    · exact exists_categoryReport
    · simp

/-- So is a table. -/
lemma exists_membersReport_iff {members : List (String × Json)} :
    (∃ report, membersReport members = .ok report) ↔
      ∀ text ∈ tableTexts (.obj members), Pattern.Decided text := by
  rw [tableTexts]
  induction members with
  | nil => simp [membersReport]
  | cons member rest ih =>
    obtain ⟨key, value⟩ := member
    rw [membersReport, exists_bind_eq_ok fun _ => exists_bind_pure_eq_ok, exists_memberReport, ih,
      List.flatMap_cons, List.forall_mem_append]

/-- A text is reported on unless it holds an integer with too many digits, or a pattern that is
compiled for the report overruns. -/
theorem exists_textReport {text : String} : (∃ report, textReport text = .ok report) ↔
    (∀ count, Json.parse text ≠ .error (.tooManyDigits count)) ∧
      ∀ table, Json.parse text = .ok table → ∀ p ∈ tableTexts table, Pattern.Decided p := by
  rw [textReport]
  cases Json.parse text with
  | error e => cases e <;> simp
  | ok table =>
    have htable : (∃ report, tableReport table = .ok report) ↔
        ∀ p ∈ tableTexts table, Pattern.Decided p := by
      cases table with
      | obj members => exact exists_bind_pure_eq_ok.trans exists_membersReport_iff
      | _ => simp [tableReport, tableTexts]
    simp [htable]

end Validation

namespace RuleSet

open Validation

/-- Compiling a table gives a result or a refusal exactly if the table does not overrun. The file
with a text has a report exactly if no integer of the text has too many digits and every pattern
that is compiled for the report is decided. A pattern that overruns holds a count that is out of
range or has too many digits, or the letters of flags that exclude each other. The readers have no
limit on nesting: a table or a pattern that is nested some hundred levels deep, where an interpreter
gives up for the depth of its own calls, is read like any other. -/
theorem decided_iff [CharacterNames] (v : Vocabulary) (table : Json)
    (source fileHash : Option String)
    {machine : Machine} {path : Path} {text : String} (htext : machine.textAt path = .ok text) :
    (((∃ r, (ofTable v table source fileHash).value = .ok r) ∨
        ∃ e, (ofTable v table source fileHash).value = refuse e) ↔ ∀ f, ¬Overruns v table f) ∧
      ((∃ report, (fileReport (m := StateM Machine) path machine).1 = .ok report) ↔
        (∀ count, Json.parse text ≠ .error (.tooManyDigits count)) ∧
          ∀ table, Json.parse text = .ok table → ∀ p ∈ tableTexts table, Pattern.Decided p) ∧
      ∀ p f, Pattern.Overruns p f → ∃ fault, fault.failure? = some f ∧ Regex.Holds p.toList fault := by
  refine ⟨?_, ?_, ?_⟩
  · rw [← forall_not_escapes]
    exact forall_congr' fun f => not_congr escapes_ofTable
  · simp only [fileReport_eq_ok, htext, Except.ok.injEq, exists_eq_left']
    exact exists_textReport
  · rintro p f ⟨fault, hcompile, hfault⟩
    refine ⟨fault, hfault, (Pattern.holds_of_compile hcompile).resolve_left ?_⟩
    rw [hfault]
    exact Option.some_ne_none f

/-- A table whose only pattern repeats a letter. -/
def foxTable (count : String) : Json :=
  .obj [("version", .str "1"),
    ("browser", .arr [.arr [.ofTexts ["fox\x7b" ++ count ++ "\x7d"], .ofTexts ["name"]]])]

/-- The text of that table. -/
def foxText (count : String) : String :=
  "\x7b\"version\": \"1\", \"browser\": [[[\"fox\x7b" ++ count ++ "\x7d\"], [\"name\"]]]\x7d"

/-- A machine with a file that holds it. -/
def foxMachine (count : String) : Machine where
  files := { entries := [(["foxes.json"], .file (Utf8.encode (foxText count)))] }

/-- The greatest count that is not out of range. -/
theorem decided_greatestCount :
    (foxMachine "4294967294").textAt (.ofText "foxes.json") = .ok (foxText "4294967294") ∧
      Json.parse (foxText "4294967294") = .ok (foxTable "4294967294") ∧
      (∀ f, ¬Overruns {} (foxTable "4294967294") f) ∧
      ∀ p ∈ tableTexts (foxTable "4294967294"), Pattern.Decided p := by
  have htext : (foxMachine "4294967294").textAt (.ofText "foxes.json") =
      .ok (foxText "4294967294") := by decide +kernel
  have hparse : Json.parse (foxText "4294967294") = .ok (foxTable "4294967294") := by
    decide +kernel
  have htable : (ofTable {} (foxTable "4294967294")).value.toOption.any (fun _ => true) = true := by
    decide +kernel
  have hreport : (fileReport (m := StateM Machine) (.ofText "foxes.json")
      (foxMachine "4294967294")).1 = .ok ⟨1, []⟩ := by decide +kernel
  obtain ⟨r, hr, _⟩ := exists_ok_of_any htable
  obtain ⟨hdecided, hreported, _⟩ := decided_iff {} (foxTable "4294967294") none none htext
  exact ⟨htext, hparse, hdecided.mp (.inl ⟨r, hr⟩), (hreported.mp ⟨_, hreport⟩).2 _ hparse⟩

/-- The next count ends the run, and the validation of the file, with a failure of its own. -/
theorem next_count_escapes :
    (foxMachine "4294967295").textAt (.ofText "foxes.json") = .ok (foxText "4294967295") ∧
      Json.parse (foxText "4294967295") = .ok (foxTable "4294967295") ∧
      (ofTable {} (foxTable "4294967295")).value = .error .countTooLarge ∧
      (fileReport (m := StateM Machine) (.ofText "foxes.json") (foxMachine "4294967295")).1 =
        .error (.invalid (.failed .countTooLarge)) := by
  decide +kernel

end RuleSet

end UserAgent
