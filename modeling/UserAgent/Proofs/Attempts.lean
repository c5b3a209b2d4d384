import UserAgent.Proofs.Captures
import UserAgent.Proofs.Loading
import UserAgent.Proofs.Outline
import UserAgent.Refinement.Values

/-!
# Classification does not fail

A classification reads templates, looks captures up and refines records. Here each of these steps is
attempted as what it is: a template is read again for every replacement, a reference to a group that a
match does not have is a failure, and records are refined without the knowledge that their values are
texts. For the rules of a table that was accepted no attempt fails, and each one gives what the
classification gives.
-/

namespace UserAgent

/-- What could go wrong while a user agent is classified. -/
inductive Breakdown where
  /-- The template of a replacement cannot be read for its pattern. -/
  | template (error : Template.Error)
  /-- A template refers to a group that a match does not have. -/
  | noGroup (index : Nat)
  /-- A record has values that are not texts. -/
  | record (error : ValueRecord.Error)
deriving DecidableEq

open Compiled Regex

/-! ### Replacements -/

/-- What a group has matched, if there is such a group. A group that took no part gives nothing. -/
def Match.tryGroup (m : Match) : Nat → Except Breakdown String
  | 0 => .ok m.matched
  | index + 1 =>
    match m.groups[index]? with
    | some capture => .ok (capture.getD "")
    | none => .error (.noGroup (index + 1))

/-- The text of a part of a template for a match, if its group exists. -/
def TemplatePiece.tryExpand (m : Match) : TemplatePiece → Except Breakdown String
  | .char c => .ok (String.ofList [c])
  | .group index => m.tryGroup index

/-- The text of a template for a match, if all its groups exist. -/
def Template.tryExpand (template : Template) (m : Match) : Except Breakdown String := do
  return String.join (← template.mapM (TemplatePiece.tryExpand m))

namespace Pattern

/-- Replace the matches from `start` on, as long as their replacements can be made. -/
def tryReplaceFrom (p : Pattern) (expand : Match → Except Breakdown String) (text : Array Char) :
    (tries : Nat) → (advance : Bool) → (start : Nat) → Except Breakdown String
  | 0, _, start => .ok (Match.slice text ⟨start, text.size⟩)
  | tries + 1, advance, start =>
    match p.searchFrom? text advance start with
    | none => .ok (Match.slice text ⟨start, text.size⟩)
    | some m => do
      let replacement ← expand m
      let rest ← p.tryReplaceFrom expand text tries (m.span.start == m.span.stop) m.span.stop
      return Match.slice text ⟨start, m.span.start⟩ ++ replacement ++ rest

/-- Replace every match in a text, if all replacements can be made. -/
def tryReplaceAll (p : Pattern) (expand : Match → Except Breakdown String) (text : String) :
    Except Breakdown String :=
  let text := text.toList.toArray
  p.tryReplaceFrom expand text (2 * text.size + 2) false 0

end Pattern

/-- Read the template of a replacement for its pattern, and replace the matches in a text. -/
def Substitution.tryApply (s : Substitution) (text : String) : Except Breakdown String :=
  match Template.parse s.search (Template.fromDollar s.source) with
  | .ok template => s.search.tryReplaceAll template.tryExpand text
  | .error e => .error (.template e)

/-! ### Fields -/

namespace FieldSpec

/-- The replacement of a specification, if it has one. -/
def substitution? : FieldSpec → Option Substitution
  | substitute _ s | substituteTransform _ s _ => some s
  | copy _ | literal .. | transform .. | mapped .. => none

/-- The result of a function that may fail on a capture that is neither absent nor empty. -/
def tryOnCapture (f : String → Except Breakdown String) : Option String → Except Breakdown String
  | some s => if s.isEmpty then .ok unset else f s
  | none => .ok unset

/-- The value of the field for a capture, if it can be made. -/
def tryResolve (f : FieldSpec) (capture : Option String) : Except Breakdown String :=
  match f with
  | substitute _ s => tryOnCapture s.tryApply capture
  | substituteTransform _ s t =>
    tryOnCapture (fun c => do return t.apply (some (← s.tryApply c))) capture
  | f => .ok (f.resolve capture)

end FieldSpec

/-- Set the fields of specifications, as long as their values can be made. -/
def Rule.tryAssign : List FieldSpec → (captures : List (Option String)) → Record →
    Except Breakdown Record
  | [], _, record => .ok record
  | spec :: specs, captures, record => do
    let value ← spec.tryResolve captures.head?.join
    tryAssign specs captures.tail (Assoc.insert spec.name value record)

/-! ### Records -/

/-- A record of texts as a record of values. -/
def Record.toValues (r : Record) : ValueRecord :=
  r.map fun (field, value) => (field, .str value)

/-- An attempt that makes notes up to where it fails. -/
abbrev Attempt := ExceptT Breakdown Logged

/-- An attempt without notes. -/
def Attempt.of {α : Type} (x : Except Breakdown α) : Attempt α :=
  ExceptT.mk (pure x)

/-- The record of a text by the first rule that matches, if its values can be made. -/
def RuleGroup.tryClassify (group : RuleGroup) (fields : List String) (text : String) :
    Attempt Record :=
  match group.firstMatch? text.toList.toArray with
  | some (index, rule, m) => do
    let record ← Attempt.of (Rule.tryAssign rule.fields m.groups (.ofFields fields))
    ExceptT.lift
      (Logged.note .debug ("Rule " ++ toString index ++ " matched " ++ Text.quoted m.matched))
    return record
  | none => return .ofFields fields

namespace RuleSet

variable (r : RuleSet) (userAgent : String)

/-- The values of a category as its rules give them. -/
def tryRawRecord (c : Category) : Attempt ValueRecord := do
  return Record.toValues (← (r.group c).tryClassify c.fields userAgent)

/-- The record of a category, refined without regard to the types of its values. -/
def tryRecord : Category → Attempt ValueRecord
  | .browser => do
    let browser ← r.tryRawRecord userAgent .browser
    Attempt.of (browser.refineBrowser.mapError .record)
  | .engine => r.tryRawRecord userAgent .engine
  | .os => do return (← r.tryRawRecord userAgent .os).refineOs
  | .cpu => r.tryRawRecord userAgent .cpu
  | .device => do
    let device ← r.tryRawRecord userAgent .device
    let os ← r.tryRawRecord userAgent .os
    Attempt.of ((device.refineDevice os.refineOs).mapError .record)

/-- The records of all categories, in the order in which they are made. -/
def tryClassify : Attempt (List (Category × ValueRecord)) := do
  let records ← Classification.order.mapM fun c => do return (c, ← r.tryRecord userAgent c)
  ExceptT.lift (Logged.note .debug ("Classified " ++ Text.quoted userAgent))
  return records

end RuleSet

/-! ### Attempts that succeed -/

/-- A group that the pattern has can be asked for. -/
lemma Match.tryGroup_eq_ok {m : Match} {index : Nat} (h : index ≤ m.captures.length) :
    m.tryGroup index = .ok ((m.group? index).getD "") := by
  cases index with
  | zero => rfl
  | succ index =>
    have hlt : index < m.groups.length := by
      rw [groups, List.length_map]
      exact h
    rw [tryGroup, group?, List.getElem?_eq_getElem hlt]
    rfl

namespace Template

variable {template : Template} {m : Match}

/-- A template whose groups exist gives a text for every match, whichever groups took part in it. -/
lemma tryExpand_eq_ok (h : template.Fits m.captures.length) :
    template.tryExpand m = .ok (template.expand m) := by
  have hpieces : template.mapM (TemplatePiece.tryExpand m) =
      .ok (template.map (TemplatePiece.expand m)) := by
    refine mapM_eq_ok_map.mpr fun piece hpiece => ?_
    cases piece with
    | char c => rfl
    | group index => exact Match.tryGroup_eq_ok (h _ hpiece)
  rw [tryExpand, hpieces]
  rfl

end Template

namespace Pattern

variable {p : Pattern} {expand : Match → String} {tryExpand : Match → Except Breakdown String}

/-- Replacement does not fail if the template can be expanded at every match the pattern can have.
-/
lemma tryReplaceFrom_eq_ok (h : ∀ m, p.Captures m → tryExpand m = .ok (expand m))
    (text : Array Char) (tries : Nat) (advance : Bool) (start : Nat) :
    p.tryReplaceFrom tryExpand text tries advance start =
      .ok (p.replaceFrom expand text tries advance start) := by
  induction tries generalizing advance start with
  | zero => rfl
  | succ tries ih =>
    rw [tryReplaceFrom, replaceFrom]
    cases hmatch : p.searchFrom? text advance start with
    | none => rfl
    | some m =>
      dsimp only
      rw [h m (captures_of_searchFrom? hmatch), ih]
      rfl

lemma tryReplaceAll_eq_ok (h : ∀ m, p.Captures m → tryExpand m = .ok (expand m)) (text : String) :
    p.tryReplaceAll tryExpand text = .ok (p.replaceAll expand text) :=
  tryReplaceFrom_eq_ok h _ _ _ _

end Pattern

/-- The template of a replacement is that which is read for its pattern, and it refers to groups of
that pattern only. -/
structure Substitution.Sound (s : Substitution) : Prop where
  parse : Template.parse s.search (Template.fromDollar s.source) = .ok s.template
  fits : s.template.Fits s.search.groupCount

namespace Substitution.Sound

variable {s : Substitution}

/-- What is compiled is sound: the check on the outline of the pattern finds every fault. -/
theorem of_compile [CharacterNames] {pattern source : String}
    (h : FieldSpec.compileSubstitution pattern source = .ok s) : s.Sound := by
  obtain ⟨hsearch, hcheck, rfl⟩ := FieldSpec.compileSubstitution_eq_ok.mp h
  have hnamed := Pattern.named_of_compile hsearch
  have hparse := (Template.check_eq_parse hnamed _).symm.trans hcheck
  exact ⟨hparse, Template.fits_of_parse hnamed hparse⟩

/-- The template of a sound replacement can be expanded at every match of its search pattern. -/
lemma tryExpand_eq_ok (h : s.Sound) {m : Match} (hm : s.search.Captures m) :
    s.template.tryExpand m = .ok (s.template.expand m) :=
  Template.tryExpand_eq_ok (hm.symm ▸ h.fits)

/-- A sound replacement does not fail. -/
lemma tryApply_eq_ok (h : s.Sound) (text : String) : s.tryApply text = .ok (s.apply text) := by
  rw [tryApply, h.parse]
  exact Pattern.tryReplaceAll_eq_ok (fun _ => h.tryExpand_eq_ok) text

end Substitution.Sound

namespace FieldSpec

/-- A specification is sound if its replacement is. -/
def Sound (f : FieldSpec) : Prop :=
  ∀ s, f.substitution? = some s → s.Sound

/-- The replacement of a specification that was read is sound. -/
lemma sound_of_decode [CharacterNames] {v : Vocabulary} {spec : Json} {f : FieldSpec}
    (h : decode v spec = .ok f) :
    f.Sound := by
  intro s hs
  cases decode_eq_ok.mp h with
  | copy | literal | transform | mapped => cases hs
  | substitute _ _ hcompile | substituteTransform _ _ hcompile =>
    cases hs
    exact .of_compile hcompile

lemma tryOnCapture_eq_ok {f : String → Except Breakdown String} {g : String → String}
    (h : ∀ text, f text = .ok (g text)) (capture : Option String) :
    tryOnCapture f capture = .ok (onCapture g capture) := by
  cases capture with
  | none => rfl
  | some text =>
    rw [tryOnCapture, onCapture, h]
    split_ifs <;> rfl

/-- The value of a field can be computed from any capture, also from one that is missing. -/
lemma Sound.tryResolve_eq_ok {f : FieldSpec} (h : f.Sound) (capture : Option String) :
    f.tryResolve capture = .ok (f.resolve capture) := by
  cases f with
  | substitute name s => exact tryOnCapture_eq_ok (h s rfl).tryApply_eq_ok capture
  | substituteTransform name s t =>
    refine tryOnCapture_eq_ok (fun text => ?_) capture
    rw [(h s rfl).tryApply_eq_ok]
    rfl
  | copy | literal | transform | mapped => rfl

end FieldSpec

namespace Rule

/-- A rule is sound if all its specifications are. -/
def Sound (rule : Rule) : Prop :=
  ∀ f ∈ rule.fields, f.Sound

/-- A rule that was compiled has sound specifications only. -/
lemma sound_of_compile [CharacterNames] {v : Vocabulary} {patterns specs : Json} {rule : Rule}
    (h : compile v patterns specs = .ok rule) : rule.Sound := by
  obtain ⟨_, _, items, _, hfields⟩ := compile_eq_ok.mp h
  intro f hf
  obtain ⟨item, _, hitem⟩ := exists_of_mem_mapM hfields hf
  exact FieldSpec.sound_of_decode hitem

/-- Sound specifications set their fields without a failure. -/
lemma tryAssign_eq_ok {fields : List FieldSpec} (h : ∀ f ∈ fields, f.Sound)
    (captures : List (Option String)) (record : Record) :
    tryAssign fields captures record = .ok (assign fields captures record) := by
  induction fields generalizing captures record with
  | nil => rfl
  | cons f fields ih =>
    obtain ⟨hf, hfields⟩ := List.forall_mem_cons.mp h
    rw [tryAssign, hf.tryResolve_eq_ok]
    exact ih hfields _ _

end Rule

/-! ### Records of texts -/

namespace Record

variable (r : Record)

lemma get?_toValues (field : String) :
    Assoc.get? field r.toValues = (Assoc.get? field r).map .str := by
  induction r with
  | nil => rfl
  | cons entry r ih =>
    obtain ⟨k, v⟩ := entry
    rw [Assoc.get?_cons, show toValues ((k, v) :: r) = (k, .str v) :: toValues r from rfl,
      Assoc.get?_cons, ih]
    split_ifs <;> rfl

/-- Insertion into a record of texts gives a record of texts. -/
lemma insert_toValues (field value : String) :
    Assoc.insert field (.str value) r.toValues = toValues (Assoc.insert field value r) := by
  induction r with
  | nil => rfl
  | cons entry r ih =>
    obtain ⟨k, v⟩ := entry
    rw [show toValues ((k, v) :: r) = (k, .str v) :: toValues r from rfl, Assoc.insert,
      Assoc.insert, ih]
    split_ifs <;> rfl

lemma holds_toValues (field text : String) :
    r.toValues.holds field text = (Assoc.get? field r == some text) := by
  rw [ValueRecord.holds, get?_toValues]
  cases Assoc.get? field r with
  | none => rfl
  | some value => simp [Bool.beq_eq_decide_eq]

/-- The refinement of a browser does not fail on texts. -/
lemma refineBrowser_toValues : r.toValues.refineBrowser = .ok r.refineBrowser.toValues := by
  rw [ValueRecord.refineBrowser, refineBrowser, get?_toValues r "name", get?_toValues r "version",
    value]
  cases Assoc.get? "name" r with
  | none =>
    cases Assoc.get? "version" r with
    | none => exact congrArg Except.ok (insert_toValues _ _ _)
    | some version => exact congrArg Except.ok (insert_toValues _ _ _)
  | some name =>
    dsimp only [Option.map_some]
    rw [insert_toValues]
    by_cases hname : name.isEmpty = true
    · rw [if_pos hname, if_pos hname]
      cases Assoc.get? "version" r with
      | none => exact congrArg Except.ok (insert_toValues _ _ _)
      | some version => exact congrArg Except.ok (insert_toValues _ _ _)
    · rw [if_neg hname, if_neg hname]
      cases Assoc.get? "version" r with
      | none => exact congrArg Except.ok (insert_toValues _ _ _)
      | some version => exact congrArg Except.ok (insert_toValues _ _ _)

lemma refineOs_toValues : r.toValues.refineOs = r.refineOs.toValues := by
  rw [ValueRecord.refineOs, refineOs, get?_toValues, value]
  cases Assoc.get? "version" r with
  | none => exact insert_toValues r _ _
  | some version => exact insert_toValues r _ _

lemma isAndroid_toValues : r.toValues.isAndroid = .ok r.isAndroid := by
  rw [ValueRecord.isAndroid, isAndroid, get?_toValues, value]
  cases Assoc.get? "name" r with
  | none => rfl
  | some name => rfl

lemma cutModel_toValues : r.toValues.cutModel = .ok r.cutModel.toValues := by
  rw [ValueRecord.cutModel, cutModel, get?_toValues]
  cases Assoc.get? "model" r with
  | none => rfl
  | some model =>
    simp only [Option.map_some, insert_toValues]
    split_ifs <;> rfl

/-- The refinement of a device that runs Android does not fail on texts. -/
lemma fillAndroid_toValues (os : Record) :
    r.toValues.fillAndroid os.toValues = .ok (r.fillAndroid os).toValues := by
  rw [ValueRecord.fillAndroid, fillAndroid, isAndroid_toValues, holds_toValues, holds_toValues]
  cases Assoc.get? "type" r == some unset with
  | false => rfl
  | true =>
    cases os.isAndroid with
    | false => rfl
    | true =>
      simp only [Except.map, if_true, Bool.and_self]
      split_ifs
      · rw [insert_toValues, insert_toValues]
      · rw [insert_toValues]

lemma correctSamsung_toValues : r.toValues.correctSamsung = r.correctSamsung.toValues := by
  rw [ValueRecord.correctSamsung, correctSamsung, holds_toValues, holds_toValues, insert_toValues]
  split_ifs <;> rfl

/-- The refinement of a device does not fail on texts. -/
lemma refineDevice_toValues (os : Record) :
    r.toValues.refineDevice os.toValues = .ok (r.refineDevice os).toValues := by
  rw [ValueRecord.refineDevice, fillAndroid_toValues]
  show ((r.fillAndroid os).toValues.correctSamsung).cutModel = _
  rw [correctSamsung_toValues, cutModel_toValues]
  rfl

end Record

/-! ### Attempts at whole records -/

/-- An attempt that succeeds whatever happens. -/
def Attempt.total {α : Type} (x : Logged α) : Attempt α :=
  ExceptT.mk (x.map .ok)

lemma Logged.map_eq {α β : Type} (f : α → β) (x : Logged α) : x.map f = f <$> x := rfl

namespace Attempt

variable {α β : Type}

/-- Computations that cannot fail can be put in sequence with or without failures. -/
lemma total_bind (x : Logged α) (f : α → Logged β) :
    total (x >>= f) = total x >>= fun a => total (f a) := rfl

lemma total_map (f : α → β) (x : Logged α) : total (f <$> x) = f <$> total x := by
  rw [← bind_pure_comp, ← bind_pure_comp]
  rfl

/-- What is attempted without notes succeeds if it gives a value. -/
lemma of_mapError_ok {ε : Type} (f : ε → Breakdown) (a : α) :
    of ((.ok a : Except ε α).mapError f) = pure a := rfl

end Attempt

/-- The rule that the search comes to is one of the group. -/
lemma RuleGroup.mem_of_go {rules : List Rule} {text : Array Char} {first index : Nat} {rule : Rule}
    {m : Match} (h : RuleGroup.firstMatch?.go text first rules = some (index, rule, m)) :
    rule ∈ rules := by
  induction rules generalizing first with
  | nil => cases h
  | cons r rules ih =>
    rw [firstMatch?.go] at h
    split at h
    · cases h
      exact List.mem_cons_self
    · exact List.mem_cons_of_mem _ (ih h)

/-- Sound rules give their record without a failure. -/
lemma RuleGroup.tryClassify_eq_total {group : RuleGroup} (h : ∀ rule ∈ group, rule.Sound)
    (fields : List String) (text : String) :
    group.tryClassify fields text = .total (group.classify fields text) := by
  rw [tryClassify, classify]
  cases hmatch : group.firstMatch? text.toList.toArray with
  | none => rfl
  | some found =>
    obtain ⟨index, rule, m⟩ := found
    dsimp only
    rw [Rule.tryAssign_eq_ok (h rule (mem_of_go hmatch))]
    rfl

namespace RuleSet

variable {r : RuleSet} (h : ∀ c, ∀ rule ∈ r.group c, rule.Sound) (userAgent : String)

include h

lemma tryRawRecord_eq_total (c : Category) :
    r.tryRawRecord userAgent c = Record.toValues <$> .total (r.rawRecord userAgent c) := by
  have hgroup := RuleGroup.tryClassify_eq_total (h c) c.fields userAgent
  rw [tryRawRecord, hgroup, map_eq_pure_bind]
  rfl

/-- Each of the five records is computed without a failure. -/
lemma tryRecord_eq_total (c : Category) :
    r.tryRecord userAgent c = Record.toValues <$> .total (r.record userAgent c) := by
  cases c with
  | browser =>
    simp only [tryRecord, tryRawRecord_eq_total h, bind_map_left, Record.refineBrowser_toValues,
      Attempt.of_mapError_ok, record, Logged.map_eq, Attempt.total_map, bind_pure_comp,
      Functor.map_map]
  | engine => exact tryRawRecord_eq_total h userAgent _
  | os =>
    simp only [tryRecord, tryRawRecord_eq_total h, Record.refineOs_toValues, record, Logged.map_eq,
      Attempt.total_map, bind_pure_comp, Functor.map_map]
  | cpu => exact tryRawRecord_eq_total h userAgent _
  | device =>
    simp only [tryRecord, tryRawRecord_eq_total h, bind_map_left, Record.refineOs_toValues,
      Record.refineDevice_toValues, Attempt.of_mapError_ok, record, Logged.map_eq,
      Attempt.total_bind, Attempt.total_map, bind_pure_comp, map_bind, Functor.map_map]

/-- So are all five together. -/
lemma tryClassify_eq_total : r.tryClassify userAgent =
    (fun result => Classification.order.map fun c => (c, (result.get c).toValues)) <$>
      .total (r.classify userAgent) := by
  simp only [tryClassify, tryRecord_eq_total h, Classification.order, List.mapM_cons,
    List.mapM_nil, bind_map_left, bind_assoc, pure_bind, bind_pure_comp, Functor.map_map, classify,
    Attempt.total_bind, Attempt.total_map, map_bind, List.map_cons, List.map_nil]
  rfl

end RuleSet

lemma Attempt.run_map_total {α β : Type} (f : α → β) (x : Logged α) :
    (f <$> Attempt.total x).run = x.map fun a => .ok (f a) := by
  rw [← total_map]
  rfl

namespace RuleSet

/-- The rules of an accepted table never fail. Each of their templates is the one that is read for its
pattern, refers only to groups of it, and can be expanded for all matches, whichever groups took part.
Every attempt at a record, or at all of them, gives what the classification gives. -/
theorem tryClassify_ofTable [CharacterNames] {v : Vocabulary} {table : Json}
    {source fileHash : Option String}
    {r : RuleSet} (h : (ofTable v table source fileHash).value = .ok r) (userAgent : String) :
    (∀ c, ∀ rule ∈ r.group c, ∀ f ∈ rule.fields, ∀ s, f.substitution? = some s →
      Template.parse s.search (Template.fromDollar s.source) = .ok s.template ∧
      s.template.Fits s.search.groupCount ∧
      ∀ m, s.search.Captures m → s.template.tryExpand m = .ok (s.template.expand m)) ∧
    (∀ c, (r.tryRecord userAgent c).run =
      (r.record userAgent c).map fun record => .ok record.toValues) ∧
    (r.tryClassify userAgent).run = (r.classify userAgent).map fun result =>
      .ok (Classification.order.map fun c => (c, (result.get c).toValues)) := by
  have hsound : ∀ c, ∀ rule ∈ r.group c, rule.Sound := by
    intro c rule hrule
    obtain ⟨_, _, hcompile⟩ := exists_compile h hrule
    exact Rule.sound_of_compile hcompile
  refine ⟨fun c rule hrule f hf s hs => ?_, fun c => ?_, ?_⟩
  · have hs := hsound c rule hrule f hf s hs
    exact ⟨hs.parse, hs.fits, fun m => hs.tryExpand_eq_ok⟩
  · rw [tryRecord_eq_total hsound, Attempt.run_map_total]
  · rw [tryClassify_eq_total hsound, Attempt.run_map_total]

/-- A table whose templates refer to groups by names, by numbers and by dollar signs. Not all of the
groups take part in a match. -/
def birdsAndFoxes : Json :=
  .obj [("browser", .arr [.arr [.ofTexts ["(Fox|Owl)(/[0-9.]+)?"],
    .arr [.ofTexts ["name", "(?P<bird>Owl)|(Fox)", "\\g<bird>$2"],
      .ofTexts ["version", "/([0-9]+)(\\.[0-9]+)?", "$\x7b1\x7d\\2", "trim"]]]])]

theorem tryClassify_birdsAndFoxes : ∃ r, (ofTable {} birdsAndFoxes).value = .ok r ∧
    (r.tryRecord "Fox/12" .browser).run.value =
      .ok [("name", .str "Fox"), ("version", .str "12"), ("major", .str "12")] := by
  have hany : (ofTable {} birdsAndFoxes).value.toOption.any (fun r =>
      decide ((r.record "Fox/12" .browser).value =
        [("name", "Fox"), ("version", "12"), ("major", "12")])) = true := by
    decide +kernel
  obtain ⟨r, hr, hrecord⟩ := exists_ok_of_any hany
  refine ⟨r, hr, ?_⟩
  rw [(tryClassify_ofTable hr "Fox/12").2.1 .browser, Logged.value_map, of_decide_eq_true hrecord]
  rfl

end RuleSet

end UserAgent
