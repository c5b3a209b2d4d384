import UserAgent.Proofs.Loading

/-!
# Groups that took no part

A group of a pattern that took no part in a match has no capture, and one that matched nothing has an
empty one. No specification tells these apart, unless it applies a transform that takes its own name for
a missing capture. The built-in transforms do not, so a rule that names no others gives the same record
(`Rule.extract_of_interchangeable`).
-/

namespace UserAgent

open Compiled

/-! ### Captures without a text -/

/-- A capture holds no text: its group took no part, or it matched nothing. -/
def Unfilled (capture : Option String) : Prop :=
  capture = none ∨ capture = some ""

/-- Two lists of captures differ only where both hold no text. Where one of them has ended, the other
one goes on with captures that hold no text. -/
inductive Interchangeable : List (Option String) → List (Option String) → Prop where
  | nil : Interchangeable [] []
  | same {captures captures' : List (Option String)} (capture : Option String)
    (h : Interchangeable captures captures') :
    Interchangeable (capture :: captures) (capture :: captures')
  | unfilled {captures captures' : List (Option String)} {capture capture' : Option String}
    (hcapture : Unfilled capture) (hcapture' : Unfilled capture')
    (h : Interchangeable captures captures') :
    Interchangeable (capture :: captures) (capture' :: captures')
  | longer {captures : List (Option String)} {capture : Option String} (hcapture : Unfilled capture)
    (h : Interchangeable captures []) : Interchangeable (capture :: captures) []
  | shorter {captures : List (Option String)} {capture : Option String} (hcapture : Unfilled capture)
    (h : Interchangeable [] captures) : Interchangeable [] (capture :: captures)

namespace Interchangeable

variable {captures captures' : List (Option String)}

lemma tail (h : Interchangeable captures captures') :
    Interchangeable captures.tail captures'.tail := by
  cases h with
  | nil => exact .nil
  | same _ h | unfilled _ _ h | longer _ h | shorter _ h => exact h

/-- The first captures are the same, or neither of them holds a text. -/
lemma head (h : Interchangeable captures captures') :
    captures.head?.join = captures'.head?.join ∨
      Unfilled captures.head?.join ∧ Unfilled captures'.head?.join := by
  cases h with
  | nil => exact .inl rfl
  | same capture _ => exact .inl rfl
  | unfilled hcapture hcapture' _ => exact .inr ⟨hcapture, hcapture'⟩
  | longer hcapture _ => exact .inr ⟨hcapture, .inl rfl⟩
  | shorter hcapture _ => exact .inr ⟨.inl rfl, hcapture⟩

end Interchangeable

/-! ### Values without a text -/

/-- A transform gives the unset value for a capture without a text: for a missing one, in place of its
own name, and for an empty one. -/
structure Transform.KeepsUnset (t : Transform) : Prop where
  missing : t.acceptsMissing = true
  empty : t.function "" = unset

lemma Transforms.keepsUnset_builtIn {token : String} {t : Transform}
    (h : builtIn.find? token = some t) : t.KeepsUnset :=
  forall_find?_builtIn ⟨rfl, rfl⟩ ⟨rfl, rfl⟩ h

namespace FieldSpec

lemma onCapture_of_unfilled (f : String → String) {capture : Option String} (h : Unfilled capture) :
    onCapture f capture = unset := by
  rcases h with rfl | rfl <;> rfl

/-- Captures without a text give the same value. -/
lemma resolve_of_unfilled {spec : FieldSpec} (hspec : ∀ t, spec.transform? = some t → t.KeepsUnset)
    {capture : Option String} (h : Unfilled capture) : spec.resolve capture = spec.resolve none := by
  cases spec with
  | literal name value => rfl
  | transform name t =>
    have ht : t.KeepsUnset := hspec t rfl
    rcases h with rfl | rfl
    · rfl
    · simp [resolve, Transform.apply, ht.missing, ht.empty]
  | copy _ | substitute _ _ | mapped _ _ | substituteTransform _ _ _ =>
    simp only [resolve, onCapture_of_unfilled _ h]
    rfl

end FieldSpec

namespace Rule

/-! ### Records -/

/-- Specifications whose transforms keep the unset value set their fields alike from captures that are
interchangeable. -/
lemma assign_of_interchangeable {specs : List FieldSpec}
    (hspecs : ∀ spec ∈ specs, ∀ t, spec.transform? = some t → t.KeepsUnset)
    {captures captures' : List (Option String)} (h : Interchangeable captures captures')
    (record : Record) : assign specs captures record = assign specs captures' record := by
  induction specs generalizing captures captures' record with
  | nil => rfl
  | cons spec specs ih =>
    obtain ⟨hspec, hspecs⟩ := List.forall_mem_cons.mp hspecs
    have hvalue : spec.resolve captures.head?.join = spec.resolve captures'.head?.join := by
      rcases h.head with heq | ⟨hunfilled, hunfilled'⟩
      · rw [heq]
      · rw [FieldSpec.resolve_of_unfilled hspec hunfilled,
          FieldSpec.resolve_of_unfilled hspec hunfilled']
    rw [assign, assign, hvalue]
    exact ih hspecs h.tail _

/-- A rule that was compiled with the built-in transforms, whatever the mapping tables, writes the same
record from captures that differ only in how they hold no text. -/
theorem extract_of_interchangeable [CharacterNames] {v : Vocabulary} (hv : v.transforms = .builtIn)
    {patterns specs : Json} {rule : Rule} (h : compile v patterns specs = .ok rule)
    {captures captures' : List (Option String)} (hcaptures : Interchangeable captures captures')
    (record : Record) :
    assign rule.fields captures record = assign rule.fields captures' record ∧
      ∀ m m' : Match, m.groups = captures → m'.groups = captures' →
        rule.extract m record = rule.extract m' record := by
  have hspecs : ∀ spec ∈ rule.fields, ∀ t, spec.transform? = some t → t.KeepsUnset := by
    intro spec hspec t ht
    obtain ⟨token, htoken⟩ := exists_find?_of_compile h hspec ht
    rw [hv] at htoken
    exact Transforms.keepsUnset_builtIn htoken
  have hassign := assign_of_interchangeable hspecs hcaptures record
  refine ⟨hassign, ?_⟩
  rintro m m' rfl rfl
  exact hassign

/-- The specifications of a rule, one of each kind. -/
def sixSpecs : Json :=
  .arr [.str "name", .ofTexts ["kind", "wild"], .ofTexts ["label", "lowerize"],
    .ofTexts ["short", "o", "0"], .ofTexts ["system", "mapping", "windows"],
    .ofTexts ["last", "o", "0", "trim"]]

/-- The second, third and fifth captures hold no text, and the sixth one is not there. -/
theorem extract_of_interchangeable_sixSpecs : ∃ rule, compile {} (.str "(fox)") sixSpecs = .ok rule ∧
    Interchangeable [some "Fox", none, some "", some "Fox", none]
      [some "Fox", some "", none, some "Fox", some "", none] ∧
    ∀ record, assign rule.fields [some "Fox", none, some "", some "Fox", none] record =
      assign rule.fields [some "Fox", some "", none, some "Fox", some "", none] record := by
  have hany : (compile {} (.str "(fox)") sixSpecs).toOption.any (fun _ => true) = true := by
    decide +kernel
  obtain ⟨rule, hrule, -⟩ := exists_ok_of_any hany
  have habsent : Unfilled none := .inl rfl
  have hempty : Unfilled (some "") := .inr rfl
  have hcaptures : Interchangeable [some "Fox", none, some "", some "Fox", none]
      [some "Fox", some "", none, some "Fox", some "", none] :=
    .same _ (.unfilled habsent hempty (.unfilled hempty habsent (.same _
      (.unfilled habsent hempty (.shorter habsent .nil)))))
  exact ⟨rule, hrule, hcaptures,
    fun record => (extract_of_interchangeable rfl hrule hcaptures record).1⟩

end Rule

end UserAgent
