import UserAgent.Assoc
import UserAgent.Decimal.Binary64

/-!
# JSON values

Rule tables, configurations and results are JSON values. Numbers without a fraction or an exponent
are integers of any size, all others floating-point numbers; objects keep the order of their members.
-/

namespace UserAgent

/-- A JSON value. -/
inductive Json where
  | null
  | bool (value : Bool)
  | int (value : Int)
  | float (value : Binary64)
  | str (value : String)
  | arr (items : List Json)
  | obj (members : List (String × Json))
deriving Inhabited

namespace Json

/-! ### Equality -/

mutual
/-- Whether two values are the same: equal texts and numbers, items and members in one order. -/
def same : Json → Json → Bool
  | .null, .null => true
  | .bool a, .bool b => a == b
  | .int a, .int b => a == b
  | .float a, .float b => a == b
  | .str a, .str b => a == b
  | .arr as, .arr bs => sameItems as bs
  | .obj as, .obj bs => sameMembers as bs
  | _, _ => false

/-- Whether two lists of items are the same. -/
def sameItems : List Json → List Json → Bool
  | [], [] => true
  | a :: as, b :: bs => same a b && sameItems as bs
  | _, _ => false

/-- Whether two lists of members are the same. -/
def sameMembers : List (String × Json) → List (String × Json) → Bool
  | [], [] => true
  | (k, a) :: as, (l, b) :: bs => k == l && same a b && sameMembers as bs
  | _, _ => false
end

mutual
/-- Values are equal if the comparison finds no difference; for lists and members this goes by their
items. -/
theorem eq_of_same : ∀ {a b : Json}, same a b = true → a = b
  | .null, b, h => by cases b <;> simp_all [same]
  | .bool _, b, h => by cases b <;> simp_all [same]
  | .int _, b, h => by cases b <;> simp_all [same]
  | .float _, b, h => by cases b <;> simp_all [same]
  | .str _, b, h => by cases b <;> simp_all [same]
  | .arr as, b, h => by
    cases b with
    | arr bs => exact congrArg arr (eq_of_sameItems (by simpa [same] using h))
    | _ => simp [same] at h
  | .obj as, b, h => by
    cases b with
    | obj bs => exact congrArg obj (eq_of_sameMembers (by simpa [same] using h))
    | _ => simp [same] at h

theorem eq_of_sameItems : ∀ {as bs : List Json}, sameItems as bs = true → as = bs
  | [], bs, h => by cases bs <;> simp_all [sameItems]
  | a :: as, [], h => by simp [sameItems] at h
  | a :: as, b :: bs, h => by
    simp only [sameItems, Bool.and_eq_true] at h
    rw [eq_of_same h.1, eq_of_sameItems h.2]

theorem eq_of_sameMembers :
    ∀ {as bs : List (String × Json)}, sameMembers as bs = true → as = bs
  | [], bs, h => by cases bs <;> simp_all [sameMembers]
  | (k, a) :: as, [], h => by simp [sameMembers] at h
  | (k, a) :: as, (l, b) :: bs, h => by
    simp only [sameMembers, Bool.and_eq_true, beq_iff_eq] at h
    rw [h.1.1, eq_of_same h.1.2, eq_of_sameMembers h.2]
end

mutual
/-- The comparison finds no difference between a value and itself. -/
theorem same_refl : ∀ a : Json, same a a = true
  | .null => rfl
  | .bool _ => by simp [same]
  | .int _ => by simp [same]
  | .float _ => by simp [same]
  | .str _ => by simp [same]
  | .arr as => by simpa [same] using sameItems_refl as
  | .obj as => by simpa [same] using sameMembers_refl as

theorem sameItems_refl : ∀ as : List Json, sameItems as as = true
  | [] => rfl
  | a :: as => by simp [sameItems, same_refl a, sameItems_refl as]

theorem sameMembers_refl : ∀ as : List (String × Json), sameMembers as as = true
  | [] => rfl
  | (k, a) :: as => by simp [sameMembers, same_refl a, sameMembers_refl as]
end

/-- The comparison decides equality. -/
theorem same_iff {a b : Json} : same a b = true ↔ a = b :=
  ⟨eq_of_same, fun h => h ▸ same_refl a⟩

instance : DecidableEq Json := fun _ _ => decidable_of_iff _ same_iff

/-! ### Access -/

/-- The member of an object with the given name. -/
def get? (name : String) : Json → Option Json
  | .obj members => Assoc.get? name members
  | _ => none

/-- The text of a string. -/
def asText? : Json → Option String
  | .str s => some s
  | _ => none

/-- The members of an object. -/
def asMembers? : Json → Option (List (String × Json))
  | .obj members => some members
  | _ => none

/-- Whether a value counts as true: all do but null, false, zero and what is empty. -/
def isTruthy : Json → Bool
  | .null => false
  | .bool b => b
  | .int i => i != 0
  | .float x => !x.isZero
  | .str s => !s.isEmpty
  | .arr items => !items.isEmpty
  | .obj members => !members.isEmpty

/-- The array of a list of texts. -/
def ofTexts (texts : List String) : Json :=
  .arr (texts.map .str)

end Json

end UserAgent
