import UserAgent.Decimal.Limit
import UserAgent.Json.Basic

/-!
# Reading JSON

The reader takes exactly the grammar of JSON, and besides it the three names of the numbers that have
no digits. Of two members with one name the later value counts, in the place of the earlier one.
-/

namespace UserAgent.Json

/-! ### Failures -/

/-- Why a text is not read. -/
inductive ReadError where
  /-- The text begins with a byte order mark. -/
  | byteOrderMark
  /-- The text does not follow the grammar. -/
  | malformed
  /-- An integer has more digits than are converted. -/
  | tooManyDigits (count : Nat)
deriving DecidableEq, Repr

/-- The words for a failure. -/
def ReadError.message : ReadError → String
  | .byteOrderMark => "<json error>"
  | .malformed => "<json error>"
  | .tooManyDigits count => numeralLimitMessage count

/-! ### Strings -/

/-- Skip the white space between the parts of a text. -/
def skipBlank (cs : List Char) : List Char :=
  cs.dropWhile fun c => c == ' ' || c == '\t' || c == '\n' || c == '\r'

/-- The value of a hexadecimal digit. -/
def hexValue? (c : Char) : Option Nat :=
  if '0' ≤ c && c ≤ '9' then some (c.toNat - '0'.toNat)
  else if 'a' ≤ c && c ≤ 'f' then some (c.toNat - 'a'.toNat + 10)
  else if 'A' ≤ c && c ≤ 'F' then some (c.toNat - 'A'.toNat + 10)
  else none

/-- Read four hexadecimal digits. -/
def readUnit : List Char → Option (Nat × List Char)
  | a :: b :: c :: d :: rest => do
    let a ← hexValue? a
    let b ← hexValue? b
    let c ← hexValue? c
    let d ← hexValue? d
    return (((a * 16 + b) * 16 + c) * 16 + d, rest)
  | _ => none

/-- Read what follows the letter of a unit escape: one unit, or two that stand for one character. A
unit of a pair that stands alone is read as the replacement character. -/
def readUnits (cs : List Char) : Option (Char × List Char) := do
  let (unit, rest) ← readUnit cs
  if 0xd800 ≤ unit && unit < 0xdc00 then
    match rest with
    | '\\' :: 'u' :: more =>
      let (low, rest') ← readUnit more
      if 0xdc00 ≤ low && low < 0xe000 then
        return (Char.ofNat (0x10000 + (unit - 0xd800) * 0x400 + (low - 0xdc00)), rest')
      else return ('\ufffd', rest)
    | _ => return ('\ufffd', rest)
  else if 0xdc00 ≤ unit && unit < 0xe000 then return ('\ufffd', rest)
  else return (Char.ofNat unit, rest)

/-- Read what follows a backslash. -/
def readEscape : List Char → Option (Char × List Char)
  | '"' :: rest => some ('"', rest)
  | '\\' :: rest => some ('\\', rest)
  | '/' :: rest => some ('/', rest)
  | 'b' :: rest => some (Char.ofNat 0x08, rest)
  | 'f' :: rest => some (Char.ofNat 0x0c, rest)
  | 'n' :: rest => some ('\n', rest)
  | 'r' :: rest => some ('\r', rest)
  | 't' :: rest => some ('\t', rest)
  | 'u' :: rest => readUnits rest
  | _ => none

/-- Read a string after its opening quote; `done` is the part that has been read, backwards. -/
def readString : (fuel : Nat) → (done rest : List Char) → Option (String × List Char)
  | 0, _, _ => none
  | fuel + 1, done, rest =>
    match rest with
    | [] => none
    | '"' :: rest => some (String.ofList done.reverse, rest)
    | '\\' :: rest =>
      match readEscape rest with
      | some (c, rest) => readString fuel (c :: done) rest
      | none => none
    | c :: rest => if c.toNat < 0x20 then none else readString fuel (c :: done) rest

/-! ### Numbers -/

/-- Whether a character is one of the ten digits. -/
def isDigit (c : Char) : Bool :=
  '0' ≤ c && c ≤ '9'

/-- The number that digits stand for. -/
def digitsValue (ds : List Char) : Nat :=
  ds.foldl (fun n d => n * 10 + (d.toNat - '0'.toNat)) 0

/-- The digits at the front. -/
def spanDigits (cs : List Char) : List Char × List Char :=
  (cs.takeWhile isDigit, cs.dropWhile isDigit)

/-- Read the digits before the point: a zero, or digits that do not begin with one. -/
def readWhole : List Char → Option (List Char × List Char)
  | '0' :: rest => some (['0'], rest)
  | cs =>
    match spanDigits cs with
    | ([], _) => none
    | found => some found

/-- Read a point and digits, if both are there. -/
def readFraction : List Char → Option (List Char × List Char)
  | '.' :: rest =>
    match spanDigits rest with
    | ([], _) => none
    | found => some found
  | _ => none

/-- Read the digits of an exponent. -/
def readPower (negative : Bool) (cs : List Char) : Option (Int × List Char) :=
  match spanDigits cs with
  | ([], _) => none
  | (ds, rest) =>
    -- An exponent of twenty digits is out of range like any longer one.
    let ds := ds.dropWhile (· == '0')
    let value : Int := if ds.length < 20 then digitsValue ds else 100000000000000000000
    some (if negative then -value else value, rest)

/-- Read an exponent, if it is complete. -/
def readExponent : List Char → Option (Int × List Char)
  | e :: rest =>
    if e == 'e' || e == 'E' then
      match rest with
      | '-' :: rest => readPower true rest
      | '+' :: rest => readPower false rest
      | rest => readPower false rest
    else none
  | [] => none

/-- Read a number after its sign. -/
def readNumber (negative : Bool) (cs : List Char) : Except ReadError (Json × List Char) :=
  match readWhole cs with
  | none => .error .malformed
  | some (whole, rest) =>
    let fraction := readFraction rest
    let rest := (fraction.map (·.2)).getD rest
    let exponent := readExponent rest
    let rest := (exponent.map (·.2)).getD rest
    if fraction.isNone && exponent.isNone then
      if maxNumeralDigits < whole.length then .error (.tooManyDigits whole.length)
      else
        let value : Int := digitsValue whole
        .ok (.int (if negative then -value else value), rest)
    else
      let places := (fraction.map (·.1)).getD []
      let power := (exponent.map (·.1)).getD 0 - places.length
      .ok (.float (.ofDecimal negative (digitsValue (whole ++ places)) power), rest)

/-! ### Values -/

/-- Read a name that stands for a value. -/
def readName (cs : List Char) : Option (Json × List Char) :=
  let names : List (String × Json) :=
    [("null", .null), ("true", .bool true), ("false", .bool false), ("NaN", .float .nan),
      ("Infinity", .float (.infinity false)), ("-Infinity", .float (.infinity true))]
  names.findSome? fun (name, value) =>
    if name.toList.isPrefixOf cs then some (value, cs.drop name.length) else none

mutual
/-- Read a value; the fuel bounds the characters that are read. -/
def readValue : (fuel : Nat) → List Char → Except ReadError (Json × List Char)
  | 0, _ => .error .malformed
  | fuel + 1, cs =>
    match cs with
    | '"' :: rest =>
      match readString fuel [] rest with
      | some (s, rest) => .ok (.str s, rest)
      | none => .error .malformed
    | '[' :: rest =>
      match skipBlank rest with
      | ']' :: rest => .ok (.arr [], rest)
      | rest => readItems fuel [] rest
    | '\x7b' :: rest =>
      match skipBlank rest with
      | '\x7d' :: rest => .ok (.obj [], rest)
      | rest => readMembers fuel [] rest
    | cs =>
      match readName cs with
      | some found => .ok found
      | none =>
        match cs with
        | '-' :: rest => readNumber true rest
        | cs => readNumber false cs

/-- Read the items of an array up to its closing bracket; `done` are those read, backwards. -/
def readItems : (fuel : Nat) → (done : List Json) → List Char →
    Except ReadError (Json × List Char)
  | 0, _, _ => .error .malformed
  | fuel + 1, done, cs =>
    match readValue fuel cs with
    | .error e => .error e
    | .ok (item, rest) =>
      match skipBlank rest with
      | ']' :: rest => .ok (.arr (item :: done).reverse, rest)
      | ',' :: rest => readItems fuel (item :: done) (skipBlank rest)
      | _ => .error .malformed

/-- Read the members of an object up to its closing brace; `done` are those read, backwards. -/
def readMembers : (fuel : Nat) → (done : List (String × Json)) → List Char →
    Except ReadError (Json × List Char)
  | 0, _, _ => .error .malformed
  | fuel + 1, done, cs =>
    match cs with
    | '"' :: rest =>
      match readString fuel [] rest with
      | none => .error .malformed
      | some (name, rest) =>
        match skipBlank rest with
        | ':' :: rest =>
          match readValue fuel (skipBlank rest) with
          | .error e => .error e
          | .ok (value, rest) =>
            match skipBlank rest with
            | '\x7d' :: rest =>
              .ok (.obj (Assoc.ofList ((name, value) :: done).reverse), rest)
            | ',' :: rest => readMembers fuel ((name, value) :: done) (skipBlank rest)
            | _ => .error .malformed
        | _ => .error .malformed
    | _ => .error .malformed
end

/-- Read a text that holds one value. -/
def parse (text : String) : Except ReadError Json :=
  match text.toList with
  | '\ufeff' :: _ => .error .byteOrderMark
  | cs =>
    match readValue (cs.length + 1) (skipBlank cs) with
    | .error e => .error e
    | .ok (value, rest) => if (skipBlank rest).isEmpty then .ok value else .error .malformed

/-! ### Objects -/

/-- None of the three names is an object. -/
theorem not_obj_of_readName {cs rest : List Char} {members : List (String × Json)} :
    readName cs ≠ some (.obj members, rest) := by
  intro h
  obtain ⟨⟨name, value⟩, hmem, h⟩ := List.exists_of_findSome?_eq_some h
  have hvalue : value = .obj members := by
    dsimp only at h
    split at h
    · cases h; rfl
    · cases h
  subst hvalue
  simp at hmem

theorem not_obj_of_readNumber {negative : Bool} {cs rest : List Char}
    {members : List (String × Json)} : readNumber negative cs ≠ .ok (.obj members, rest) := by
  intro h
  unfold readNumber at h
  split at h
  · cases h
  · dsimp only at h
    split at h
    · split at h <;> cases h
    · cases h

theorem readItems_eq_ok {fuel : Nat} {done : List Json} {cs rest : List Char} {value : Json}
    (h : readItems fuel done cs = .ok (value, rest)) : ∃ items, value = .arr items := by
  induction fuel generalizing done cs with
  | zero => cases h
  | succ fuel ih =>
    rw [readItems] at h
    split at h
    · cases h
    · split at h
      · cases h
        exact ⟨_, rfl⟩
      · exact ih h
      · cases h

/-- Members with one name are joined when an object is read. -/
theorem readMembers_eq_ok {fuel : Nat} {done : List (String × Json)} {cs rest : List Char}
    {value : Json} (h : readMembers fuel done cs = .ok (value, rest)) :
    ∃ entries, value = .obj (Assoc.ofList entries) := by
  induction fuel generalizing done cs with
  | zero => cases h
  | succ fuel ih =>
    unfold readMembers at h
    split at h
    · split at h
      · cases h
      · split at h
        · split at h
          · cases h
          · split at h
            · cases h
              exact ⟨_, rfl⟩
            · exact ih h
            · cases h
        · cases h
    · cases h

/-- The members of an object that was read have different keys, since a repeated key replaces the
value. -/
theorem nodup_keys_of_readValue {fuel : Nat} {cs rest : List Char} {members : List (String × Json)}
    (h : readValue fuel cs = .ok (.obj members, rest)) : (Assoc.keys members).Nodup := by
  cases fuel with
  | zero => cases h
  | succ fuel =>
    unfold readValue at h
    split at h
    · split at h <;> cases h
    · split at h
      · cases h
      · obtain ⟨_, hitems⟩ := readItems_eq_ok h
        cases hitems
    · split at h
      · cases h
        exact List.nodup_nil
      · obtain ⟨entries, hentries⟩ := readMembers_eq_ok h
        cases hentries
        exact Assoc.nodup_keys_ofList entries
    · split at h
      · rename_i hname
        cases h
        exact absurd hname not_obj_of_readName
      · split at h
        · exact absurd h not_obj_of_readNumber
        · exact absurd h not_obj_of_readNumber

/-- The names of the members of an object that is read are all different. -/
theorem nodup_keys_of_parse {text : String} {members : List (String × Json)}
    (h : parse text = .ok (.obj members)) : (Assoc.keys members).Nodup := by
  unfold parse at h
  split at h
  · cases h
  · split at h
    · cases h
    · rename_i value rest hvalue
      split at h
      · cases h
        exact nodup_keys_of_readValue hvalue
      · cases h

end UserAgent.Json
