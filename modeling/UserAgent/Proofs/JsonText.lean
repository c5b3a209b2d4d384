import UserAgent.Json.Printer
import UserAgent.Json.Reader
import UserAgent.Proofs.TextParts

/-!
# JSON texts are read back

A value without numbers, in which no object repeats a name, is what the reader makes of its text
(`Json.parse_render`). That text is printable ASCII but for its line feeds (`Json.printable_render`).
-/

namespace UserAgent.Json

/-! ### Strings -/

lemma hexValue?_digitChar : ∀ d < 16, hexValue? d.digitChar = some d := by
  decide

lemma toDigits_eq_cons {n : Nat} (h : 16 ≤ n) :
    Nat.toDigits 16 n = Nat.toDigits 16 (n / 16) ++ [(n % 16).digitChar] :=
  Nat.toDigits_of_base_le (by omega) h

/-- The four digits of a number, by division. -/
lemma hexDigits_four {n : Nat} (h : n < 0x10000) : Text.hexDigits 4 n =
    [(n / 16 / 16 / 16).digitChar, (n / 16 / 16 % 16).digitChar, (n / 16 % 16).digitChar,
      (n % 16).digitChar] := by
  have hzero : ∀ {m : Nat}, m < 16 → Nat.toDigits 16 m = [m.digitChar] := Nat.toDigits_of_lt_base
  have hdigit : Nat.digitChar 0 = '0' := rfl
  rw [Text.hexDigits]
  by_cases h₁ : n < 16
  · simp [hzero h₁, show n / 16 = 0 by omega, show n % 16 = n by omega, hdigit]
  by_cases h₂ : n / 16 < 16
  · simp [toDigits_eq_cons (by omega : 16 ≤ n), hzero h₂, show n / 16 / 16 = 0 by omega,
      show n / 16 % 16 = n / 16 by omega, hdigit]
  by_cases h₃ : n / 16 / 16 < 16
  · simp [toDigits_eq_cons (by omega : 16 ≤ n), toDigits_eq_cons (by omega : 16 ≤ n / 16), hzero h₃,
      show n / 16 / 16 / 16 = 0 by omega, show n / 16 / 16 % 16 = n / 16 / 16 by omega, hdigit]
  · simp [toDigits_eq_cons (by omega : 16 ≤ n), toDigits_eq_cons (by omega : 16 ≤ n / 16),
      toDigits_eq_cons (by omega : 16 ≤ n / 16 / 16),
      hzero (by omega : n / 16 / 16 / 16 < 16)]

/-- Four digits are read as the number that they stand for. -/
lemma readUnit_hexDigits {n : Nat} (h : n < 0x10000) (rest : List Char) :
    readUnit (Text.hexDigits 4 n ++ rest) = some (n, rest) := by
  rw [hexDigits_four h]
  have hmod : ∀ m, hexValue? (m % 16).digitChar = some (m % 16) := fun m =>
    hexValue?_digitChar _ (Nat.mod_lt _ (by omega))
  simp only [List.cons_append, List.nil_append, readUnit, hmod,
    hexValue?_digitChar _ (by omega : n / 16 / 16 / 16 < 16), Option.bind_eq_bind, Option.bind_some,
    Option.pure_def]
  congr 2
  omega

lemma toNat_lt_or (c : Char) : c.toNat < 0xd800 ∨ 0xdfff < c.toNat ∧ c.toNat < 0x110000 :=
  c.valid

/-- The halves of a pair are read as one character. -/
lemma readUnits_pair {high low : Nat} (hhigh : 0xd800 ≤ high ∧ high < 0xdc00)
    (hlow : 0xdc00 ≤ low ∧ low < 0xe000) (rest : List Char) :
    readUnits (Text.hexDigits 4 high ++ (unitEscape low ++ rest)) =
      some (Char.ofNat (0x10000 + (high - 0xd800) * 0x400 + (low - 0xdc00)), rest) := by
  have hread : readUnit (Text.hexDigits 4 low ++ rest) = some (low, rest) :=
    readUnit_hexDigits (by omega) rest
  rw [readUnits, readUnit_hexDigits (by omega)]
  simp [unitEscape, hhigh, hlow, hread]

/-- A number that is no half of a pair is read as a character of its own. -/
lemma readUnits_single {n : Nat} (h : n < 0xd800 ∨ 0xdfff < n ∧ n < 0x10000) (rest : List Char) :
    readUnits (Text.hexDigits 4 n ++ rest) = some (Char.ofNat n, rest) := by
  have hhigh : ¬(0xd800 ≤ n ∧ n < 0xdc00) := by omega
  have hlow : ¬(0xdc00 ≤ n ∧ n < 0xe000) := by omega
  rw [readUnits, readUnit_hexDigits (by omega)]
  simp [hhigh, hlow]

/-- An escape by number is read as the character it stands for. -/
lemma readString_unitEscape {fuel : Nat} {done rest rest' : List Char} {unit : Nat} {c : Char}
    (h : readUnits (Text.hexDigits 4 unit ++ rest) = some (c, rest')) :
    readString (fuel + 1) done (unitEscape unit ++ rest) = readString fuel (c :: done) rest' := by
  simp [unitEscape, readString, readEscape, h]

/-- An escaped character is read as that character. -/
lemma readString_escapeChar (fuel : Nat) (done : List Char) (c : Char) (rest : List Char) :
    readString (fuel + 1) done (escapeChar c ++ rest) = readString fuel (c :: done) rest := by
  have hvalid := toNat_lt_or c
  have hc : Char.ofNat c.toNat = c := Char.ofNat_toNat c
  unfold escapeChar
  split_ifs with hquote hline hreturn htab hfeed hback hprintable hplane
  · rcases (by simpa using hquote : c = '"' ∨ c = '\\') with rfl | rfl <;> rfl
  · obtain rfl : c = '\n' := by simpa using hline
    rfl
  · obtain rfl : c = '\r' := by simpa using hreturn
    rfl
  · obtain rfl : c = '\t' := by simpa using htab
    rfl
  · rw [← hc, show c.toNat = 0x0c by simpa using hfeed]
    rfl
  · rw [← hc, show c.toNat = 0x08 by simpa using hback]
    rfl
  · have hprint : 0x20 ≤ c.toNat ∧ c.toNat < 0x7f := by simpa using hprintable
    obtain ⟨hne, hne'⟩ : c ≠ '"' ∧ c ≠ '\\' := by simpa using hquote
    simp [readString, show ¬c.toNat < 0x20 by omega]
  · rw [readString_unitEscape (readUnits_single (by omega) rest), hc]
  · simp only [List.append_assoc]
    -- The halves of the pair give the number of the character back.
    have hpair : 0x10000 + (0xd800 + (c.toNat - 0x10000) / 0x400 - 0xd800) * 0x400 +
        (0xdc00 + (c.toNat - 0x10000) % 0x400 - 0xdc00) = c.toNat := by
      omega
    rw [readString_unitEscape (readUnits_pair (by omega) (by omega) rest), hpair, hc]

/-- The characters of a string, each written as it has to be, are read back up to the closing mark.
-/
lemma readString_flatMap {fuel : Nat} (done cs rest : List Char) (h : cs.length < fuel) :
    readString fuel done (cs.flatMap escapeChar ++ '"' :: rest) =
      some (String.ofList (done.reverse ++ cs), rest) := by
  induction cs generalizing fuel done with
  | nil =>
    obtain ⟨fuel, rfl⟩ := Nat.exists_eq_succ_of_ne_zero (by omega : fuel ≠ 0)
    simp [readString]
  | cons c cs ih =>
    obtain ⟨fuel, rfl⟩ := Nat.exists_eq_succ_of_ne_zero (by omega : fuel ≠ 0)
    rw [List.flatMap_cons, List.append_assoc, readString_escapeChar,
      ih (c :: done) (by simpa using h)]
    simp

/-- No character is written as nothing. -/
lemma length_le_flatMap_escapeChar (cs : List Char) :
    cs.length ≤ (cs.flatMap escapeChar).length := by
  induction cs with
  | nil => simp
  | cons c cs ih =>
    have hpos : 0 < (escapeChar c).length := by
      rw [List.length_pos_iff]
      unfold escapeChar
      split_ifs <;> exact List.cons_ne_nil _ _
    rw [List.flatMap_cons, List.length_append, List.length_cons]
    omega

/-- A string is read back. -/
lemma readString_renderString {fuel : Nat} (s : String) (rest : List Char)
    (h : (renderString s).toList.length ≤ fuel) : ∃ cs, (renderString s).toList = '"' :: cs ∧
      readString fuel [] (cs ++ rest) = some (s, rest) := by
  refine ⟨s.toList.flatMap escapeChar ++ ['"'], by simp [renderString], ?_⟩
  have hlength := length_le_flatMap_escapeChar s.toList
  rw [List.append_assoc]
  refine (readString_flatMap [] s.toList rest ?_).trans (by simp)
  simp only [renderString, String.toList_ofList, List.length_append, List.length_cons] at h
  omega

/-! ### White space -/

/-- Nothing but white space. -/
def IsBlank (cs : List Char) : Prop :=
  ∀ c ∈ cs, c = ' ' ∨ c = '\n'

/-- White space is skipped, whatever stands behind it. -/
lemma skipBlank_append {cs : List Char} (h : IsBlank cs) (rest : List Char) :
    skipBlank (cs ++ rest) = skipBlank rest := by
  induction cs with
  | nil => rfl
  | cons c cs ih =>
    obtain ⟨hc, hcs⟩ := List.forall_mem_cons.mp h
    rw [List.cons_append, skipBlank, List.dropWhile_cons_of_pos, ← skipBlank, ih hcs]
    rcases hc with rfl | rfl <;> rfl

lemma isBlank_newline (style : Style) (depth : Nat) : IsBlank (style.newline depth).toList := by
  cases style with
  | line => simp [IsBlank, Style.newline]
  | indented columns => simp +contextual [IsBlank, Style.newline]

/-- What stands between items is a comma and white space. -/
lemma toList_between (style : Style) (depth : Nat) : ∃ cs, IsBlank cs ∧
    (style.between depth).toList = ',' :: cs := by
  cases style with
  | line => exact ⟨[' '], by simp [IsBlank], by simp [Style.between]⟩
  | indented columns =>
    exact ⟨_, isBlank_newline (.indented columns) depth, by simp [Style.between]⟩

/-! ### Values -/

mutual
/-- Whether a value has no numbers in it, and no object that repeats a name. -/
def isPlain : Json → Bool
  | .null | .bool _ | .str _ => true
  | .int _ | .float _ => false
  | .arr items => arePlain items
  | .obj members => decide (Assoc.keys members).Nodup && membersArePlain members

/-- Whether all items are plain. -/
def arePlain : List Json → Bool
  | [] => true
  | item :: items => item.isPlain && arePlain items

/-- Whether the values of all members are plain. -/
def membersArePlain : List (String × Json) → Bool
  | [] => true
  | (_, value) :: members => value.isPlain && membersArePlain members
end

/-- The characters that the texts of plain values begin with. -/
def Begins (c : Char) : Prop :=
  c = 'n' ∨ c = 't' ∨ c = 'f' ∨ c = '"' ∨ c = '[' ∨ c = '\x7b'

lemma skipBlank_cons {c : Char} (h : Begins c) (rest : List Char) :
    skipBlank (c :: rest) = c :: rest := by
  rcases h with rfl | rfl | rfl | rfl | rfl | rfl <;> rfl

/-- A value that is written begins with a character that begins values. -/
lemma toList_renderAt {value : Json} (h : value.isPlain) (style : Style) (depth : Nat) :
    ∃ c cs, (renderAt style depth value).toList = c :: cs ∧ Begins c := by
  cases value with
  | null => exact ⟨'n', ['u', 'l', 'l'], by simp [renderAt], by simp [Begins]⟩
  | bool b =>
    cases b with
    | true => exact ⟨'t', ['r', 'u', 'e'], by simp [renderAt], by simp [Begins]⟩
    | false => exact ⟨'f', ['a', 'l', 's', 'e'], by simp [renderAt], by simp [Begins]⟩
  | str s => exact ⟨'"', _, by simp [renderAt, renderString]; rfl, by simp [Begins]⟩
  | int i => cases h
  | float x => cases h
  | arr items =>
    cases items <;> exact ⟨'[', _, by simp [renderAt]; rfl, by simp [Begins]⟩
  | obj members =>
    cases members <;> exact ⟨'\x7b', _, by simp [renderAt]; rfl, by simp [Begins]⟩

/-- There is nothing to skip before a value. -/
lemma skipBlank_renderAt {value : Json} (h : value.isPlain) (style : Style) (depth : Nat)
    (rest : List Char) : skipBlank ((renderAt style depth value).toList ++ rest) =
      (renderAt style depth value).toList ++ rest := by
  obtain ⟨c, cs, hcs, hc⟩ := toList_renderAt h style depth
  rw [hcs, List.cons_append, skipBlank_cons hc]

/-! ### Steps of the reader -/

section Steps

variable {fuel : Nat} {blanks cs more rest : List Char} {name : String} {value : Json}

/-- A list that is not empty is read item by item. -/
lemma readValue_items {c : Char} (hblanks : IsBlank blanks) (hc : Begins c) :
    readValue (fuel + 1) ('[' :: (blanks ++ c :: cs)) = readItems fuel [] (c :: cs) := by
  rw [readValue, skipBlank_append hblanks, skipBlank_cons hc]
  rcases hc with rfl | rfl | rfl | rfl | rfl | rfl <;> rfl

/-- An object that is not empty is read member by member. -/
lemma readValue_members (hblanks : IsBlank blanks) :
    readValue (fuel + 1) ('\x7b' :: (blanks ++ '"' :: cs)) = readMembers fuel [] ('"' :: cs) := by
  rw [readValue, skipBlank_append hblanks]
  rfl

lemma skipBlank_mark {c : Char} (h : c = ',' ∨ c = ':') (cs : List Char) :
    skipBlank (c :: cs) = c :: cs := by
  rcases h with rfl | rfl <;> rfl

lemma skipBlank_space (cs : List Char) : skipBlank (' ' :: cs) = skipBlank cs := rfl

/-- The last item is one with a bracket behind it. -/
lemma readItems_last (done : List Json) (h : readValue fuel cs = .ok (value, blanks ++ ']' :: rest))
    (hblanks : IsBlank blanks) :
    readItems (fuel + 1) done cs = .ok (.arr (value :: done).reverse, rest) := by
  rw [readItems, h]
  dsimp only
  rw [skipBlank_append hblanks]
  rfl

/-- After an item with a comma behind it, reading goes on with the next one. -/
lemma readItems_next (done : List Json) (h : readValue fuel cs = .ok (value, ',' :: (blanks ++ rest)))
    (hblanks : IsBlank blanks) (hrest : skipBlank rest = rest) :
    readItems (fuel + 1) done cs = readItems fuel (value :: done) rest := by
  simp only [readItems, h, skipBlank_mark (.inl rfl), skipBlank_append hblanks, hrest]

/-- The last member is one with a brace behind it. -/
lemma readMembers_last (done : List (String × Json))
    (hname : readString fuel [] cs = some (name, ':' :: ' ' :: more)) (hmore : skipBlank more = more)
    (h : readValue fuel more = .ok (value, blanks ++ '\x7d' :: rest)) (hblanks : IsBlank blanks) :
    readMembers (fuel + 1) done ('"' :: cs) =
      .ok (.obj (Assoc.ofList ((name, value) :: done).reverse), rest) := by
  simp only [readMembers, hname, skipBlank_mark (.inr rfl), skipBlank_space, hmore, h,
    skipBlank_append hblanks]
  rfl

/-- After a member with a comma behind it, reading goes on with the next one. -/
lemma readMembers_next (done : List (String × Json))
    (hname : readString fuel [] cs = some (name, ':' :: ' ' :: more)) (hmore : skipBlank more = more)
    (h : readValue fuel more = .ok (value, ',' :: (blanks ++ rest))) (hblanks : IsBlank blanks)
    (hrest : skipBlank rest = rest) :
    readMembers (fuel + 1) done ('"' :: cs) = readMembers fuel ((name, value) :: done) rest := by
  simp only [readMembers, hname, skipBlank_mark (.inr rfl), skipBlank_mark (.inl rfl),
    skipBlank_space, hmore, h, skipBlank_append hblanks, hrest]

end Steps

/-! ### Whole values -/

/-- The reader gives back a value from its text, given fuel for the characters. -/
def ReadsBack (value : Json) : Prop :=
  ∀ (style : Style) (depth fuel : Nat) (rest : List Char),
    (renderAt style depth value).toList.length < fuel →
    readValue fuel ((renderAt style depth value).toList ++ rest) = .ok (value, rest)

/-- The reader gives back the items of a list. -/
def ItemsReadBack (items : List Json) : Prop :=
  ∀ (style : Style) (depth fuel : Nat) (done : List Json) (blanks rest : List Char), IsBlank blanks →
    (Text.joinWith (style.between depth) (renderItems style depth items)).toList.length + 1 < fuel →
    readItems fuel done ((Text.joinWith (style.between depth)
      (renderItems style depth items)).toList ++ (blanks ++ ']' :: rest)) =
        .ok (.arr (done.reverse ++ items), rest)

/-- The reader gives back the members of an object. -/
def MembersReadBack (members : List (String × Json)) : Prop :=
  ∀ (style : Style) (depth fuel : Nat) (done : List (String × Json)) (blanks rest : List Char),
    IsBlank blanks →
    (Text.joinWith (style.between depth) (renderMembers style depth members)).toList.length + 1 < fuel →
    readMembers fuel done ((Text.joinWith (style.between depth)
      (renderMembers style depth members)).toList ++ (blanks ++ '\x7d' :: rest)) =
        .ok (.obj (Assoc.ofList (done.reverse ++ members)), rest)

/-- A list is read back if its items are. -/
lemma readsBack_arr {item : Json} {items : List Json} (hplain : item.isPlain)
    (h : ItemsReadBack (item :: items)) : ReadsBack (.arr (item :: items)) := by
  intro style depth fuel rest hfuel
  obtain ⟨fuel, rfl⟩ := Nat.exists_eq_succ_of_ne_zero (by omega : fuel ≠ 0)
  rw [renderAt] at hfuel ⊢
  have hitems := h style (depth + 1) fuel [] _ rest (isBlank_newline style depth)
    (by simp at hfuel; omega)
  obtain ⟨tail, htail⟩ := Text.toList_joinWith (style.between (depth + 1))
    (renderAt style (depth + 1) item) (renderItems style (depth + 1) items)
  obtain ⟨c, cs, hcs, hc⟩ := toList_renderAt hplain style (depth + 1)
  rw [renderItems, htail, hcs] at hitems
  simp only [renderItems, String.toList_append, htail, hcs]
  simpa using (readValue_items (isBlank_newline style (depth + 1)) hc).trans hitems

/-- An object is read back if its members are, and if its keys are different. -/
lemma readsBack_obj {name : String} {value : Json} {members : List (String × Json)}
    (hnodup : (Assoc.keys ((name, value) :: members)).Nodup)
    (h : MembersReadBack ((name, value) :: members)) : ReadsBack (.obj ((name, value) :: members)) := by
  intro style depth fuel rest hfuel
  obtain ⟨fuel, rfl⟩ := Nat.exists_eq_succ_of_ne_zero (by omega : fuel ≠ 0)
  rw [renderAt] at hfuel ⊢
  have hmembers := h style (depth + 1) fuel [] _ rest (isBlank_newline style depth)
    (by simp at hfuel; omega)
  obtain ⟨tail, htail⟩ := Text.toList_joinWith (style.between (depth + 1))
    (renderString name ++ ": " ++ renderAt style (depth + 1) value)
    (renderMembers style (depth + 1) members)
  obtain ⟨cs, hcs, -⟩ := readString_renderString name [] (Nat.le_refl _)
  rw [List.reverse_nil, List.nil_append, Assoc.ofList_of_nodup_keys hnodup] at hmembers
  simp only [renderMembers, String.toList_append, htail, hcs] at hmembers ⊢
  simpa using (readValue_members (isBlank_newline style (depth + 1))).trans
    (by simpa using hmembers)

lemma itemsReadBack_singleton {item : Json} (h : ReadsBack item) : ItemsReadBack [item] := by
  intro style depth fuel done blanks rest hblanks hfuel
  obtain ⟨fuel, rfl⟩ := Nat.exists_eq_succ_of_ne_zero (by omega : fuel ≠ 0)
  simp only [renderItems, Text.joinWith] at hfuel ⊢
  have hvalue := h style depth fuel (blanks ++ ']' :: rest) (by omega)
  rw [readItems_last done hvalue hblanks, List.reverse_cons]

/-- A further item is read back before those that are. -/
lemma itemsReadBack_cons {item next : Json} {items : List Json} (hplain : next.isPlain)
    (hitem : ReadsBack item) (hitems : ItemsReadBack (next :: items)) :
    ItemsReadBack (item :: next :: items) := by
  intro style depth fuel done blanks rest hblanks hfuel
  obtain ⟨fuel, rfl⟩ := Nat.exists_eq_succ_of_ne_zero (by omega : fuel ≠ 0)
  obtain ⟨gap, hgap, hbetween⟩ := toList_between style depth
  obtain ⟨tail, htail⟩ := Text.toList_joinWith (style.between depth)
    (renderAt style depth next) (renderItems style depth items)
  simp only [renderItems, Text.toList_joinWith_cons, hbetween, List.length_append, List.length_cons]
    at hfuel
  have hrest := hitems style depth fuel (item :: done) blanks rest hblanks
    (by simp only [renderItems]; omega)
  simp only [renderItems, htail, List.append_assoc] at hrest
  simp only [renderItems, Text.toList_joinWith_cons, hbetween, htail, List.append_assoc,
    List.cons_append]
  rw [readItems_next done (hitem style depth fuel _ (by omega)) hgap
    (skipBlank_renderAt hplain style depth _), hrest]
  simp

lemma membersReadBack_singleton {name : String} {value : Json} (hplain : value.isPlain)
    (h : ReadsBack value) : MembersReadBack [(name, value)] := by
  intro style depth fuel done blanks rest hblanks hfuel
  obtain ⟨fuel, rfl⟩ := Nat.exists_eq_succ_of_ne_zero (by omega : fuel ≠ 0)
  simp only [renderMembers, Text.joinWith, String.toList_append, List.length_append] at hfuel ⊢
  obtain ⟨cs, hcs, hname⟩ := readString_renderString name
    (':' :: ' ' :: ((renderAt style depth value).toList ++ (blanks ++ '\x7d' :: rest)))
    (by omega : _ ≤ fuel)
  have hlast := readMembers_last done hname (skipBlank_renderAt hplain style depth _)
    (h style depth fuel (blanks ++ '\x7d' :: rest) (by omega)) hblanks
  rw [hcs]
  simpa using hlast

/-- A further member is read back before those that are. -/
lemma membersReadBack_cons {name next : String} {value nextValue : Json}
    {members : List (String × Json)} (hplain : value.isPlain) (hvalue : ReadsBack value)
    (hmembers : MembersReadBack ((next, nextValue) :: members)) :
    MembersReadBack ((name, value) :: (next, nextValue) :: members) := by
  intro style depth fuel done blanks rest hblanks hfuel
  obtain ⟨fuel, rfl⟩ := Nat.exists_eq_succ_of_ne_zero (by omega : fuel ≠ 0)
  obtain ⟨gap, hgap, hbetween⟩ := toList_between style depth
  obtain ⟨tail, htail⟩ := Text.toList_joinWith (style.between depth)
    (renderString next ++ ": " ++ renderAt style depth nextValue)
    (renderMembers style depth members)
  simp only [renderMembers, Text.toList_joinWith_cons, hbetween, String.toList_append, List.length_append,
    List.length_cons] at hfuel
  have hrest := hmembers style depth fuel ((name, value) :: done) blanks rest hblanks
    (by simp only [renderMembers]; omega)
  simp only [renderMembers, htail, List.append_assoc] at hrest
  obtain ⟨cs, hcs, hname⟩ := readString_renderString name
    (':' :: ' ' :: ((renderAt style depth value).toList ++ (',' :: (gap ++
      ((renderString next ++ ": " ++ renderAt style depth nextValue).toList ++
        (tail ++ (blanks ++ '\x7d' :: rest)))))))
    (by omega : _ ≤ fuel)
  have hblank : skipBlank ((renderString next ++ ": " ++ renderAt style depth nextValue).toList ++
      (tail ++ (blanks ++ '\x7d' :: rest))) =
        (renderString next ++ ": " ++ renderAt style depth nextValue).toList ++
          (tail ++ (blanks ++ '\x7d' :: rest)) := by
    obtain ⟨cs, hcs, -⟩ := readString_renderString next [] (Nat.le_refl _)
    simp [hcs, skipBlank_cons (.inr (.inr (.inr (.inl rfl))))]
  have hnext := readMembers_next done hname (skipBlank_renderAt hplain style depth _)
    (hvalue style depth fuel _ (by omega)) hgap hblank
  rw [hrest] at hnext
  simp only [renderMembers, Text.toList_joinWith_cons, hbetween, htail]
  rw [String.toList_append, String.toList_append, hcs]
  simpa using hnext

mutual
/-- Every plain value is read back, by induction on the value, with its items and members. -/
theorem readsBack : ∀ value : Json, value.isPlain → ReadsBack value
  | .null, _ => by
    intro style depth fuel rest hfuel
    obtain ⟨fuel, rfl⟩ := Nat.exists_eq_succ_of_ne_zero (by omega : fuel ≠ 0)
    simp [renderAt, readValue, readName]
    rfl
  | .bool b, _ => by
    intro style depth fuel rest hfuel
    obtain ⟨fuel, rfl⟩ := Nat.exists_eq_succ_of_ne_zero (by omega : fuel ≠ 0)
    cases b <;> simp [renderAt, readValue, readName] <;> rfl
  | .str s, _ => by
    intro style depth fuel rest hfuel
    obtain ⟨fuel, rfl⟩ := Nat.exists_eq_succ_of_ne_zero (by omega : fuel ≠ 0)
    rw [renderAt] at hfuel ⊢
    obtain ⟨cs, hcs, hread⟩ := readString_renderString s rest (by omega : _ ≤ fuel)
    rw [hcs, List.cons_append, readValue, hread]
  | .arr [], _ => by
    intro style depth fuel rest hfuel
    obtain ⟨fuel, rfl⟩ := Nat.exists_eq_succ_of_ne_zero (by omega : fuel ≠ 0)
    simp [renderAt, readValue, skipBlank]
  | .arr (item :: items), h => by
    have hplain : arePlain (item :: items) := by simpa [isPlain] using h
    have hitem : item.isPlain := by simp_all [arePlain]
    exact readsBack_arr hitem (itemsReadBack (item :: items) hplain (List.cons_ne_nil _ _))
  | .obj [], _ => by
    intro style depth fuel rest hfuel
    obtain ⟨fuel, rfl⟩ := Nat.exists_eq_succ_of_ne_zero (by omega : fuel ≠ 0)
    simp [renderAt, readValue, skipBlank]
  | .obj ((name, value) :: members), h => by
    obtain ⟨hnodup, hplain⟩ : (Assoc.keys ((name, value) :: members)).Nodup ∧
        membersArePlain ((name, value) :: members) := by
      simpa [isPlain] using h
    exact readsBack_obj hnodup (membersReadBack _ hplain (List.cons_ne_nil _ _))

theorem itemsReadBack : ∀ items : List Json, arePlain items → items ≠ [] → ItemsReadBack items
  | [], _, h => absurd rfl h
  | [item], h, _ => itemsReadBack_singleton (readsBack item (by simpa [arePlain] using h))
  | item :: next :: items, h, _ => by
    obtain ⟨hitem, hitems⟩ : item.isPlain ∧ arePlain (next :: items) := by
      simpa [arePlain] using h
    have hnext : next.isPlain := by simp_all [arePlain]
    exact itemsReadBack_cons hnext (readsBack item hitem)
      (itemsReadBack (next :: items) hitems (List.cons_ne_nil _ _))

theorem membersReadBack : ∀ members : List (String × Json), membersArePlain members →
    members ≠ [] → MembersReadBack members
  | [], _, h => absurd rfl h
  | [(name, value)], h, _ => by
    have hvalue : value.isPlain := by simpa [membersArePlain] using h
    exact membersReadBack_singleton hvalue (readsBack value hvalue)
  | (name, value) :: (next, nextValue) :: members, h, _ => by
    obtain ⟨hvalue, hmembers⟩ : value.isPlain ∧ membersArePlain ((next, nextValue) :: members) := by
      simpa [membersArePlain] using h
    exact membersReadBack_cons hvalue (readsBack value hvalue)
      (membersReadBack ((next, nextValue) :: members) hmembers (List.cons_ne_nil _ _))
end

/-- A plain value is read from its text, and white space may follow. -/
lemma parse_render_append {value : Json} (h : value.isPlain) (style : Style) {text : String}
    (hblank : IsBlank text.toList) : parse (value.render style ++ text) = .ok value := by
  obtain ⟨c, cs, hcs, hc⟩ := toList_renderAt h style 0
  have hread := readsBack value h style 0
    ((renderAt style 0 value).toList.length + text.toList.length + 1) text.toList (by omega)
  have hskip := skipBlank_renderAt h style 0 text.toList
  have hend : skipBlank text.toList = [] := by
    simpa [skipBlank] using skipBlank_append hblank []
  have hmark : c ≠ '\ufeff' := by
    rcases hc with rfl | rfl | rfl | rfl | rfl | rfl <;> decide
  rw [parse, render, String.toList_append]
  split
  · rename_i heq
    rw [hcs] at heq
    cases heq
    exact absurd rfl hmark
  · rw [hskip, List.length_append, hread]
    dsimp only
    rw [hend]
    rfl

/-- A plain value is read from its text. -/
theorem parse_render {value : Json} (h : value.isPlain) (style : Style) :
    parse (value.render style) = .ok value := by
  have hempty : IsBlank "".toList := by simp [IsBlank]
  simpa using parse_render_append h style hempty

/-! ### The characters of a text -/

/-- A text of printable ASCII characters and line feeds. -/
def Printable (s : String) : Prop :=
  ∀ c ∈ s.toList, c = '\n' ∨ 0x20 ≤ c.toNat ∧ c.toNat < 0x7f

lemma Printable.append {s t : String} (hs : Printable s) (ht : Printable t) : Printable (s ++ t) := by
  intro c hc
  rw [String.toList_append] at hc
  exact (List.mem_append.mp hc).elim (hs c) (ht c)

/-- Printable texts with a printable mark between them are printable. -/
lemma Printable.joinWith {separator : String} {texts : List String} (hseparator : Printable separator)
    (htexts : ∀ s ∈ texts, Printable s) : Printable (Text.joinWith separator texts) :=
  Text.forall_mem_joinWith hseparator htexts

lemma printable_newline (style : Style) (depth : Nat) : Printable (style.newline depth) := by
  cases style with
  | line => simp [Style.newline, Printable]
  | indented columns => simp +contextual [Style.newline, Printable]

lemma printable_between (style : Style) (depth : Nat) : Printable (style.between depth) := by
  cases style with
  | line => simp [Style.between, Printable]
  | indented columns =>
    have hcomma : Printable "," := by simp [Printable]
    exact hcomma.append (printable_newline _ depth)

lemma printable_digitChar : ∀ d < 16, 0x20 ≤ d.digitChar.toNat ∧ d.digitChar.toNat < 0x7f := by
  decide

lemma printable_unitEscape {unit : Nat} (h : unit < 0x10000) :
    ∀ c ∈ unitEscape unit, c = '\n' ∨ 0x20 ≤ c.toNat ∧ c.toNat < 0x7f := by
  simp only [unitEscape, hexDigits_four h, List.forall_mem_cons, List.not_mem_nil, false_imp_iff,
    forall_const, and_true]
  refine ⟨by simp, by simp, .inr ?_, .inr ?_, .inr ?_, .inr ?_⟩ <;>
    exact printable_digitChar _ (by omega)

/-- Every character is written with printable ones only. -/
lemma printable_escapeChar (c : Char) :
    ∀ d ∈ escapeChar c, d = '\n' ∨ 0x20 ≤ d.toNat ∧ d.toNat < 0x7f := by
  have hvalid := toNat_lt_or c
  unfold escapeChar
  split_ifs with hquote hline hreturn htab hfeed hback hprintable hplane
  · rcases (by simpa using hquote : c = '"' ∨ c = '\\') with rfl | rfl <;> simp
  · simp
  · simp
  · simp
  · simp
  · simp
  · have hprint : 0x20 ≤ c.toNat ∧ c.toNat < 0x7f := by simpa using hprintable
    simp [hprint]
  · exact printable_unitEscape hplane
  · intro d hd
    exact (List.mem_append.mp hd).elim (printable_unitEscape (by omega) d)
      (printable_unitEscape (by omega) d)

lemma printable_renderString (s : String) : Printable (renderString s) := by
  intro d hd
  simp only [renderString, String.toList_ofList, List.mem_append, List.mem_cons, List.mem_flatMap,
    List.not_mem_nil, or_false] at hd
  rcases hd with (rfl | ⟨c, -, hd⟩) | rfl
  · simp
  · exact printable_escapeChar c d hd
  · simp

lemma printable_brackets {opening closing inner : String} (style : Style) (depth : Nat)
    (hopening : Printable opening) (hclosing : Printable closing) (hinner : Printable inner) :
    Printable (opening ++ style.newline (depth + 1) ++ inner ++ style.newline depth ++ closing) :=
  (((hopening.append (printable_newline style _)).append hinner).append
    (printable_newline style _)).append hclosing

mutual
/-- Every plain value is written with printable characters only. -/
theorem printable_renderAt (style : Style) : ∀ (depth : Nat) (value : Json), value.isPlain →
    Printable (renderAt style depth value)
  | _, .null, _ => by simp [renderAt, Printable]
  | _, .bool b, _ => by cases b <;> simp [renderAt, Printable]
  | _, .str s, _ => printable_renderString s
  | _, .arr [], _ => by simp [renderAt, Printable]
  | depth, .arr (item :: items), h => by
    rw [renderAt]
    refine printable_brackets style depth (by simp [Printable]) (by simp [Printable]) ?_
    exact (printable_between style _).joinWith
      (printable_renderItems style (depth + 1) (item :: items) (by simpa [isPlain] using h))
  | _, .obj [], _ => by simp [renderAt, Printable]
  | depth, .obj (member :: members), h => by
    rw [renderAt]
    refine printable_brackets style depth (by simp [Printable]) (by simp [Printable]) ?_
    refine (printable_between style _).joinWith
      (printable_renderMembers style (depth + 1) (member :: members) ?_)
    exact (Bool.and_eq_true_iff.mp h).2

theorem printable_renderItems (style : Style) : ∀ (depth : Nat) (items : List Json),
    arePlain items → ∀ s ∈ renderItems style depth items, Printable s
  | _, [], _ => by simp [renderItems]
  | depth, item :: items, h => by
    obtain ⟨hitem, hitems⟩ := Bool.and_eq_true_iff.mp h
    exact List.forall_mem_cons.mpr
      ⟨printable_renderAt style depth item hitem, printable_renderItems style depth items hitems⟩

theorem printable_renderMembers (style : Style) : ∀ (depth : Nat) (members : List (String × Json)),
    membersArePlain members → ∀ s ∈ renderMembers style depth members, Printable s
  | _, [], _ => by simp [renderMembers]
  | depth, (name, value) :: members, h => by
    obtain ⟨hvalue, hmembers⟩ := Bool.and_eq_true_iff.mp h
    have hcolon : Printable ": " := by simp [Printable]
    exact List.forall_mem_cons.mpr
      ⟨((printable_renderString name).append hcolon).append
        (printable_renderAt style depth value hvalue),
        printable_renderMembers style depth members hmembers⟩
end

/-- The text of a plain value is printable ASCII but for its line feeds. -/
theorem printable_render {value : Json} (h : value.isPlain) (style : Style) :
    Printable (value.render style) :=
  printable_renderAt style 0 value h

end UserAgent.Json
