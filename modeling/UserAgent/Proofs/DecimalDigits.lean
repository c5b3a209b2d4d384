import Mathlib.Data.Nat.Digits.Defs
import Mathlib.Tactic.Common
import UserAgent.Regex.Template

/-!
# Numbers in the digits of any script

A decimal digit is neither white space nor the beginning of an identifier, whatever script it belongs
to. So digits are read as the number that they stand for, up to the length to which the texts of
integers are read at all (`Text.readInteger_of_isNumeral`).
-/

namespace UserAgent

namespace Unicode

/-! ### Intervals -/

/-- Halving ends between two neighbours, of which the first one is at most `n` and the second one is
beyond it. -/
lemma rankBetween_bounds {keys : Array Nat} {n steps low high : Nat} (hle : low ≤ high)
    (hsteps : high ≤ low + steps) (hbelow : low = 0 ∨ keys.getD (low - 1) 0 ≤ n)
    (habove : high = keys.size ∨ n < keys.getD high 0) :
    (rankBetween keys n steps low high = 0 ∨
      keys.getD (rankBetween keys n steps low high - 1) 0 ≤ n) ∧
    (rankBetween keys n steps low high = keys.size ∨
      n < keys.getD (rankBetween keys n steps low high) 0) := by
  induction steps generalizing low high with
  | zero =>
    have heq : low = high := by omega
    rw [rankBetween]
    exact ⟨hbelow, heq ▸ habove⟩
  | succ steps ih =>
    rw [rankBetween]
    dsimp only
    split_ifs with hlt hmiddle
    · exact ih (by omega) (by omega) (.inr hmiddle) habove
    · exact ih (by omega) (by omega) hbelow (.inr (by omega))
    · have heq : low = high := by omega
      exact ⟨hbelow, heq ▸ habove⟩

lemma rank_bounds (keys : Array Nat) (n : Nat) :
    (rank keys n = 0 ∨ keys.getD (rank keys n - 1) 0 ≤ n) ∧
      (rank keys n = keys.size ∨ n < keys.getD (rank keys n) 0) :=
  rankBetween_bounds (Nat.zero_le _) (by omega) (.inl rfl) (.inl rfl)

/-- Bounds two by two. -/
def pairOff : List Nat → List (Nat × Nat)
  | low :: high :: bounds => (low, high) :: pairOff bounds
  | _ => []

lemma mem_pairOff {bounds : List Nat} {i low high : Nat} (hlow : bounds[2 * i]? = some low)
    (hhigh : bounds[2 * i + 1]? = some high) : (low, high) ∈ pairOff bounds := by
  induction bounds using pairOff.induct generalizing i with
  | case1 first second bounds ih =>
    rw [pairOff, List.mem_cons]
    cases i with
    | zero =>
      simp at hlow hhigh
      simp [hlow, hhigh]
    | succ i => exact .inr (ih (by simpa [Nat.mul_succ] using hlow) (by simpa [Nat.mul_succ] using hhigh))
  | case2 bounds hshort =>
    cases bounds with
    | nil => simp at hlow
    | cons first bounds =>
      cases bounds with
      | nil => simp at hhigh
      | cons second bounds => exact absurd rfl (hshort first second bounds)

/-- A code point of a set lies in one of its intervals. -/
lemma exists_mem_pairOff {s : Intervals} {n : Nat} (heven : s.bounds.size % 2 = 0)
    (h : s.contains n = true) : ∃ pair ∈ pairOff s.bounds.toList, pair.1 ≤ n ∧ n < pair.2 := by
  obtain ⟨hbelow, habove⟩ := rank_bounds s.bounds n
  rw [Intervals.contains, beq_iff_eq] at h
  obtain ⟨i, hi⟩ : ∃ i, rank s.bounds n = 2 * i + 1 := ⟨rank s.bounds n / 2, by omega⟩
  rw [hi] at hbelow habove
  have hlow := hbelow.resolve_left (by omega)
  have hhigh := habove.resolve_left (by omega)
  have hsize : 2 * i + 1 < s.bounds.size := by
    by_contra hge
    simp [Array.getD, hge] at hhigh
  have hget : ∀ j < s.bounds.size, s.bounds.toList[j]? = some (s.bounds.getD j 0) := by
    intro j hj
    simp [Array.getD, hj]
  exact ⟨_, mem_pairOff (hget (2 * i) (by omega)) (hget _ hsize), hlow, hhigh⟩

/-- One interval ends before the other one begins. -/
def apart (s t : Nat × Nat) : Bool :=
  Nat.ble s.2 t.1 || Nat.ble t.2 s.1

/-- Whether all intervals of two sets are apart. -/
def allApart (s t : Intervals) : Bool :=
  s.bounds.size % 2 == 0 && t.bounds.size % 2 == 0 &&
    (pairOff s.bounds.toList).all fun p => (pairOff t.bounds.toList).all (apart p)

/-- Sets whose intervals are apart have no code point in common. -/
lemma contains_eq_false_of_allApart {s t : Intervals} {n : Nat} (hapart : allApart s t = true)
    (h : s.contains n = true) : t.contains n = false := by
  rw [allApart, Bool.and_eq_true, Bool.and_eq_true, beq_iff_eq, beq_iff_eq] at hapart
  obtain ⟨⟨hs, ht⟩, hall⟩ := hapart
  by_contra hn
  obtain ⟨p, hp, hlow, hhigh⟩ := exists_mem_pairOff hs h
  obtain ⟨q, hq, hlow', hhigh'⟩ := exists_mem_pairOff ht (Bool.eq_true_of_not_eq_false hn)
  have hpq := List.all_eq_true.mp (List.all_eq_true.mp hall p hp) q hq
  rw [apart, Bool.or_eq_true, Nat.ble_eq, Nat.ble_eq] at hpq
  omega

/-! ### Digits -/

variable {n : Nat}

/-- The white space beyond ASCII. -/
def blanks : List Nat :=
  [0x85, 0xa0, 0x1680] ++ List.range' 0x2000 11 ++ [0x2028, 0x2029, 0x202f, 0x205f, 0x3000]

/-- The digits beyond ASCII are apart from the characters that begin identifiers and from white
space. -/
lemma decimalDigits_apart : (allApart decimalDigits identifierStarts &&
    blanks.all fun b => !decimalDigits.contains b) = true := by
  decide +kernel

/-- The digits are those of ASCII, and those in the ranges of the table. -/
lemma isDigit_eq_true_iff : isDigit n = true ↔
    (0x30 ≤ n ∧ n ≤ 0x39) ∨ (0x80 ≤ n ∧ decimalDigits.contains n = true) := by
  rw [isDigit]
  split_ifs with hn
  · simp [isAsciiDigit]
    omega
  · constructor
    · intro h
      exact .inr ⟨Nat.le_of_not_lt hn, h⟩
    · rintro (hascii | ⟨-, h⟩)
      · omega
      · exact h

/-- A digit does not begin an identifier. -/
lemma isIdentifierStart_of_isDigit (h : isDigit n = true) : isIdentifierStart n = false := by
  rw [isIdentifierStart]
  rcases isDigit_eq_true_iff.mp h with hascii | ⟨hn, hdigit⟩
  · simp [hascii]
    omega
  · rw [if_neg (Nat.not_lt.mpr hn)]
    exact contains_eq_false_of_allApart (Bool.and_eq_true_iff.mp decimalDigits_apart).1 hdigit

/-- A digit is no white space. -/
lemma isBlank_of_isDigit (h : isDigit n = true) : isBlank n = false := by
  rw [isBlank]
  rcases isDigit_eq_true_iff.mp h with hascii | ⟨hn, hdigit⟩
  · rw [if_pos (by omega)]
    simp [isAsciiBlank]
    omega
  · have hnot : n ∉ blanks := by
      intro hmem
      have hfalse := List.all_eq_true.mp (Bool.and_eq_true_iff.mp decimalDigits_apart).2 n hmem
      rw [hdigit] at hfalse
      cases hfalse
    rw [if_neg (Nat.not_lt.mpr hn)]
    simp [blanks] at hnot ⊢
    omega

lemma isAsciiBlank_of_isDigit (h : isDigit n = true) : isAsciiBlank n = false := by
  have hblank := isBlank_of_isDigit h
  rw [isBlank] at hblank
  split_ifs at hblank with hn
  · exact (Bool.or_eq_false_iff.mp hblank).1
  · simp [isAsciiBlank]
    omega

/-- Every digit has a value. -/
lemma exists_digitValue? (h : isDigit n = true) : ∃ v, digitValue? n = some v := by
  rw [isDigit] at h
  rw [digitValue?]
  split_ifs at h ⊢ <;> exact ⟨_, rfl⟩

end Unicode

/-! ### Numbers -/

namespace Template

/-- Digits, at least one of them. -/
def IsNumeral (ds : List Char) : Prop :=
  ds ≠ [] ∧ ∀ d ∈ ds, isDigit d = true

/-- The value of a digit. -/
def digitValue (d : Char) : Nat :=
  (Unicode.digitValue? d.toNat).getD 0

/-- The number that digits stand for in the decimal system. -/
def numeralValue (ds : List Char) : Nat :=
  Nat.ofDigits 10 (ds.reverse.map digitValue)

variable {ds : List Char}

lemma digitValue?_eq {d : Char} (h : isDigit d = true) :
    Unicode.digitValue? d.toNat = some (digitValue d) := by
  obtain ⟨v, hv⟩ := Unicode.exists_digitValue? h
  rw [digitValue, hv, Option.getD_some]

lemma ne_of_isDigit {c d : Char} (hd : isDigit d = true) (hc : isDigit c = false) : d ≠ c := by
  rintro rfl
  rw [hd] at hc
  cases hc

lemma not_mem_of_isNumeral {c : Char} (h : IsNumeral ds) (hc : isDigit c = false) : c ∉ ds :=
  fun hmem => ne_of_isDigit (h.2 c hmem) hc rfl

/-- A numeral is no name, since no digit begins one. -/
lemma isIdentifier_of_isNumeral (h : IsNumeral ds) : Unicode.isIdentifier ds = false := by
  cases ds with
  | nil => rfl
  | cons d ds =>
    have hstart := Unicode.isIdentifierStart_of_isDigit (h.2 d List.mem_cons_self)
    rw [Unicode.isIdentifier, hstart, Bool.false_and]

end Template

namespace Text

open Template

variable {ds : List Char}

/-- Every character of a numeral has a value as a digit. -/
lemma digitValues?_of_isNumeral (h : IsNumeral ds) :
    digitValues? ds = some (ds.map digitValue) := by
  obtain ⟨hne, hds⟩ := h
  induction ds with
  | nil => exact absurd rfl hne
  | cons d ds ih =>
    obtain ⟨hd, hds⟩ := List.forall_mem_cons.mp hds
    cases ds with
    | nil => simp [digitValues?, digitValue?_eq hd]
    | cons e ds =>
      -- the second digit is no underscore, so that the last equation of the reader applies
      have he : e ≠ '_' := ne_of_isDigit (hds e List.mem_cons_self) rfl
      rw [digitValues?, digitValue?_eq hd, ih (by simp) hds]
      · rfl
      · exact he

lemma dropWhile_eq_self {isBlank : Char → Bool} (hds : ∀ d ∈ ds, isBlank d = false) :
    ds.dropWhile isBlank = ds := by
  cases ds with
  | nil => rfl
  | cons d ds => simp [hds d List.mem_cons_self]

/-- There is nothing to trim from a numeral. -/
lemma trimInteger_of_isNumeral (h : IsNumeral ds) : trimInteger ds = ds := by
  have hblank : ∀ isBlank : Char → Bool, (∀ d, isDigit d = true → isBlank d = false) →
      ((ds.dropWhile isBlank).reverse.dropWhile isBlank).reverse = ds := by
    intro isBlank hisBlank
    rw [dropWhile_eq_self fun d hd => hisBlank d (h.2 d hd),
      dropWhile_eq_self fun d hd => hisBlank d (h.2 d (List.mem_reverse.mp hd)), List.reverse_reverse]
  rw [trimInteger]
  split_ifs
  · exact hblank _ fun d => Unicode.isAsciiBlank_of_isDigit
  · exact hblank _ fun d => Unicode.isBlank_of_isDigit

/-- Adding digit after digit gives the number that they stand for. -/
lemma foldl_eq_ofDigits (values : List Nat) (n : Nat) :
    values.foldl (fun n d => n * 10 + d) n =
      n * 10 ^ values.length + Nat.ofDigits 10 values.reverse := by
  induction values generalizing n with
  | nil => simp
  | cons v values ih =>
    rw [List.foldl_cons, ih, List.reverse_cons, Nat.ofDigits_append, List.length_cons, pow_succ]
    simp
    ring

/-- Digits are read as the number that they stand for, if they are not too many. -/
theorem readInteger_of_isNumeral (h : IsNumeral ds) : readInteger ds =
    if ds.length ≤ maxNumeralDigits then some (Int.ofNat (numeralValue ds)) else none := by
  have hread : readNatural ds =
      if ds.length ≤ maxNumeralDigits then some (numeralValue ds) else none := by
    rw [readNatural, digitValues?_of_isNumeral h]
    simp only [Option.bind_eq_bind, Option.bind_some, List.length_map, foldl_eq_ofDigits,
      Nat.zero_mul, Nat.zero_add, ← List.map_reverse, ← Nat.not_le, ite_not]
    rfl
  rw [readInteger, trimInteger_of_isNumeral h]
  split
  · exact absurd (h.2 '-' List.mem_cons_self) (by decide)
  · exact absurd (h.2 '+' List.mem_cons_self) (by decide)
  · rw [hread]
    split_ifs <;> rfl

end Text

end UserAgent
