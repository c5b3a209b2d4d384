import Mathlib.Data.Nat.Digits.Defs
import UserAgent.Proofs.WrittenFiles

/-!
# The hash of a file

The hash of a file is that of its text, and a text has line feeds as its line ends. So it is the hash of
the bytes of the file after their line ends were made line feeds, and that of the file itself exactly if
the two have the same hash, as they do if the file has no carriage returns
(`RuleSet.hashedAs_iff`).
-/

namespace UserAgent

/-! ### Digests -/

namespace Sha256

lemma length_wordDigits (word : UInt32) : (wordDigits word).length = 8 := by
  have hlength : (Nat.toDigits 16 word.toNat).length ≤ 8 :=
    Nat.toDigits_length 16 word.toNat 8 (by decide) word.toNat_lt
  rw [wordDigits, List.length_append, List.length_replicate]
  omega

/-- A digest has two digits for each of its thirty-two bytes. -/
theorem length_hexDigest (message : List UInt8) : (hexDigest message).length = 64 := by
  simp [hexDigest, State.words, length_wordDigits]

lemma hexDigest_ne_empty (message : List UInt8) : hexDigest message ≠ "" := by
  intro h
  have := length_hexDigest message
  rw [h] at this
  cases this

end Sha256

/-! ### Line ends in bytes -/

namespace Utf8

/-- The byte of a carriage return. -/
def carriageReturn : UInt8 := 0x0d

/-- The byte of a line feed. -/
def lineFeed : UInt8 := 0x0a

/-- Replace the other line ends of `bs` by line feeds. -/
def lineFeeds : List UInt8 → List UInt8
  | [] => []
  | b :: bs =>
    if b ≠ carriageReturn then b :: lineFeeds bs
    else if bs.head? = some lineFeed then lineFeeds bs
    else lineFeed :: lineFeeds bs

@[simp] lemma lineFeeds_nil : lineFeeds [] = [] := rfl

lemma lineFeeds_cons_of_ne {b : UInt8} (h : b ≠ carriageReturn) (bs : List UInt8) :
    lineFeeds (b :: bs) = b :: lineFeeds bs := by
  rw [lineFeeds, if_pos h]

lemma lineFeeds_carriageReturn (bs : List UInt8) : lineFeeds (carriageReturn :: bs) =
    if bs.head? = some lineFeed then lineFeeds bs else lineFeed :: lineFeeds bs := by
  rw [lineFeeds, if_neg (not_not.mpr rfl)]

/-- Bytes before the first carriage return stay as they are. -/
lemma lineFeeds_append {as : List UInt8} (h : carriageReturn ∉ as) (bs : List UInt8) :
    lineFeeds (as ++ bs) = as ++ lineFeeds bs := by
  induction as with
  | nil => rfl
  | cons a as ih =>
    obtain ⟨ha, has⟩ := not_or.mp (mt List.mem_cons.mpr h)
    rw [List.cons_append, lineFeeds_cons_of_ne (Ne.symm ha), ih has, List.cons_append]

/-- No carriage return is left. -/
lemma not_mem_lineFeeds (bs : List UInt8) : carriageReturn ∉ lineFeeds bs := by
  induction bs with
  | nil => simp
  | cons b bs ih =>
    rw [lineFeeds]
    split_ifs with hb hhead
    · exact List.not_mem_cons_of_ne_of_not_mem (Ne.symm hb) ih
    · exact ih
    · exact List.not_mem_cons_of_ne_of_not_mem (by decide) ih

/-- Only bytes without carriage returns stay as they are. -/
theorem lineFeeds_eq_self_iff {bs : List UInt8} : lineFeeds bs = bs ↔ carriageReturn ∉ bs := by
  constructor
  · intro h
    rw [← h]
    exact not_mem_lineFeeds bs
  · intro h
    have := lineFeeds_append h []
    rwa [List.append_nil, lineFeeds_nil, List.append_nil] at this

/-! ### Line ends in texts -/

/-- A byte below 128 stands for itself, and occurs in no other sequence. -/
lemma eq_of_mem_utf8EncodeChar {c : Char} {b : UInt8} (hb : b.toNat < 128)
    (h : b ∈ String.utf8EncodeChar c) : c.val.toNat = b.toNat := by
  rw [String.utf8EncodeChar] at h
  split_ifs at h <;> simp only [List.mem_cons, List.not_mem_nil, or_false] at h
  · rw [h, UInt8.toNat_ofNat']
    omega
  · rcases h with rfl | rfl <;> rw [UInt8.toNat_ofNat'] at hb <;> omega
  · rcases h with rfl | rfl | rfl <;> rw [UInt8.toNat_ofNat'] at hb <;> omega
  · rcases h with rfl | rfl | rfl | rfl <;> rw [UInt8.toNat_ofNat'] at hb <;> omega

lemma not_mem_utf8EncodeChar {c : Char} (h : c ≠ '\r') :
    carriageReturn ∉ String.utf8EncodeChar c := by
  intro hmem
  have hval : c.val.toNat = 13 := eq_of_mem_utf8EncodeChar (by decide) hmem
  exact h (Char.ext (UInt32.toNat_inj.mp hval))

/-- Encoded text begins with the byte of a line feed exactly if it begins with a line feed. -/
lemma head?_utf8EncodeChar_append (c : Char) (bs : List UInt8) :
    (String.utf8EncodeChar c ++ bs).head? = some lineFeed ↔ c = '\n' := by
  constructor
  · intro h
    have hne : String.utf8EncodeChar c ≠ [] := List.length_pos_iff.mp (by
      rw [String.length_utf8EncodeChar]
      exact c.utf8Size_pos)
    rw [List.head?_append_of_ne_nil _ hne] at h
    have hval : c.val.toNat = 10 := eq_of_mem_utf8EncodeChar (by decide) (List.mem_of_head? h)
    exact Char.ext (UInt32.toNat_inj.mp hval)
  · rintro rfl
    rfl

lemma encode_ofList (cs : List Char) :
    encode (String.ofList cs) = cs.flatMap String.utf8EncodeChar := by
  rw [encode, String.toUTF8, String.toByteArray_ofList, List.utf8Encode]
  simp

/-- The ends of lines are the same whether they are taken from a text or from its bytes. -/
lemma lineFeeds_flatMap (cs : List Char) : lineFeeds (cs.flatMap String.utf8EncodeChar) =
    (Text.lineFeeds cs).flatMap String.utf8EncodeChar := by
  induction cs with
  | nil => rfl
  | cons c cs ih =>
    rw [List.flatMap_cons, Text.lineFeeds_cons]
    by_cases hc : c = '\r'
    · subst hc
      have hhead : (cs.flatMap String.utf8EncodeChar).head? = some lineFeed ↔
          cs.head? = some '\n' := by
        cases cs with
        | nil => simp
        | cons d ds =>
          rw [List.flatMap_cons, head?_utf8EncodeChar_append, List.head?_cons, Option.some.injEq]
      show lineFeeds (carriageReturn :: cs.flatMap String.utf8EncodeChar) = _
      rw [lineFeeds_carriageReturn, ih, if_neg (not_not.mpr rfl)]
      simp only [hhead]
      split_ifs <;> rfl
    · rw [lineFeeds_append (not_mem_utf8EncodeChar hc), ih, if_pos hc, List.flatMap_cons]

/-- The bytes of a text with line feeds as its line ends. -/
theorem encode_normalizeLines (s : String) :
    encode (Text.normalizeLines s) = lineFeeds (encode s) := by
  conv_rhs => rw [← String.ofList_toList (s := s)]
  rw [Text.normalizeLines, encode_ofList, encode_ofList, lineFeeds_flatMap]

/-- Bytes that are decoded are encoded to themselves. -/
lemma encode_of_decode {bs : List UInt8} {s : String} (h : decode bs = .ok s) : encode s = bs := by
  rw [decode, String.fromUTF8?] at h
  split_ifs at h
  cases h
  rfl

end Utf8

/-! ### Checked files -/

namespace RuleSet

open Compiled

variable {machine : Machine} {path : Path} {options : LoadOptions} {text : String}

/-- How a file is read whose hash is checked, or only recorded if none is expected. -/
def checked (v : Vocabulary) (expected : Option String) : LoadOptions where
  vocabulary := v
  verifyHash := true
  expectedHash := expected

/-- A file is not refused for its hash. -/
def PassesCheck [CharacterNames] (machine : Machine) (path : Path) (v : Vocabulary)
    (hash : String) : Prop :=
  ∀ expected actual, (load (m := StateM Machine) (checked v (some hash)) path machine).1.value ≠
    .error (.hashMismatch expected actual)

/-- A digest is that of a file: it is the only one that passes the check, and the one that is recorded
if the file is read. -/
structure HashedAs [CharacterNames] (machine : Machine) (path : Path) (digest : String) : Prop where
  passes_iff : ∀ v hash, hash ≠ "" → (PassesCheck machine path v hash ↔ hash = digest)
  recorded : ∀ v expected r,
    (load (m := StateM Machine) (checked v expected) path machine).1.value = .ok r →
      r.info.hash = some digest

/-- A text has the hash that is expected, if one is. -/
def MeetsExpectation (options : LoadOptions) (text : String) : Prop :=
  ∀ expected, options.expectedHash = some expected → expected = "" ∨ expected = textHash text

/-- A check is passed with the digest of the text, or it tells this digest. -/
lemma checkHash_cases (hverify : options.verifyHash = true) (text : String) :
    MeetsExpectation options text ∧ checkHash options text = .ok (some (textHash text)) ∨
      ¬ MeetsExpectation options text ∧
        ∃ expected, checkHash options text = .error (.hashMismatch expected (textHash text)) := by
  rw [checkHash, if_pos hverify]
  cases hexpected : options.expectedHash with
  | none => exact .inl ⟨by simp [MeetsExpectation, hexpected], rfl⟩
  | some expected =>
    have hmeets : MeetsExpectation options text ↔ (expected.isEmpty || expected = textHash text) := by
      simp [MeetsExpectation, hexpected]
    dsimp only
    split_ifs with h
    · exact .inl ⟨hmeets.mpr h, rfl⟩
    · exact .inr ⟨mt hmeets.mp h, expected, rfl⟩

lemma checkHash_checked {v : Vocabulary} {hash : String} (h : hash ≠ "") (text : String) :
    checkHash (checked v (some hash)) text =
      if hash = textHash text then .ok (some (textHash text))
      else .error (.hashMismatch hash (textHash text)) := by
  simp [checkHash, checked, h]

/-- A check that succeeds gives the hash of the text, whatever was expected. -/
lemma eq_of_checkHash {fileHash : Option String} (hverify : options.verifyHash = true)
    (h : checkHash options text = .ok fileHash) : fileHash = some (textHash text) := by
  rcases checkHash_cases hverify text with ⟨-, hcheck⟩ | ⟨-, expected, hcheck⟩
  · rw [hcheck] at h
    exact (Except.ok.inj h).symm
  · rw [hcheck] at h
    cases h

section

variable [CharacterNames]

/-- A text is refused for its hash before it is read as JSON, and only then. -/
lemma ofText_eq_hashMismatch {expected actual : String} :
    (ofText options path text).value = .error (.hashMismatch expected actual) ↔
      checkHash options text = .error (.hashMismatch expected actual) := by
  rw [value_ofText, bind_eq_error]
  refine or_iff_left ?_
  rintro ⟨fileHash, -, h⟩
  rcases bind_eq_error.mp h with h | ⟨table, -, h⟩
  · rw [readTable] at h
    split at h <;> cases h
  · obtain ⟨failure, -, h⟩ := mapError_eq_error.mp h
    cases h

/-- The digest that a rule set carries is that of the check. -/
lemma fileHash_of_ofText {r : RuleSet} (h : (ofText options path text).value = .ok r) :
    checkHash options text = .ok r.fileHash := by
  rw [value_ofText] at h
  obtain ⟨fileHash, hcheck, h⟩ := bind_eq_ok.mp h
  obtain ⟨table, -, h⟩ := bind_eq_ok.mp h
  obtain ⟨_, _, _, _, _, _, hhash⟩ := ofTable_eq_ok.mp (mapError_eq_ok.mp h)
  rw [hcheck, hhash]

/-- The digest of a file that holds a text is the hash of that text. -/
lemma hashedAs_of_textAt (htext : machine.textAt path = .ok text) :
    HashedAs machine path (textHash text) := by
  constructor
  · intro v hash hne
    simp only [PassesCheck, load_of_textAt _ htext, ne_eq, ofText_eq_hashMismatch,
      checkHash_checked hne]
    split_ifs with hhash
    · simp [hhash]
    · simp [hhash]
  · intro v expected r hload
    rw [load_of_textAt _ htext] at hload
    exact eq_of_checkHash rfl (fileHash_of_ofText hload)

/-- A file has one digest only. -/
lemma HashedAs.unique {digest digest' : String} (h : HashedAs machine path digest)
    (h' : HashedAs machine path digest') (hne : digest ≠ "") : digest = digest' :=
  (h'.passes_iff {} digest hne).mp ((h.passes_iff {} digest hne).mpr rfl)

end

lemma textAt_of_read {content : List UInt8} (hread : machine.files.read path = .ok content)
    (htext : Utf8.decode content = .ok text) :
    machine.textAt path = .ok (Text.normalizeLines text) := by
  rw [Machine.textAt, hread]
  dsimp only
  rw [Host.textOf, htext]
  rfl

/-- The digest of a file is that of its bytes after their line ends were made line feeds, and so that of
its bytes if none of them is a carriage return. -/
theorem hashedAs_iff [CharacterNames] {content : List UInt8}
    (hread : machine.files.read path = .ok content) (htext : Utf8.decode content = .ok text) :
    (∀ digest, HashedAs machine path digest ↔
      digest = Sha256.hexDigest (Utf8.lineFeeds content)) ∧
    (Utf8.carriageReturn ∉ content → HashedAs machine path (Sha256.hexDigest content)) := by
  have hhashed : HashedAs machine path (Sha256.hexDigest (Utf8.lineFeeds content)) := by
    have := hashedAs_of_textAt (textAt_of_read hread htext)
    rwa [textHash, Utf8.encode_normalizeLines, Utf8.encode_of_decode htext] at this
  refine ⟨fun digest => ⟨fun h => ?_, fun h => h ▸ hhashed⟩, fun hreturn => ?_⟩
  · exact (hhashed.unique h (Sha256.hexDigest_ne_empty _)).symm
  · rwa [Utf8.lineFeeds_eq_self_iff.mpr hreturn] at hhashed

/-- Two files that hold an empty table, one with a line feed at its end and one with a carriage return
before it. -/
def twoLineEnds : Machine where
  files := { entries := [
    (["feed.json"], .file [0x7b, 0x7d, 0x0a]),
    (["return.json"], .file [0x7b, 0x7d, 0x0d, 0x0a])] }

lemma read_twoLineEnds :
    twoLineEnds.files.read ⟨.slash, ["feed.json"]⟩ = .ok [0x7b, 0x7d, 0x0a] ∧
      twoLineEnds.files.read ⟨.slash, ["return.json"]⟩ = .ok [0x7b, 0x7d, 0x0d, 0x0a] :=
  ⟨rfl, rfl⟩

lemma decode_twoLineEnds :
    Utf8.decode [0x7b, 0x7d, 0x0a] = .ok "\x7b\x7d\n" ∧
      Utf8.decode [0x7b, 0x7d, 0x0d, 0x0a] = .ok "\x7b\x7d\r\n" :=
  ⟨Utf8.decode_encode "\x7b\x7d\n", Utf8.decode_encode "\x7b\x7d\r\n"⟩

theorem hashedAs_twoLineEnds :
    HashedAs twoLineEnds ⟨.slash, ["feed.json"]⟩ (Sha256.hexDigest [0x7b, 0x7d, 0x0a]) ∧
      ∀ digest, HashedAs twoLineEnds ⟨.slash, ["return.json"]⟩ digest ↔
        digest = Sha256.hexDigest [0x7b, 0x7d, 0x0a] :=
  ⟨(hashedAs_iff read_twoLineEnds.1 decode_twoLineEnds.1).2 (by decide),
    (hashedAs_iff read_twoLineEnds.2 decode_twoLineEnds.2).1⟩

/-- The file with a carriage return is refused if the digest of its bytes is expected. -/
theorem digest_refused :
    Sha256.hexDigest [0x7b, 0x7d, 0x0d, 0x0a] =
      "e3566b3a06430868d71e9287dfd6c6c520a3da027aabea01951d407ee131dc2f" ∧
    twoLineEnds.files.read ⟨.slash, ["return.json"]⟩ = .ok [0x7b, 0x7d, 0x0d, 0x0a] ∧
    (load (m := StateM Machine) (checked {}
      (some "e3566b3a06430868d71e9287dfd6c6c520a3da027aabea01951d407ee131dc2f"))
      ⟨.slash, ["return.json"]⟩ twoLineEnds).1.value = .error (.hashMismatch
        "e3566b3a06430868d71e9287dfd6c6c520a3da027aabea01951d407ee131dc2f"
        "ca3d163bab055381827226140568f3bef7eaac187cebd76878e0b63e9e442356") := by
  have hdigests : Sha256.hexDigest [0x7b, 0x7d, 0x0d, 0x0a] =
        "e3566b3a06430868d71e9287dfd6c6c520a3da027aabea01951d407ee131dc2f" ∧
      Sha256.hexDigest (Utf8.lineFeeds [0x7b, 0x7d, 0x0d, 0x0a]) =
        "ca3d163bab055381827226140568f3bef7eaac187cebd76878e0b63e9e442356" := by
    decide +kernel
  have htext := textAt_of_read read_twoLineEnds.2 decode_twoLineEnds.2
  refine ⟨hdigests.1, read_twoLineEnds.2, ?_⟩
  rw [load_of_textAt _ htext, ofText_eq_hashMismatch, checkHash_checked (by decide), textHash,
    Utf8.encode_normalizeLines, Utf8.encode_of_decode decode_twoLineEnds.2, hdigests.2,
    if_neg (by decide)]

end RuleSet

end UserAgent
