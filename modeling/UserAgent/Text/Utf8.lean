import UserAgent.Text.Quoted

/-!
# UTF-8

The text that bytes stand for. Bytes that are no text are refused, with the place of the first ones
that are not in order.
-/

namespace UserAgent.Utf8

/-! ### Faults -/

/-- What is wrong with a sequence of bytes. -/
inductive Reason where
  | invalidStart
  | invalidContinuation
  | unexpectedEnd
deriving DecidableEq, Repr

/-- The words for what is wrong. -/
def Reason.message : Reason → String
  | invalidStart => "invalid start byte"
  | invalidContinuation => "invalid continuation byte"
  | unexpectedEnd => "unexpected end of data"

/-- The bytes that are not in order: the first of them, the place of it, and their number. -/
structure Fault where
  lead : UInt8
  start : Nat
  count : Nat
  reason : Reason
deriving DecidableEq, Repr

/-- The words for a fault. -/
def Fault.message (f : Fault) : String :=
  if f.count = 1 then
    "'utf-8' codec can't decode byte 0x" ++ String.ofList (Text.hexDigits 2 f.lead.toNat) ++
      " in position " ++ toString f.start ++ ": " ++ f.reason.message
  else
    "'utf-8' codec can't decode bytes in position " ++ toString f.start ++ "-" ++
      toString (f.start + f.count - 1) ++ ": " ++ f.reason.message

/-! ### Sequences -/

/-- Whether a byte may follow in a sequence. -/
def isContinuation (b : UInt8) : Bool :=
  0x80 ≤ b && b < 0xc0

/-- The number of bytes that follow a first byte. -/
def following? (lead : UInt8) : Option Nat :=
  if lead < 0x80 then some 0
  else if lead < 0xc2 then none
  else if lead < 0xe0 then some 1
  else if lead < 0xf0 then some 2
  else if lead < 0xf5 then some 3
  else none

/-- Whether a byte may be the second one of a sequence: surrogates, values beyond the last code point
and values with a shorter form are excluded. -/
def isSecond (lead b : UInt8) : Bool :=
  isContinuation b &&
    !(lead == 0xe0 && b < 0xa0) && !(lead == 0xed && 0xa0 ≤ b) &&
    !(lead == 0xf0 && b < 0x90) && !(lead == 0xf4 && 0x90 ≤ b)

/-- Read the bytes that follow: the rest, or the number of bytes in order and what is wrong. -/
def spanSequence (lead : UInt8) :
    (wanted seen : Nat) → List UInt8 → Except (Nat × Reason) (List UInt8)
  | 0, _, bs => .ok bs
  | _ + 1, seen, [] => .error (seen, .unexpectedEnd)
  | wanted + 1, seen, b :: bs =>
    if if seen = 1 then isSecond lead b else isContinuation b then
      spanSequence lead wanted (seen + 1) bs
    else .error (seen, .invalidContinuation)

/-- The first fault of at most `fuel` sequences that begin at `start`. -/
def fault? : (fuel : Nat) → (start : Nat) → List UInt8 → Option Fault
  | 0, _, _ => none
  | _ + 1, _, [] => none
  | fuel + 1, start, lead :: bs =>
    match following? lead with
    | none => some ⟨lead, start, 1, .invalidStart⟩
    | some wanted =>
      match spanSequence lead wanted 1 bs with
      | .ok rest => fault? fuel (start + 1 + wanted) rest
      | .error (count, reason) => some ⟨lead, start, count, reason⟩

/-! ### Decoding -/

/-- The text of bytes. -/
def decode (bs : List UInt8) : Except Fault String :=
  match String.fromUTF8? ⟨bs.toArray⟩ with
  | some s => .ok s
  | none => .error ((fault? bs.length 0 bs).getD ⟨0, 0, 1, .invalidStart⟩)

/-- The bytes of a text. -/
def encode (s : String) : List UInt8 :=
  s.toUTF8.data.toList

end UserAgent.Utf8
