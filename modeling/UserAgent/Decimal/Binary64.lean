/-!
# Floating-point numbers

A `Binary64` is a double-precision number, kept as its sixty-four bits. A finite number is
`mantissa * 2 ^ exponent` up to its sign, with both parts exact, so that reading and writing decimal
text is arithmetic on natural numbers.
-/

namespace UserAgent

/-- A double-precision floating-point number, given by its bits. -/
structure Binary64 where
  bits : UInt64
deriving DecidableEq, Repr, Inhabited

namespace Binary64

/-- The bit that marks a negative number. -/
def signBit : Nat := Nat.pow 2 63

/-- The bits of positive infinity, the least ones that hold no finite number. -/
def infinityBits : Nat := 0x7ff * Nat.pow 2 52

/-- The number with the given sign and the given bits below the sign. -/
def ofParts (negative : Bool) (magnitude : Nat) : Binary64 :=
  ⟨UInt64.ofNat (if negative then signBit + magnitude else magnitude)⟩

/-- Positive or negative infinity. -/
def infinity (negative : Bool) : Binary64 := ofParts negative infinityBits

/-- The value that is not a number. -/
def nan : Binary64 := ofParts false (infinityBits + Nat.pow 2 51)

/-- Whether the sign bit is set. -/
def isNegative (x : Binary64) : Bool := signBit ≤ x.bits.toNat

/-- The bits below the sign. -/
def magnitude (x : Binary64) : Nat := x.bits.toNat % signBit

/-- Whether the value is infinite. -/
def isInfinite (x : Binary64) : Bool := x.magnitude == infinityBits

/-- Whether the value is not a number. -/
def isNaN (x : Binary64) : Bool := infinityBits < x.magnitude

/-- Whether the value is positive or negative zero. -/
def isZero (x : Binary64) : Bool := x.magnitude == 0

/-- The binary exponent of a finite number. -/
def exponent (x : Binary64) : Int :=
  (max (x.magnitude / Nat.pow 2 52) 1 : Nat) - 1075

/-- The integer that the power of two is multiplied with in a finite number. -/
def mantissa (x : Binary64) : Nat :=
  if x.magnitude < Nat.pow 2 52 then x.magnitude else x.magnitude % Nat.pow 2 52 + Nat.pow 2 52

/-! ### Rounding -/

/-- The quotient rounded to the nearest integer, a half to the even neighbour. -/
def roundDiv (num den : Nat) : Nat :=
  let quotient := num / den
  let twice := 2 * (num % den)
  if den < twice || (den == twice && quotient % 2 == 1) then quotient + 1 else quotient

/-- The greatest `k` with `2 ^ k ≤ num / den`, for positive arguments. -/
def log2Quotient (num den : Nat) : Int :=
  let k : Int := num.log2 - den.log2
  let reaches := if 0 ≤ k then den * Nat.pow 2 k.toNat ≤ num else den ≤ num * Nat.pow 2 (-k).toNat
  if reaches then k else k - 1

/-- The number nearest to `num / den`, a tie going to the even mantissa and an overflow to
infinity. -/
def ofQuotient (negative : Bool) (num den : Nat) : Binary64 :=
  if num == 0 then ofParts negative 0
  else
    let exponent := max (log2Quotient num den - 52) (-1074)
    let mantissa :=
      if 0 ≤ exponent then roundDiv num (den * Nat.pow 2 exponent.toNat)
      else roundDiv (num * Nat.pow 2 (-exponent).toNat) den
    -- A mantissa of `2 ^ 53` carries into the exponent by itself.
    let magnitude := (exponent + 1074).toNat * Nat.pow 2 52 + mantissa
    if infinityBits ≤ magnitude then infinity negative else ofParts negative magnitude

/-- The number nearest to `digits * 10 ^ power`. Powers far outside the range are cut off, as they
give infinity or zero whatever the digits. -/
def ofDecimal (negative : Bool) (digits : Nat) (power : Int) : Binary64 :=
  if digits == 0 then ofParts negative 0
  else if 400 < power then infinity negative
  else if power + (digits.log2 : Int) < -1100 then ofParts negative 0
  else if 0 ≤ power then ofQuotient negative (digits * Nat.pow 10 power.toNat) 1
  else ofQuotient negative digits (Nat.pow 10 (-power).toNat)

/-- The number nearest to an integer. -/
def ofInt (i : Int) : Binary64 :=
  ofQuotient (i < 0) i.natAbs 1

end Binary64

end UserAgent
