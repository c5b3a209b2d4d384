import UserAgent.Decimal.Shortest

/-!
# Decimal text

Numbers as text: shortest digits for values, a fixed number of places for measurements.
-/

namespace UserAgent

/-! ### Digits -/

/-- The decimal digits of a natural number, most significant first. -/
def digitChars (n : Nat) : List Char :=
  Nat.toDigits 10 n

/-- Fill up with zeros on the left. -/
def padZeros (width : Nat) (cs : List Char) : List Char :=
  List.replicate (width - cs.length) '0' ++ cs

/-- Remove the zeros at the end of the digits of a decimal. -/
def Decimal.significant (d : Decimal) : List Char :=
  ((digitChars d.digits).reverse.dropWhile (· == '0')).reverse

/-! ### Shortest text -/

/-- How the value of a number is written: positional where the point lies more than `leading` places
left of the first digit and at most `whole` places right of it, else with a power of ten. -/
structure NumberFormat where
  leading : Int
  whole : Int
  exponentDigits : Nat

/-- Values keep a digit on both sides of the point; sixteen digits before the point are the most and
four places after it the deepest start that are written positionally. -/
def NumberFormat.value : NumberFormat := ⟨-4, 16, 2⟩

/-- The text of the digits `ds`, read as a fraction after the point, times `10 ^ point`. -/
def NumberFormat.place (f : NumberFormat) (ds : List Char) (point : Int) : List Char :=
  if f.leading < point && point ≤ f.whole then
    if point ≤ 0 then '0' :: '.' :: List.replicate (-point).toNat '0' ++ ds
    else
      let whole := point.toNat
      let fraction := ds.drop whole
      ds.take whole ++ List.replicate (whole - ds.length) '0' ++
        '.' :: (if fraction.isEmpty then ['0'] else fraction)
  else
    let exponent := point - 1
    let fraction := ds.drop 1
    ds.take 1 ++ (if fraction.isEmpty then [] else '.' :: fraction) ++
      'e' :: (if exponent < 0 then '-' else '+') ::
        padZeros f.exponentDigits (digitChars exponent.natAbs)

namespace Binary64

/-- The digits and the place of the point of a finite number. -/
def unsignedChars (x : Binary64) : List Char :=
  if x.isZero then "0.0".toList
  else
    let d := Decimal.shortest x
    NumberFormat.value.place d.significant (d.power + (digitChars d.digits).length)

/-- The sign of a number as text. -/
def signChars (x : Binary64) : List Char :=
  if x.isNegative then ['-'] else []

/-- The shortest text of a number that reads back as the number. -/
def toText (x : Binary64) : String :=
  if x.isNaN then "nan"
  else if x.isInfinite then String.ofList (x.signChars ++ "inf".toList)
  else String.ofList (x.signChars ++ x.unsignedChars)

/-! ### Fixed places -/

/-- The text of a number with the given positive number of places, a half going to the even
neighbour. -/
def toFixed (places : Nat) (x : Binary64) : String :=
  if x.isNaN then "nan"
  else if x.isInfinite then String.ofList (x.signChars ++ "inf".toList)
  else
    let units := roundDiv (x.mantissa * Nat.pow 10 places * Nat.pow 2 x.exponent.toNat)
      (Nat.pow 2 (-x.exponent).toNat)
    let scale := Nat.pow 10 places
    String.ofList (x.signChars ++ digitChars (units / scale) ++
      '.' :: padZeros places (digitChars (units % scale)))

end Binary64

end UserAgent
