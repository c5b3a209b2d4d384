/-!
# The length of numerals

The text of an integer is converted only up to a certain number of digits.
-/

namespace UserAgent

/-- The most digits that the text of an integer may have. -/
def maxNumeralDigits : Nat := 4300

/-- The words for the text of an integer that is too long. -/
def numeralLimitMessage (count : Nat) : String :=
  "Exceeds the limit (" ++ toString maxNumeralDigits ++
    " digits) for integer string conversion: value has " ++ toString count ++
    " digits; use sys.set_int_max_str_digits() to increase the limit"

end UserAgent
