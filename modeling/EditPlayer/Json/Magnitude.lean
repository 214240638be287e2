import EditPlayer.Text.Decimal
set_option autoImplicit false

/-!
# The magnitude of a numeral

A numeral is weighed as a significand times a power of ten.  The significand takes digits as long
as it fits into a word; the digits of the whole part that are left over raise the power, and those
of the fraction are dropped.

Significand and power are each rounded to a number with 53 significant bits, and the numeral is
finite if their product is below the point from which 64-bit floating-point numbers overflow.
-/

namespace EditPlayer

/-- The magnitude `significand * 10 ^ exponent`. -/
structure Magnitude where
  significand : Nat
  exponent : Int
  deriving DecidableEq, Repr, Inhabited

namespace Magnitude

/-- Appends digits to a significand as long as it fits into a word, and returns the digits that are
left over. -/
def absorb (significand : Nat) : Text → Nat × Text
  | [] => (significand, [])
  | digit :: rest =>
      let longer := significand * 10 + (digit.toNat - '0'.toNat)
      if longer < wordLimit then absorb longer rest else (significand, digit :: rest)

/-- The magnitude of whole digits, the digits of a fraction, and a power of ten that is written
behind them. -/
def ofParts (whole fraction : Text) (exponent : Int) : Magnitude :=
  let (significand, raised) := absorb 0 whole
  let (significand, dropped) := absorb significand fraction
  { significand
    exponent := (raised.length : Int) + dropped.length - fraction.length + exponent }

/-- The power of ten that is written behind a letter, or zero if nothing is written. -/
def writtenExponent : Text → Int
  | [] => 0
  | _ :: '-' :: digits => -(Text.decimalValue digits : Int)
  | _ :: '+' :: digits => Text.decimalValue digits
  | _ :: digits => Text.decimalValue digits

/-- The magnitude of a numeral, whatever its sign. -/
def ofNumeral (numeral : Text) : Magnitude :=
  let unsigned := if numeral.head? = some '-' then numeral.tail else numeral
  let whole := unsigned.takeWhile Char.isDigit
  match unsigned.dropWhile Char.isDigit with
  | '.' :: rest =>
      ofParts whole (rest.takeWhile Char.isDigit) (writtenExponent (rest.dropWhile Char.isDigit))
  | rest => ofParts whole [] (writtenExponent rest)

/-- The nearest number with 53 significant bits; of two that are equally near, the one whose last
bit is zero. -/
def round (n : Nat) : Nat :=
  let unit := Nat.pow 2 (n.log2 - 52)
  let excess := 2 * (n % unit)
  if unit < excess ∨ (excess = unit ∧ n / unit % 2 = 1) then (n / unit + 1) * unit
  else n / unit * unit

/-- The least number that overflows: half a unit of the last place above the largest floating-point
number. -/
def overflow : Nat := Nat.pow 2 1024 - Nat.pow 2 970

/-- The largest power of ten that does not overflow by itself. -/
def largestPower : Int := 308

/-- Whether a magnitude has a floating-point number. -/
def isFinite (magnitude : Magnitude) : Bool :=
  magnitude.significand == 0 || decide (magnitude.exponent < 0) ||
    (decide (magnitude.exponent ≤ largestPower) &&
      decide (round magnitude.significand * round (Nat.pow 10 magnitude.exponent.toNat) < overflow))

end Magnitude

end EditPlayer
