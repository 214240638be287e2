import EditPlayer.Text.Basic
set_option autoImplicit false

/-!
# Decimal numerals and machine words

Counts, positions and indices are natural numbers below `wordLimit`.  Arithmetic is done on natural
numbers; the few places where a result may leave that range test it against the limit.  A word read
as a signed number wraps around at half the limit (`signedWord`).
-/

namespace EditPlayer

/-- The number of values of a 64-bit word. -/
def wordLimit : Nat := 0x10000000000000000

/-- Half of the values of a word: those from here on are negative when read as signed. -/
def signLimit : Nat := 0x8000000000000000

/-- The signed reading of a word: values from `signLimit` on stand for negative numbers. -/
def signedWord (n : Nat) : Int :=
  if n < signLimit then (n : Int) else (n : Int) - (wordLimit : Int)

theorem signedWord_of_lt {n : Nat} (h : n < signLimit) : signedWord n = n := by
  rw [signedWord, if_pos h]

namespace Text

/-- The decimal numeral of a number, without leading zeros. -/
def decimal (n : Nat) : Text := Nat.toDigits 10 n

/-- The value of a run of decimal digits; other characters give no meaningful value. -/
def decimalValue (digits : Text) : Nat := Nat.ofDigitChars 10 digits 0

/-- The number that a non-empty run of decimal digits stands for, if it fits into a word. -/
def readWord? (digits : Text) : Option Nat :=
  if digits.isEmpty || !digits.all Char.isDigit then none
  else if decimalValue digits < wordLimit then some (decimalValue digits) else none

/-- A numeral has the value of its number. -/
@[simp] theorem decimalValue_decimal (n : Nat) : decimalValue (decimal n) = n :=
  Nat.ofDigitChars_toDigits (by decide) (by decide)

/-- A numeral has digits only. -/
theorem isDigit_of_mem_decimal {n : Nat} {c : Char} (h : c ∈ decimal n) : c.isDigit = true :=
  Nat.isDigit_of_mem_toDigits (by decide) (by decide) h

theorem decimal_ne_nil (n : Nat) : decimal n ≠ [] := Nat.toDigits_ne_nil

/-- A numeral within a word is read back. -/
theorem readWord?_decimal {n : Nat} (h : n < wordLimit) : readWord? (decimal n) = some n := by
  have hne : (decimal n).isEmpty = false := by
    simp [decimal]
  have hall : (decimal n).all Char.isDigit = true := by
    rw [List.all_eq_true]
    intro c hc
    exact isDigit_of_mem_decimal hc
  simp [readWord?, hne, hall, h]

end Text

end EditPlayer
