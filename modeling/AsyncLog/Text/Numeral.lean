/-!
# Decimal numerals

Unsigned numbers below a limit, written as an optional plus sign and ASCII
digits.  The first character that makes the text unreadable decides which
failure is reported, so a number that outgrows the limit hides whatever stands
after that digit.
-/

namespace AsyncLog.Text

inductive NumeralError where
  | empty
  | invalidDigit
  | tooLarge
  deriving DecidableEq, Repr

def NumeralError.message : NumeralError -> String
  | .empty => "cannot parse integer from empty string"
  | .invalidDigit => "invalid digit found in string"
  | .tooLarge => "number too large to fit in target type"

def digitValue? (c : Char) : Option Nat :=
  if c.isDigit then some (c.toNat - '0'.toNat) else none

def readDigits (limit : Nat) : Nat -> List Char -> Except NumeralError Nat
  | value, [] => .ok value
  | value, c :: rest =>
      match digitValue? c with
      | none => .error .invalidDigit
      | some digit =>
          if value * 10 + digit < limit then readDigits limit (value * 10 + digit) rest
          else .error .tooLarge

/-- Read a number below `limit`; a sign alone is no number. -/
def readNumeral (limit : Nat) : List Char -> Except NumeralError Nat
  | [] => .error .empty
  | ['+'] => .error .invalidDigit
  | '+' :: rest => readDigits limit 0 rest
  | text => readDigits limit 0 text

end AsyncLog.Text
