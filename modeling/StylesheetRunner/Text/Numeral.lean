/-!
Decimal numerals of bounded integers: an optional sign and one or more digits. Reading goes from
left to right and stops at the first character that makes the numeral malformed or too large.
-/

namespace StylesheetRunner.Text

inductive NumeralFault where
  | empty
  | invalidDigit
  | tooLarge
  | tooSmall
deriving DecidableEq, Repr

def NumeralFault.message : NumeralFault → String
  | .empty => "cannot parse integer from empty string"
  | .invalidDigit => "invalid digit found in string"
  | .tooLarge => "number too large to fit in target type"
  | .tooSmall => "number too small to fit in target type"

def digit? (character : Char) : Option Nat :=
  if '0' ≤ character ∧ character ≤ '9' then some (character.toNat - '0'.toNat) else none

def readDigits (limit : Nat) (excess : NumeralFault) : Nat → List Char → Except NumeralFault Nat
  | value, [] => .ok value
  | value, character :: rest =>
    match digit? character with
    | none => .error .invalidDigit
    | some digit =>
      if value * 10 + digit ≤ limit then readDigits limit excess (value * 10 + digit) rest
      else .error excess

/-- Reads a numeral of a natural number up to a limit; one plus sign may stand in front. -/
def readNatural (limit : Nat) : List Char → Except NumeralFault Nat
  | [] => .error .empty
  | ['+'] => .error .invalidDigit
  | '+' :: digits => readDigits limit .tooLarge 0 digits
  | digits => readDigits limit .tooLarge 0 digits

/-- Reads a numeral of an integer from `-(limit + 1)` to `limit`; one sign may stand in front. -/
def readInteger (limit : Nat) : List Char → Except NumeralFault Int
  | [] => .error .empty
  | ['+'] => .error .invalidDigit
  | ['-'] => .error .invalidDigit
  | '+' :: digits => (readDigits limit .tooLarge 0 digits).map Int.ofNat
  | '-' :: digits => (readDigits (limit + 1) .tooSmall 0 digits).map fun value => -Int.ofNat value
  | digits => (readDigits limit .tooLarge 0 digits).map Int.ofNat

def portLimit : Nat := 65535

def wordLimit : Nat := 18446744073709551615

def signedLimit : Nat := 9223372036854775807

def naturalText (value : Nat) : List Char :=
  Nat.toDigits 10 value

def integerText : Int → List Char
  | .ofNat value => naturalText value
  | .negSucc value => '-' :: naturalText (value + 1)

end StylesheetRunner.Text
