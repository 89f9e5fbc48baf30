import StylesheetRunner.Text.Numeral

/-!
The shortest decimal text of a binary floating-point number: the fewest digits that read back as
the number, and of those the nearest to it.
-/

namespace StylesheetRunner.Text

namespace Shortest

structure Interval where
  least : Nat
  value : Nat
  greatest : Nat
  denominator : Nat
  closed : Bool
deriving DecidableEq, Repr

/-- The interval of the positive number `mantissa * 2 ^ (shift - 1074)`; the gap below the least
mantissa of a binade is half the gap above. -/
def Interval.ofParts (mantissa shift : Nat) : Interval :=
  let narrow := mantissa = Nat.pow 2 52 ∧ 0 < shift
  let scale := Nat.pow 2 shift
  { least := (4 * mantissa - if narrow then 1 else 2) * scale
    value := 4 * mantissa * scale
    greatest := (4 * mantissa + 2) * scale
    denominator := Nat.pow 2 1076
    closed := mantissa % 2 = 0 }

def Interval.holds (interval : Interval) (numerator denominator : Nat) : Bool :=
  let inner := numerator * interval.denominator
  let low := interval.least * denominator
  let high := interval.greatest * denominator
  if interval.closed then low ≤ inner && inner ≤ high else low < inner && inner < high

/-- A number times a power of ten, the power given by two natural exponents of which one is zero. -/
def scaled (number raised lowered : Nat) : Nat × Nat :=
  (number * Nat.pow 10 raised, Nat.pow 10 lowered)

def stepsToOne (numerator denominator : Nat) : (steps bound : Nat) → Nat
  | steps, 0 => steps
  | steps, bound + 1 =>
    if denominator ≤ numerator * Nat.pow 10 steps then steps
    else stepsToOne numerator denominator (steps + 1) bound

def firstPower (numerator denominator : Nat) : Int :=
  if denominator ≤ numerator then ((Nat.toDigits 10 (numerator / denominator)).length : Int) - 1
  else -(stepsToOne numerator denominator 0 400 : Int)

def onGrid? (interval : Interval) (power : Int) : Option Nat :=
  let raised := power.toNat
  let lowered := (-power).toNat
  let floor := interval.value * Nat.pow 10 lowered / (interval.denominator * Nat.pow 10 raised)
  let fits (number : Nat) : Bool :=
    let (numerator, denominator) := scaled number raised lowered
    interval.holds numerator denominator
  let nearerAbove : Bool :=
    interval.denominator * Nat.pow 10 raised * (2 * floor + 1) <
      2 * interval.value * Nat.pow 10 lowered
  if fits floor && fits (floor + 1) then some (if nearerAbove then floor + 1 else floor)
  else if fits floor then some floor
  else if fits (floor + 1) then some (floor + 1)
  else none

def search (interval : Interval) (power : Int) : Nat → Nat × Int
  | 0 =>
    let scaled := interval.value * Nat.pow 10 (-power).toNat
    (scaled / (interval.denominator * Nat.pow 10 power.toNat), power)
  | bound + 1 =>
    match onGrid? interval power with
    | some number => if number = 0 then search interval (power - 1) bound else (number, power)
    | none => search interval (power - 1) bound

def withoutFinalZeros (digits : List Char) : List Char :=
  (digits.reverse.dropWhile (· = '0')).reverse

def digits (mantissa shift : Nat) : List Char × Int :=
  let interval := Interval.ofParts mantissa shift
  let first := firstPower interval.value interval.denominator
  let (number, power) := search interval first 18
  let written := naturalText number
  (withoutFinalZeros written, power + (written.length : Int) - 1)

/-- Digits with the point where the power says: positional from five zeros behind the point up to
sixteen digits before it, scientific beyond. -/
def render (digits : List Char) (first : Int) : List Char :=
  if first < -5 ∨ 15 < first then
    let (lead, rest) := digits.splitAt 1
    let mark := if first < 0 then '-' else '+'
    let power := naturalText first.natAbs
    let padded := if power.length < 2 then '0' :: power else power
    lead ++ (if rest = [] then [] else '.' :: rest) ++ 'e' :: mark :: padded
  else if first < 0 then
    '0' :: '.' :: List.replicate (first.natAbs - 1) '0' ++ digits
  else
    let whole := first.toNat + 1
    if digits.length ≤ whole then
      digits ++ List.replicate (whole - digits.length) '0' ++ ['.', '0']
    else digits.take whole ++ '.' :: digits.drop whole

end Shortest

def floatText (number : Float) : List Char :=
  let bits := number.toBits.toNat
  let sign : List Char := if Nat.pow 2 63 ≤ bits then ['-'] else []
  let exponent := bits / Nat.pow 2 52 % Nat.pow 2 11
  let fraction := bits % Nat.pow 2 52
  if exponent = 0 ∧ fraction = 0 then sign ++ ['0', '.', '0']
  else
    let mantissa := if exponent = 0 then fraction else fraction + Nat.pow 2 52
    let (digits, first) := Shortest.digits mantissa (exponent - 1)
    sign ++ Shortest.render digits first

end StylesheetRunner.Text
