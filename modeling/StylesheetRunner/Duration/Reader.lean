import StylesheetRunner.Duration
import StylesheetRunner.Text.Blank
import StylesheetRunner.Text.Numeral
import StylesheetRunner.Text.Quoted
import StylesheetRunner.Text.Utf8

/-!
Written durations: numbers with an optional decimal fraction, each followed by a unit, one after
another and summed. Blanks between digits count for nothing. A fraction is exact: it must come to a
whole number of nanoseconds for units up to the minute and of seconds above.
-/

namespace StylesheetRunner.Duration

inductive TimeUnit where
  | nanosecond
  | microsecond
  | millisecond
  | second
  | minute
  | hour
  | day
  | week
  | month
  | year
deriving DecidableEq, Repr

def TimeUnit.spellings : List (TimeUnit × List String) :=
  [(.nanosecond, ["nanos", "nsec", "ns"]),
    (.microsecond, ["usec", "us", "µs"]),
    (.millisecond, ["millis", "msec", "ms"]),
    (.second, ["seconds", "second", "secs", "sec", "s"]),
    (.minute, ["minutes", "minute", "min", "mins", "m"]),
    (.hour, ["hours", "hour", "hr", "hrs", "h"]),
    (.day, ["days", "day", "d"]),
    (.week, ["weeks", "week", "wk", "wks", "w"]),
    (.month, ["months", "month", "M"]),
    (.year, ["years", "year", "yr", "yrs", "y"])]

def TimeUnit.ofSpelling? (spelling : String) : Option TimeUnit :=
  (TimeUnit.spellings.find? fun entry => entry.2.contains spelling).map Prod.fst

/-- The size of a unit, in nanoseconds up to the millisecond and in seconds above. -/
def TimeUnit.size : TimeUnit → Nat
  | .nanosecond => 1
  | .microsecond => 1000
  | .millisecond => 1000000
  | .second => 1
  | .minute => 60
  | .hour => 3600
  | .day => 86400
  | .week => 604800
  | .month => 2630016
  | .year => 31557600

/-- Why a text is no duration. Places are byte offsets. -/
inductive ReadFault where
  | empty
  | numberExpected (place : Nat)
  | invalidCharacter (place : Nat)
  | unitNeeded (number : Nat)
  | unknownUnit (spelling : String)
  | unrepresentable
deriving DecidableEq, Repr

def ReadFault.message : ReadFault → String
  | .empty => "value was empty"
  | .numberExpected place => s!"expected number at {place}"
  | .invalidCharacter place => s!"invalid character at {place}"
  | .unitNeeded number => s!"time unit needed, for example {number}sec or {number}ms"
  | .unknownUnit spelling =>
    s!"unknown time unit {Text.quoted spelling}, supported units: ns, us/µs, ms, sec, min, hours, " ++
      "days, weeks, months, years (and few variations)"
  | .unrepresentable =>
    "number is too large or cannot be represented without a lack of precision " ++
      "(values below 1ns are not supported)"

structure Fraction where
  numerator : Nat
  denominator : Nat
deriving DecidableEq, Repr

def withinWord (value : Nat) : Except ReadFault Nat :=
  if value ≤ Text.wordLimit then .ok value else .error .unrepresentable

def exactly (value divisor : Nat) : Except ReadFault Nat :=
  if value % divisor = 0 then .ok (value / divisor) else .error .unrepresentable

def lengthen (span : Duration) (seconds nanoseconds : Nat) : Except ReadFault Duration := do
  let small ← withinWord (span.subsecondNanoseconds + nanoseconds)
  let whole ← withinWord (span.seconds + seconds + small / 1000000000)
  pure (ofParts whole (small % 1000000000))

def lengthenWhole (span : Duration) (unit : TimeUnit) (number : Nat) :
    Except ReadFault Duration := do
  let size ← withinWord (number * unit.size)
  match unit with
  | .nanosecond | .microsecond | .millisecond => span.lengthen 0 size
  | _ => span.lengthen size 0

def lengthenFraction (span : Duration) (unit : TimeUnit) (fraction : Fraction) :
    Except ReadFault Duration :=
  let small (size : Nat) := do
    let scaled ← withinWord (fraction.numerator * size)
    let part ← exactly scaled fraction.denominator
    span.lengthen 0 part
  match unit with
  | .nanosecond => .error .unrepresentable
  | .microsecond => small 1000
  | .millisecond => small 1000000
  | .second => small 1000000000
  | .minute => small 60000000000
  | _ => do
    let scaled ← withinWord (fraction.numerator * unit.size)
    let part ← exactly scaled fraction.denominator
    span.lengthen part 0

/-- A span lengthened by a number and an optional fraction of the unit with a given spelling. -/
def lengthenSpelled (span : Duration) (number : Nat) (fraction : Option Fraction)
    (letters : List Char) : Except ReadFault Duration :=
  let spelling := String.ofList letters
  match TimeUnit.ofSpelling? spelling with
  | none => .error (if letters = [] then .unitNeeded number else .unknownUnit spelling)
  | some unit => do
    let whole ← span.lengthenWhole unit number
    match fraction with
    | none => pure whole
    | some part => whole.lengthenFraction unit part

/-- Where a reader stands in the text. Letters of a unit are held newest first. -/
inductive Stage where
  /-- Before a number; the place is where the blanks before it begin. -/
  | before (place : Nat) (anyRead : Bool)
  | inNumber (number : Nat)
  /-- Behind the decimal point; the place is the one to blame if the next character is wrong. -/
  | inFraction (number : Nat) (fraction : Fraction) (place : Nat)
  | inUnit (number : Nat) (fraction : Option Fraction) (letters : List Char)
deriving DecidableEq, Repr

def isUnitLetter (character : Char) : Bool :=
  character.isAlpha || character = 'µ'

def finishReading (span : Duration) : Stage → Except ReadFault Duration
  | .before _ anyRead => if anyRead then .ok span else .error .empty
  | .inNumber number => .error (.unitNeeded number)
  | .inFraction number fraction place =>
    .error (if fraction.denominator = 1 then .invalidCharacter place else .unitNeeded number)
  | .inUnit number fraction letters => span.lengthenSpelled number fraction letters.reverse

/-- One character of a duration: the span so far and the stage after it. -/
def readCharacter (span : Duration) (place next : Nat) (character : Char) :
    Stage → Except ReadFault (Duration × Stage)
  | .before blanks anyRead =>
    match Text.digit? character with
    | some digit => .ok (span, .inNumber digit)
    | none =>
      if Text.isBlank character then .ok (span, .before blanks anyRead)
      else .error (.numberExpected blanks)
  | .inNumber number =>
    match Text.digit? character with
    | some digit => do
      let longer ← withinWord (number * 10 + digit)
      pure (span, .inNumber longer)
    | none =>
      if Text.isBlank character then .ok (span, .inNumber number)
      else if isUnitLetter character then .ok (span, .inUnit number none [character])
      else if character = '.' then .ok (span, .inFraction number ⟨0, 1⟩ place)
      else .error (.invalidCharacter place)
  | .inFraction number fraction blamed =>
    match Text.digit? character with
    | some digit => do
      let denominator ← withinWord (fraction.denominator * 10)
      let numerator ← withinWord (fraction.numerator * 10 + digit)
      pure (span, .inFraction number ⟨numerator, denominator⟩ next)
    | none =>
      if Text.isBlank character then .ok (span, .inFraction number fraction next)
      else if isUnitLetter character ∧ fraction.denominator ≠ 1 then
        .ok (span, .inUnit number (some fraction) [character])
      else .error (.invalidCharacter blamed)
  | .inUnit number fraction letters =>
    match Text.digit? character with
    | some digit => do
      let longer ← span.lengthenSpelled number fraction letters.reverse
      pure (longer, .inNumber digit)
    | none =>
      if Text.isBlank character then do
        let longer ← span.lengthenSpelled number fraction letters.reverse
        pure (longer, .before next true)
      else if isUnitLetter character then .ok (span, .inUnit number fraction (character :: letters))
      else .error (.invalidCharacter place)

def readFrom (place : Nat) (span : Duration) (stage : Stage) :
    List Char → Except ReadFault Duration
  | [] => finishReading span stage
  | character :: rest =>
    let next := place + (Text.Utf8.encodeCharacter character).length
    match readCharacter span place next character stage with
    | .error fault => .error fault
    | .ok (longer, after) => readFrom next longer after rest

/-- Reads a duration. A lone zero needs no unit. -/
def read (text : String) : Except ReadFault Duration :=
  if text = "0" then .ok ⟨0⟩ else readFrom 0 ⟨0⟩ (.before 0 false) text.toList

end StylesheetRunner.Duration
