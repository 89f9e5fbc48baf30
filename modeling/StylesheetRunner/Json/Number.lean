import StylesheetRunner.Json.Scan

/-!
Numbers. A whole number within 64 bits stays exact; any other becomes a floating-point number from
its leading digits and a power of ten, and one beyond the largest is a fault.
-/

namespace StylesheetRunner.Json

inductive Number where
  | natural (value : Nat)
  | negative (value : Nat)
  | real (value : Float)
deriving Repr

def Number.found : Number → Found
  | .natural value => .integer value
  | .negative value => .integer (-value)
  | .real value => .real value

def digitValue (byte : UInt8) : Nat :=
  byte.toNat - 0x30

/-- Appends digits to a value as long as it stays within a limit; also tells how many it took. -/
def takeDigits (limit : Nat) : (value : Nat) → List UInt8 → Nat × Nat
  | value, [] => (value, 0)
  | value, digit :: digits =>
    let longer := value * 10 + digitValue digit
    if longer ≤ limit then
      let (final, count) := takeDigits limit longer digits
      (final, count + 1)
    else (value, 0)

/-- Divides by powers of ten that are too large to be numbers themselves, until nothing is left. -/
def divideDown (value : Float) : (power : Nat) → Float
  | power =>
    if power ≤ 308 then value / Float.ofScientific 1 false power
    else if value == 0.0 then value
    else divideDown (value / Float.ofScientific 1 false 308) (power - 308)
termination_by power => power

/-- The floating-point number of a significand and a power of ten, unless it is too large. -/
def realNumber? (significand : Nat) (power : Int) : Option Float :=
  let start := Float.ofNat significand
  if 0 ≤ power then
    if power.toNat ≤ 308 then
      let value := start * Float.ofScientific 1 false power.toNat
      if value.isInf then none else some value
    else if start == 0.0 then some start
    else none
  else some (divideDown start power.natAbs)

def finishReal (negative : Bool) (significand : Nat) (power : Int) (rest : List UInt8) :
    Scan Number :=
  match realNumber? significand power with
  | some value => .ok (.real (if negative then -value else value), rest)
  | none => .error (.before .numberOutOfRange rest)

def readExponent (negative : Bool) (significand : Nat) (power : Int) (bytes : List UInt8) :
    Scan Number :=
  let (downward, bytes) :=
    match bytes with
    | byte :: rest =>
      if byte = byteOf '+' then (false, rest)
      else if byte = byteOf '-' then (true, rest)
      else (false, bytes)
    | [] => (false, bytes)
  match bytes with
  | [] => .error (.before .endInValue [])
  | first :: rest =>
    if !isDigitByte first then .error (.before .invalidNumber rest)
    else
      let (digits, after) := bytes.span isDigitByte
      let (exponent, count) := takeDigits 2147483647 0 digits
      if count < digits.length then
        if significand ≠ 0 ∧ !downward then
          .error (.before .numberOutOfRange (bytes.drop (count + 1)))
        else .ok (.real (if negative then -0.0 else 0.0), after)
      else
        let power := if downward then power - exponent else power + exponent
        finishReal negative significand power after

def readPower (negative : Bool) (significand : Nat) (power : Int) (bytes : List UInt8) :
    Scan Number :=
  match bytes with
  | byte :: rest =>
    if byte = byteOf 'e' ∨ byte = byteOf 'E' then readExponent negative significand power rest
    else finishReal negative significand power bytes
  | [] => finishReal negative significand power bytes

def readDecimals (negative : Bool) (significand : Nat) (power : Int) (bytes : List UInt8) :
    Scan Number :=
  let (digits, after) := bytes.span isDigitByte
  if digits = [] then
    .error (if bytes = [] then .before .endInValue [] else .nextByte .invalidNumber bytes)
  else
    let (longer, count) := takeDigits Text.wordLimit significand digits
    readPower negative longer (power - count) after

def readNumber (negative : Bool) (bytes : List UInt8) : Scan Number :=
  match bytes with
  | [] => .error (.before .endInValue [])
  | first :: rest =>
    if !isDigitByte first then .error (.before .invalidNumber rest)
    else
      let (digits, after) := if first = byteOf '0' then ([first], rest) else bytes.span isDigitByte
      match after with
      | next :: _ =>
        if first = byteOf '0' && isDigitByte next then .error (.nextByte .invalidNumber after)
        else finishWhole digits after
      | [] => finishWhole digits after
where
  finishWhole (digits after : List UInt8) : Scan Number :=
    let (significand, count) := takeDigits Text.wordLimit 0 digits
    let power := digits.length - count
    match after with
    | byte :: rest =>
      if byte = byteOf '.' then readDecimals negative significand power rest
      else if byte = byteOf 'e' ∨ byte = byteOf 'E' then
        readExponent negative significand power rest
      else finishPlain significand power after
    | [] => finishPlain significand power after
  finishPlain (significand power : Nat) (after : List UInt8) : Scan Number :=
    if 0 < power then finishReal negative significand power after
    else if !negative then .ok (.natural significand, after)
    else if 0 < significand ∧ significand ≤ Text.signedLimit + 1 then
      .ok (.negative significand, after)
    else finishReal true significand 0 after

def skipExponent (bytes : List UInt8) : Except Fault (List UInt8) :=
  let bytes :=
    match bytes with
    | byte :: rest => if byte = byteOf '+' ∨ byte = byteOf '-' then rest else bytes
    | [] => bytes
  match bytes with
  | [] => .error (.before .invalidNumber [])
  | first :: rest =>
    if isDigitByte first then .ok (rest.dropWhile isDigitByte)
    else .error (.before .invalidNumber rest)

def skipPower (bytes : List UInt8) : Except Fault (List UInt8) :=
  match bytes with
  | byte :: rest =>
    if byte = byteOf 'e' ∨ byte = byteOf 'E' then skipExponent rest else .ok bytes
  | [] => .ok bytes

def skipDecimals (bytes : List UInt8) : Except Fault (List UInt8) :=
  match bytes with
  | byte :: rest =>
    if byte = byteOf '.' then
      match rest with
      | next :: _ =>
        if isDigitByte next then skipPower (rest.dropWhile isDigitByte)
        else .error (.nextByte .invalidNumber rest)
      | [] => .error (.before .invalidNumber [])
    else skipPower bytes
  | [] => .ok bytes

/-- Passes over a number whose minus sign, if any, has been read. Its size does not matter. -/
def skipNumber (bytes : List UInt8) : Except Fault (List UInt8) :=
  match bytes with
  | [] => .error (.before .invalidNumber [])
  | first :: rest =>
    if !isDigitByte first then .error (.before .invalidNumber rest)
    else if first = byteOf '0' then
      match rest with
      | next :: _ =>
        if isDigitByte next then .error (.nextByte .invalidNumber rest) else skipDecimals rest
      | [] => .ok []
    else skipDecimals (rest.dropWhile isDigitByte)

end StylesheetRunner.Json
