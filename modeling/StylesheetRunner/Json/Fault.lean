import StylesheetRunner.Text.Quoted
import StylesheetRunner.Text.Shortest

/-!
Faults of a data text: what is wrong, and how much of the text had been read when it was found.
-/

namespace StylesheetRunner.Json

inductive Found where
  | null
  | boolean (flag : Bool)
  | integer (number : Int)
  | real (number : Float)
  | text (characters : String)
  | sequence
  | map
deriving Repr

def Found.describe : Found → String
  | .null => "null"
  | .boolean flag => s!"boolean `{flag}`"
  | .integer number => s!"integer `{number}`"
  | .real number => "floating point `" ++ String.ofList (Text.floatText number) ++ "`"
  | .text characters => s!"string {Text.quoted characters}"
  | .sequence => "sequence"
  | .map => "map"

inductive Cause where
  | endInList
  | endInObject
  | endInText
  | endInValue
  | expectedColon
  | expectedListSeparator
  | expectedObjectSeparator
  | expectedWord
  | expectedValue
  | invalidEscape
  | invalidNumber
  | numberOutOfRange
  | invalidUnicode
  | controlCharacter
  | keyNotText
  | loneSurrogate
  | unfinishedEscape
  | trailingComma
  | trailingCharacters
  | tooDeep
  | invalidType (found : Found) (expected : String)
  | invalidValue (found : Found) (expected : String)
  | invalidLength (length : Nat) (expected : String)
  | missingField (name : String)
  | duplicateField (name : String)
  | noVariant (union : String)
  | numeral (fault : Text.NumeralFault)
deriving Repr

def Cause.message : Cause → String
  | .endInList => "EOF while parsing a list"
  | .endInObject => "EOF while parsing an object"
  | .endInText => "EOF while parsing a string"
  | .endInValue => "EOF while parsing a value"
  | .expectedColon => "expected `:`"
  | .expectedListSeparator => "expected `,` or `]`"
  | .expectedObjectSeparator => "expected `,` or `\x7d`"
  | .expectedWord => "expected ident"
  | .expectedValue => "expected value"
  | .invalidEscape => "invalid escape"
  | .invalidNumber => "invalid number"
  | .numberOutOfRange => "number out of range"
  | .invalidUnicode => "invalid unicode code point"
  | .controlCharacter => "control character (\\u0000-\\u001F) found while parsing a string"
  | .keyNotText => "key must be a string"
  | .loneSurrogate => "lone leading surrogate in hex escape"
  | .unfinishedEscape => "unexpected end of hex escape"
  | .trailingComma => "trailing comma"
  | .trailingCharacters => "trailing characters"
  | .tooDeep => "recursion limit exceeded"
  | .invalidType found expected => s!"invalid type: {found.describe}, expected {expected}"
  | .invalidValue found expected => s!"invalid value: {found.describe}, expected {expected}"
  | .invalidLength length expected => s!"invalid length {length}, expected {expected}"
  | .missingField name => s!"missing field `{name}`"
  | .duplicateField name => s!"duplicate field `{name}`"
  | .noVariant union => s!"data did not match any variant of untagged enum {union}"
  | .numeral fault => fault.message

/-- A fault and the bytes that had not been read when it was found. A fault that is not placed yet
takes its place from the object or list that encloses it. -/
structure Fault where
  cause : Cause
  rest : List UInt8
  placed : Bool
deriving Repr

/-- A fault found before the given bytes. -/
def Fault.before (cause : Cause) (rest : List UInt8) : Fault := ⟨cause, rest, true⟩

def Fault.nextByte (cause : Cause) (rest : List UInt8) : Fault := ⟨cause, rest.drop 1, true⟩

def Fault.unplaced (cause : Cause) (rest : List UInt8) : Fault := ⟨cause, rest, false⟩

def Fault.placeBefore (fault : Fault) (rest : List UInt8) : Fault :=
  if fault.placed then fault else ⟨fault.cause, rest, true⟩

structure Location where
  line : Nat
  column : Nat
deriving DecidableEq, Repr

def Location.after (read : List UInt8) : Location :=
  read.foldl (fun location byte =>
    if byte = 0x0A then ⟨location.line + 1, 0⟩ else ⟨location.line, location.column + 1⟩) ⟨1, 0⟩

def Fault.message (fault : Fault) (text : List UInt8) : String :=
  let location := Location.after (text.take (text.length - fault.rest.length))
  s!"{fault.cause.message} at line {location.line} column {location.column}"

end StylesheetRunner.Json
