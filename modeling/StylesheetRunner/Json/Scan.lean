import StylesheetRunner.Json.Fault
import StylesheetRunner.Text.Utf8

/-!
Scanning of blanks, words, texts and numbers. A scanner takes the bytes to be read and returns what
it read with the bytes after it.
-/

namespace StylesheetRunner.Json

/-- What a scanner gives: a result and the bytes after it, or a fault. -/
abbrev Scan (α : Type) := Except Fault (α × List UInt8)

abbrev byteOf (character : Char) : UInt8 := character.toUInt8

def isBlankByte (byte : UInt8) : Bool :=
  byte = byteOf ' ' || byte = byteOf '\n' || byte = byteOf '\t' || byte = byteOf '\r'

def skipBlanks (bytes : List UInt8) : List UInt8 :=
  bytes.dropWhile isBlankByte

def isDigitByte (byte : UInt8) : Bool :=
  byteOf '0' ≤ byte && byte ≤ byteOf '9'

def readWord : (expected : List Char) → List UInt8 → Except Fault (List UInt8)
  | [], bytes => .ok bytes
  | _ :: _, [] => .error (.before .endInValue [])
  | character :: expected, byte :: bytes =>
    if byte = byteOf character then readWord expected bytes
    else .error (.before .expectedWord bytes)

def hexDigit? (byte : UInt8) : Option Nat :=
  let point := byte.toNat
  if 0x30 ≤ point ∧ point ≤ 0x39 then some (point - 0x30)
  else if 0x41 ≤ point ∧ point ≤ 0x46 then some (point - 0x37)
  else if 0x61 ≤ point ∧ point ≤ 0x66 then some (point - 0x57)
  else none

def simpleEscape? (byte : UInt8) : Option Char :=
  if byte = byteOf '"' then some '"'
  else if byte = byteOf '\\' then some '\\'
  else if byte = byteOf '/' then some '/'
  else if byte = byteOf 'b' then some '\x08'
  else if byte = byteOf 'f' then some '\x0c'
  else if byte = byteOf 'n' then some '\n'
  else if byte = byteOf 'r' then some '\r'
  else if byte = byteOf 't' then some '\t'
  else none

inductive TextStage where
  | plain
  | afterBackslash
  | inHex (lead : Option Nat) (count value : Nat) (wellFormed : Bool)
  /-- Behind the first half of a pair. -/
  | afterLead (lead : Nat)
  | afterLeadBackslash (lead : Nat)
deriving DecidableEq, Repr

/-- A text as far as it is read: the characters that are settled and the bytes since the last
escape, both newest first. -/
structure TextDraft where
  settled : List Char
  chunk : List UInt8
deriving DecidableEq, Repr

def TextDraft.settle (draft : TextDraft) (rest : List UInt8) : Except Fault (List Char) :=
  match Text.Utf8.decode? draft.chunk.reverse with
  | some characters => .ok (characters.reverse ++ draft.settled)
  | none =>
    let chunk := draft.chunk.reverse
    .error (.before .invalidUnicode (chunk.drop (Text.Utf8.wellFormedLength chunk + 1) ++ rest))

/-- What four hexadecimal digits mean: a character, the first half of a pair, or a fault. -/
def finishHex (settled : List Char) (lead : Option Nat) (value : Nat) (rest : List UInt8) :
    Except Fault (TextStage × TextDraft) :=
  match lead with
  | some first =>
    if 0xDC00 ≤ value ∧ value ≤ 0xDFFF then
      let point := 0x10000 + (first - 0xD800) * 0x400 + (value - 0xDC00)
      .ok (.plain, ⟨Char.ofNat point :: settled, []⟩)
    else .error (.before .loneSurrogate rest)
  | none =>
    if 0xDC00 ≤ value ∧ value ≤ 0xDFFF then .error (.before .loneSurrogate rest)
    else if 0xD800 ≤ value ∧ value ≤ 0xDBFF then .ok (.afterLead value, ⟨settled, []⟩)
    else .ok (.plain, ⟨Char.ofNat value :: settled, []⟩)

def readTextFrom : TextStage → TextDraft → List UInt8 → Scan (List Char)
  | _, _, [] => .error (.before .endInText [])
  | stage, draft, byte :: rest =>
    match stage with
    | .plain =>
      if byte = byteOf '"' then
        match draft.settle (byte :: rest) with
        | .ok settled => .ok (settled.reverse, rest)
        | .error fault => .error fault
      else if byte = byteOf '\\' then
        match draft.settle (byte :: rest) with
        | .ok settled => readTextFrom .afterBackslash ⟨settled, []⟩ rest
        | .error fault => .error fault
      else if byte.toNat < 0x20 then .error (.before .controlCharacter rest)
      else readTextFrom .plain ⟨draft.settled, byte :: draft.chunk⟩ rest
    | .afterBackslash =>
      if byte = byteOf 'u' then readTextFrom (.inHex none 0 0 true) draft rest
      else
        match simpleEscape? byte with
        | some character => readTextFrom .plain ⟨character :: draft.settled, []⟩ rest
        | none => .error (.before .invalidEscape rest)
    | .inHex lead count value wellFormed =>
      let digit := hexDigit? byte
      let longer := value * 16 + digit.getD 0
      if count < 3 then
        readTextFrom (.inHex lead (count + 1) longer (wellFormed && digit.isSome)) draft rest
      else if !(wellFormed && digit.isSome) then .error (.before .invalidEscape rest)
      else
        match finishHex draft.settled lead longer rest with
        | .ok (stage, draft) => readTextFrom stage draft rest
        | .error fault => .error fault
    | .afterLead lead =>
      if byte = byteOf '\\' then readTextFrom (.afterLeadBackslash lead) draft rest
      else .error (.before .unfinishedEscape rest)
    | .afterLeadBackslash lead =>
      if byte = byteOf 'u' then readTextFrom (.inHex (some lead) 0 0 true) draft rest
      else .error (.before .unfinishedEscape rest)

def readText (bytes : List UInt8) : Scan String :=
  match readTextFrom .plain ⟨[], []⟩ bytes with
  | .ok (characters, rest) => .ok (String.ofList characters, rest)
  | .error fault => .error fault

/-- Passes over the rest of a text up to its closing quote; only the forms of its escapes matter. -/
def skipTextFrom : TextStage → List UInt8 → Except Fault (List UInt8)
  | _, [] => .error (.before .endInText [])
  | stage, byte :: rest =>
    match stage with
    | .afterBackslash =>
      if byte = byteOf 'u' then skipTextFrom (.inHex none 0 0 true) rest
      else if (simpleEscape? byte).isSome then skipTextFrom .plain rest
      else .error (.before .invalidEscape rest)
    | .inHex lead count value wellFormed =>
      let stillWellFormed := wellFormed && (hexDigit? byte).isSome
      if count < 3 then skipTextFrom (.inHex lead (count + 1) value stillWellFormed) rest
      else if stillWellFormed then skipTextFrom .plain rest
      else .error (.before .invalidEscape rest)
    | _ =>
      if byte = byteOf '"' then .ok rest
      else if byte = byteOf '\\' then skipTextFrom .afterBackslash rest
      else if byte.toNat < 0x20 then .error (.before .controlCharacter (byte :: rest))
      else skipTextFrom .plain rest

def skipText (bytes : List UInt8) : Except Fault (List UInt8) :=
  skipTextFrom .plain bytes

end StylesheetRunner.Json
