import StylesheetRunner.Json.Skip
import StylesheetRunner.TextMap

/-!
Readers of typed data. A reader takes the bytes before a value and returns the value with the bytes
after it. Records may be written as objects, whose unknown members are passed over, or as lists of
their members in order.
-/

namespace StylesheetRunner.Json

abbrev Reader (α : Type) := List UInt8 → Scan α

def wrongType (expected : String) (bytes : List UInt8) : Fault :=
  let word (letters : List Char) (found : Found) (rest : List UInt8) : Fault :=
    match readWord letters rest with
    | .ok after => .before (.invalidType found expected) after
    | .error fault => fault
  let number (negative : Bool) (bytes : List UInt8) : Fault :=
    match readNumber negative bytes with
    | .ok (number, after) => .before (.invalidType number.found expected) after
    | .error fault => fault
  match bytes with
  | [] => .before .expectedValue []
  | byte :: rest =>
    if byte = byteOf 'n' then word ['u', 'l', 'l'] .null rest
    else if byte = byteOf 't' then word ['r', 'u', 'e'] (.boolean true) rest
    else if byte = byteOf 'f' then word ['a', 'l', 's', 'e'] (.boolean false) rest
    else if byte = byteOf '-' then number true rest
    else if isDigitByte byte then number false bytes
    else if byte = byteOf '"' then
      match readText rest with
      | .ok (found, after) => .before (.invalidType (.text found) expected) after
      | .error fault => fault
    else if byte = byteOf '[' then .before (.invalidType .sequence expected) bytes
    else if byte = byteOf '{' then .before (.invalidType .map expected) bytes
    else .before .expectedValue rest

def readByFirst {α : Type} (choose : (byte : UInt8) → (rest : List UInt8) → Scan α) : Reader α :=
  fun bytes =>
    match skipBlanks bytes with
    | [] => .error (.before .endInValue [])
    | byte :: rest => choose byte rest

def readString : Reader String :=
  readByFirst fun byte rest =>
    if byte = byteOf '"' then readText rest else .error (wrongType "a string" (byte :: rest))

def readBoolean : Reader Bool :=
  readByFirst fun byte rest =>
    let word (letters : List Char) (flag : Bool) : Scan Bool :=
      match readWord letters rest with
      | .ok after => .ok (flag, after)
      | .error fault => .error fault
    if byte = byteOf 't' then word ['r', 'u', 'e'] true
    else if byte = byteOf 'f' then word ['a', 'l', 's', 'e'] false
    else .error (wrongType "a boolean" (byte :: rest))

/-- Reads a natural number of 64 bits; the name says how a fault calls its kind. -/
def readWord64 (name : String) : Reader UInt64 :=
  readByFirst fun byte rest =>
    let number (negative : Bool) (bytes : List UInt8) : Scan UInt64 :=
      match readNumber negative bytes with
      | .ok (.natural value, after) => .ok (UInt64.ofNat value, after)
      | .ok (.negative value, after) =>
        .error (.before (.invalidValue (.integer (-value)) name) after)
      | .ok (.real value, after) => .error (.before (.invalidType (.real value) name) after)
      | .error fault => .error fault
    if byte = byteOf '-' then number true rest
    else if isDigitByte byte then number false (byte :: rest)
    else .error (wrongType name (byte :: rest))

def readOptional {α : Type} (reader : Reader α) : Reader (Option α) := fun bytes =>
  let present : Scan (Option α) :=
    match reader (skipBlanks bytes) with
    | .ok (value, after) => .ok (some value, after)
    | .error fault => .error fault
  match skipBlanks bytes with
  | byte :: rest =>
    if byte = byteOf 'n' then
      match readWord ['u', 'l', 'l'] rest with
      | .ok after => .ok (none, after)
      | .error fault => .error fault
    else present
  | [] => present

/-- Goes to the next item of a list, if there is one; the closing bracket is left unread. -/
def nextItem (first : Bool) (bytes : List UInt8) : Scan Bool :=
  match skipBlanks bytes with
  | [] => .error (.before .endInList [])
  | byte :: rest =>
    if byte = byteOf ']' then .ok (false, byte :: rest)
    else if first then .ok (true, byte :: rest)
    else if byte = byteOf ',' then
      match skipBlanks rest with
      | [] => .error (.before .endInValue [])
      | next :: after =>
        if next = byteOf ']' then .error (.before .trailingComma after)
        else .ok (true, next :: after)
    else .error (.before .expectedListSeparator rest)

/-- Reads the next key of an object, if there is one; the closing brace is left unread. -/
def nextKey (first : Bool) (bytes : List UInt8) : Scan (Option String) :=
  match skipBlanks bytes with
  | [] => .error (.before .endInObject [])
  | byte :: rest =>
    if byte = byteOf '}' then .ok (none, byte :: rest)
    else if first then key (byte :: rest)
    else if byte = byteOf ',' then key (skipBlanks rest)
    else .error (.before .expectedObjectSeparator rest)
where
  key (bytes : List UInt8) : Scan (Option String) :=
    match bytes with
    | [] => .error (.before .endInValue [])
    | byte :: rest =>
      if byte = byteOf '"' then
        match readText rest with
        | .ok (name, after) => .ok (some name, after)
        | .error fault => .error fault
      else if byte = byteOf '}' then .error (.before .trailingComma rest)
      else .error (.before .keyNotText rest)

def readColon (bytes : List UInt8) : Except Fault (List UInt8) :=
  match skipBlanks bytes with
  | [] => .error (.before .endInObject [])
  | byte :: rest => if byte = byteOf ':' then .ok rest else .error (.before .expectedColon rest)

def endList (bytes : List UInt8) : Except Fault (List UInt8) :=
  match skipBlanks bytes with
  | [] => .error (.before .endInList [])
  | byte :: rest =>
    if byte = byteOf ']' then .ok rest
    else if byte = byteOf ',' then
      match skipBlanks rest with
      | next :: after =>
        .error (.before (if next = byteOf ']' then .trailingComma else .trailingCharacters) after)
      | [] => .error (.before .trailingCharacters [])
    else .error (.before .trailingCharacters rest)

def endObject (bytes : List UInt8) : Except Fault (List UInt8) :=
  match skipBlanks bytes with
  | [] => .error (.before .endInObject [])
  | byte :: rest =>
    if byte = byteOf '}' then .ok rest
    else .error (.before (if byte = byteOf ',' then .trailingComma else .trailingCharacters) rest)

/-- The place of a fault that a list encloses: behind its closing bracket, if that comes next. -/
def placeInList (fault : Fault) : Fault :=
  fault.placeBefore <|
    match skipBlanks fault.rest with
    | [] => []
    | byte :: rest =>
      if byte = byteOf ']' then rest
      else if byte = byteOf ',' then skipBlanks rest
      else byte :: rest

/-- The place of a fault that an object encloses: behind its closing brace, if that comes next. -/
def placeInObject (fault : Fault) : Fault :=
  fault.placeBefore <|
    match skipBlanks fault.rest with
    | [] => []
    | byte :: rest => if byte = byteOf '}' then rest else byte :: rest

def closeList {α : Type} : Scan α → Scan α
  | .ok (value, rest) =>
    match endList rest with
    | .ok after => .ok (value, after)
    | .error fault => .error fault
  | .error fault => .error (placeInList fault)

def closeObject {α : Type} : Scan α → Scan α
  | .ok (value, rest) =>
    match endObject rest with
    | .ok after => .ok (value, after)
    | .error fault => .error fault
  | .error fault => .error (placeInObject fault)

def readItemsWithin {α : Type} (item : Reader α) :
    (bound : Nat) → (first : Bool) → List UInt8 → Scan (List α)
  | 0, _, bytes => .error (.before .endInList bytes)
  | bound + 1, first, bytes =>
    match nextItem first bytes with
    | .error fault => .error fault
    | .ok (false, rest) => .ok ([], rest)
    | .ok (true, rest) =>
      match item rest with
      | .error fault => .error fault
      | .ok (value, rest) =>
        match readItemsWithin item bound false rest with
        | .error fault => .error fault
        | .ok (values, rest) => .ok (value :: values, rest)

/-- Reads members with values of one kind up to the closing brace within a number of steps. -/
def readMembersWithin {α : Type} (value : Reader α) :
    (bound : Nat) → (first : Bool) → List UInt8 → Scan (List (String × α))
  | 0, _, bytes => .error (.before .endInObject bytes)
  | bound + 1, first, bytes =>
    match nextKey first bytes with
    | .error fault => .error fault
    | .ok (none, rest) => .ok ([], rest)
    | .ok (some name, rest) =>
      match readColon rest with
      | .error fault => .error fault
      | .ok rest =>
        match value rest with
        | .error fault => .error fault
        | .ok (read, rest) =>
          match readMembersWithin value bound false rest with
          | .error fault => .error fault
          | .ok (members, rest) => .ok ((name, read) :: members, rest)

def readList {α : Type} (item : Reader α) : Reader (List α) :=
  readByFirst fun byte rest =>
    if byte = byteOf '[' then closeList (readItemsWithin item (rest.length + 1) true rest)
    else .error (wrongType "a sequence" (byte :: rest))

/-- Reads an object whose members are texts. Of members with one name the last counts. -/
def readTextMap : Reader TextMap :=
  readByFirst fun byte rest =>
    if byte = byteOf '{' then
      match closeObject (readMembersWithin readString (rest.length + 1) true rest) with
      | .ok (members, after) => .ok (TextMap.ofList members, after)
      | .error fault => .error fault
    else .error (wrongType "a map" (byte :: rest))

structure Slot (draft : Type) where
  name : String
  mayBeAbsent : Bool
  isFilled : draft → Bool
  read : draft → Reader draft

/-- The slot of a member that a draft holds once it is read. -/
def Slot.ofMember {draft α : Type} (name : String) (mayBeAbsent : Bool)
    (member : draft → Option α) (fill : draft → α → draft) (reader : Reader α) : Slot draft where
  name := name
  mayBeAbsent := mayBeAbsent
  isFilled held := (member held).isSome
  read held bytes :=
    match reader bytes with
    | .ok (value, rest) => .ok (fill held value, rest)
    | .error fault => .error fault

/-- How a record is read: its members in order, and how a draft becomes a record. A draft without a
member that must be there names that member. -/
structure RecordShape (draft record : Type) where
  name : String
  blank : draft
  slots : List (Slot draft)
  finish : draft → Except String record

namespace RecordShape

variable {draft record : Type}

def listName (shape : RecordShape draft record) : String :=
  let count := shape.slots.length
  let noun := if count = 1 then "element" else "elements"
  s!"struct {shape.name} with {count} {noun}"

def complete (shape : RecordShape draft record) (held : draft) (rest : List UInt8) : Scan record :=
  match shape.finish held with
  | .ok value => .ok (value, rest)
  | .error name => .error (.unplaced (.missingField name) rest)

def readObjectWithin (shape : RecordShape draft record) :
    (bound : Nat) → (first : Bool) → draft → List UInt8 → Scan draft
  | 0, _, _, bytes => .error (.before .endInObject bytes)
  | bound + 1, first, held, bytes =>
    match nextKey first bytes with
    | .error fault => .error fault
    | .ok (none, rest) => .ok (held, rest)
    | .ok (some name, rest) =>
      match shape.slots.find? fun slot => slot.name = name with
      | some slot =>
        if slot.isFilled held then .error (.unplaced (.duplicateField name) rest)
        else
          match readColon rest with
          | .error fault => .error fault
          | .ok rest =>
            match slot.read held rest with
            | .error fault => .error fault
            | .ok (held, rest) => shape.readObjectWithin bound false held rest
      | none =>
        match readColon rest with
        | .error fault => .error fault
        | .ok rest =>
          match skipValue rest with
          | .error fault => .error fault
          | .ok rest => shape.readObjectWithin bound false held rest

def readListFrom (shape : RecordShape draft record) (count : Nat) (held : draft) :
    List (Slot draft) → List UInt8 → Scan draft
  | [], bytes => .ok (held, bytes)
  | slot :: slots, bytes =>
    match nextItem (count == 0) bytes with
    | .error fault => .error fault
    | .ok (true, rest) =>
      match slot.read held rest with
      | .error fault => .error fault
      | .ok (held, rest) => shape.readListFrom (count + 1) held slots rest
    | .ok (false, rest) =>
      if slot.mayBeAbsent then shape.readListFrom (count + 1) held slots rest
      else .error (.unplaced (.invalidLength count shape.listName) rest)

def finishScan (shape : RecordShape draft record) : Scan draft → Scan record
  | .ok (held, rest) => shape.complete held rest
  | .error fault => .error fault

def reader (shape : RecordShape draft record) : Reader record :=
  readByFirst fun byte rest =>
    if byte = byteOf '{' then
      let read := shape.readObjectWithin (rest.length + 1) true shape.blank rest
      closeObject (shape.finishScan read)
    else if byte = byteOf '[' then
      closeList (shape.finishScan (shape.readListFrom 0 shape.blank shape.slots rest))
    else .error (wrongType s!"struct {shape.name}" (byte :: rest))

end RecordShape

/-- A value whose contents matter only if it is a natural number or a text. -/
inductive Untyped where
  | natural (value : Nat)
  | text (characters : String)
  | other
deriving Repr, DecidableEq

def readUntyped : (depth : Nat) → Reader Untyped
  | 0 => fun bytes => .error (.nextByte .tooDeep (skipBlanks bytes))
  | depth + 1 =>
    readByFirst fun byte rest =>
      let word (letters : List Char) : Scan Untyped :=
        match readWord letters rest with
        | .ok after => .ok (.other, after)
        | .error fault => .error fault
      let number (negative : Bool) (bytes : List UInt8) : Scan Untyped :=
        match readNumber negative bytes with
        | .ok (.natural value, after) => .ok (.natural value, after)
        | .ok (_, after) => .ok (.other, after)
        | .error fault => .error fault
      if byte = byteOf 'n' then word ['u', 'l', 'l']
      else if byte = byteOf 't' then word ['r', 'u', 'e']
      else if byte = byteOf 'f' then word ['a', 'l', 's', 'e']
      else if byte = byteOf '-' then number true rest
      else if isDigitByte byte then number false (byte :: rest)
      else if byte = byteOf '"' then
        match readText rest with
        | .ok (characters, after) => .ok (.text characters, after)
        | .error fault => .error fault
      else if byte = byteOf '[' then
        if depth = 0 then .error (.before .tooDeep rest)
        else
          match closeList (readItemsWithin (readUntyped depth) (rest.length + 1) true rest) with
          | .ok (_, after) => .ok (.other, after)
          | .error fault => .error fault
      else if byte = byteOf '{' then
        if depth = 0 then .error (.before .tooDeep rest)
        else
          match closeObject (readMembersWithin (readUntyped depth) (rest.length + 1) true rest) with
          | .ok (_, after) => .ok (.other, after)
          | .error fault => .error fault
      else .error (.before .expectedValue rest)

def readWhole {α : Type} (reader : Reader α) (bytes : List UInt8) : Except Fault α :=
  match reader bytes with
  | .error fault => .error fault
  | .ok (value, rest) =>
    match skipBlanks rest with
    | [] => .ok value
    | _ :: after => .error (.before .trailingCharacters after)

end StylesheetRunner.Json
