import StylesheetRunner.Json.Number

/-!
Passing over a value that nobody asks for. Its form is checked, its contents are not, and it may be
nested to any depth.
-/

namespace StylesheetRunner.Json

mutual

def skipValueWithin : (bound : Nat) → List UInt8 → Except Fault (List UInt8)
  | 0, bytes => .error (.before .endInValue bytes)
  | bound + 1, bytes =>
    match skipBlanks bytes with
    | [] => .error (.before .endInValue [])
    | byte :: rest =>
      if byte = byteOf 'n' then readWord ['u', 'l', 'l'] rest
      else if byte = byteOf 't' then readWord ['r', 'u', 'e'] rest
      else if byte = byteOf 'f' then readWord ['a', 'l', 's', 'e'] rest
      else if byte = byteOf '-' then skipNumber rest
      else if isDigitByte byte then skipNumber (byte :: rest)
      else if byte = byteOf '"' then skipText rest
      else if byte = byteOf '[' then skipItemsWithin bound true rest
      else if byte = byteOf '{' then skipMembersWithin bound true rest
      else .error (.before .expectedValue rest)

def skipItemsWithin : (bound : Nat) → (first : Bool) → List UInt8 → Except Fault (List UInt8)
  | 0, _, bytes => .error (.before .endInList bytes)
  | bound + 1, first, bytes =>
    match skipBlanks bytes with
    | [] => .error (.before .endInList [])
    | byte :: rest =>
      if byte = byteOf ']' then .ok rest
      else if first || byte = byteOf ',' then
        match skipValueWithin bound (if first then byte :: rest else rest) with
        | .ok after => skipItemsWithin bound false after
        | .error fault => .error fault
      else .error (.before .expectedListSeparator rest)

def skipMembersWithin : (bound : Nat) → (first : Bool) → List UInt8 → Except Fault (List UInt8)
  | 0, _, bytes => .error (.before .endInObject bytes)
  | bound + 1, first, bytes =>
    match skipBlanks bytes with
    | [] => .error (.before .endInObject [])
    | byte :: rest =>
      if byte = byteOf '}' then .ok rest
      else if first || byte = byteOf ',' then
        match skipKey (if first then byte :: rest else rest) with
        | .error fault => .error fault
        | .ok value =>
          match skipValueWithin bound value with
          | .ok after => skipMembersWithin bound false after
          | .error fault => .error fault
      else .error (.before .expectedObjectSeparator rest)
where
  skipKey (bytes : List UInt8) : Except Fault (List UInt8) :=
    match skipBlanks bytes with
    | [] => .error (.before .endInObject [])
    | byte :: rest =>
      if byte = byteOf '"' then
        match skipText rest with
        | .error fault => .error fault
        | .ok after =>
          match skipBlanks after with
          | [] => .error (.before .endInObject [])
          | byte :: rest =>
            if byte = byteOf ':' then .ok rest else .error (.before .expectedColon rest)
      else .error (.before .keyNotText rest)

end

def skipValue (bytes : List UInt8) : Except Fault (List UInt8) :=
  skipValueWithin (2 * bytes.length + 2) bytes

end StylesheetRunner.Json
