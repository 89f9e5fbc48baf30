import StylesheetRunner.Text.Lines
import StylesheetRunner.Text.Numeral
import StylesheetRunner.Toml.Value

/-!
Keys, texts, numbers, dates and times of a table file. A reader takes the characters to be read and
returns what it read with the characters after it.
-/

namespace StylesheetRunner.Toml

def isLineBlank (character : Char) : Bool :=
  character = ' ' || character = '\t'

def skipLineBlanks (characters : List Char) : List Char :=
  characters.dropWhile isLineBlank

def isPlain (character : Char) : Bool :=
  character = '\t' || (0x20 ≤ character.toNat && character.toNat ≠ 0x7F)

def skipLineEnd? : List Char → Option (List Char)
  | '\n' :: rest => some rest
  | '\r' :: '\n' :: rest => some rest
  | _ => none

def skipComment (characters : List Char) : List Char :=
  characters.dropWhile isPlain

def digitOf? (base : Nat) (character : Char) : Option Nat :=
  let value :=
    if '0' ≤ character ∧ character ≤ '9' then character.toNat - '0'.toNat
    else if 'a' ≤ character ∧ character ≤ 'f' then character.toNat - 'a'.toNat + 10
    else if 'A' ≤ character ∧ character ≤ 'F' then character.toNat - 'A'.toNat + 10
    else 16
  if value < base then some value else none

def digitsValue? (base : Nat) (digits : List Char) : Option Nat :=
  digits.foldlM (fun value character => (digitOf? base character).map (value * base + ·)) 0

def character? (point : Nat) : Option Char :=
  if point < 0xD800 ∨ (0xDFFF < point ∧ point < 0x110000) then some (Char.ofNat point) else none

def readEscape : List Char → Option (Char × List Char)
  | 'b' :: rest => some ('\x08', rest)
  | 'f' :: rest => some ('\x0c', rest)
  | 'n' :: rest => some ('\n', rest)
  | 'r' :: rest => some ('\r', rest)
  | 't' :: rest => some ('\t', rest)
  | '"' :: rest => some ('"', rest)
  | '\\' :: rest => some ('\\', rest)
  | 'u' :: rest => numbered 4 rest
  | 'U' :: rest => numbered 8 rest
  | _ => none
where
  numbered (count : Nat) (characters : List Char) : Option (Char × List Char) :=
    let digits := characters.take count
    if digits.length = count then
      match (digitsValue? 16 digits).bind character? with
      | some character => some (character, characters.drop count)
      | none => none
    else none

def readBasicWithin : (bound : Nat) → (held : List Char) → List Char → Option (String × List Char)
  | 0, _, _ => none
  | _ + 1, _, [] => none
  | bound + 1, held, character :: rest =>
    if character = '"' then some (String.ofList held.reverse, rest)
    else if character = '\\' then
      match readEscape rest with
      | some (escaped, rest) => readBasicWithin bound (escaped :: held) rest
      | none => none
    else if isPlain character then readBasicWithin bound (character :: held) rest
    else none

def readLiteral (characters : List Char) : Option (String × List Char) :=
  let (content, rest) := characters.span fun character => isPlain character && character ≠ '\''
  match rest with
  | '\'' :: rest => some (String.ofList content, rest)
  | _ => none

def skipBlankLinesWithin : (bound : Nat) → List Char → List Char
  | 0, characters => characters
  | bound + 1, characters =>
    match characters with
    | ' ' :: rest => skipBlankLinesWithin bound rest
    | '\t' :: rest => skipBlankLinesWithin bound rest
    | '\n' :: rest => skipBlankLinesWithin bound rest
    | '\r' :: '\n' :: rest => skipBlankLinesWithin bound rest
    | _ => characters

/-- The end of a text in tripled quotes: up to two quotes before the closing three belong to it. -/
def closeTripled? (quote : Char) (characters : List Char) : Option (Nat × List Char) :=
  if characters.take 3 = [quote, quote, quote] then
    let extra := if characters.take 5 = List.replicate 5 quote then 2
      else if characters.take 4 = List.replicate 4 quote then 1 else 0
    some (extra, characters.drop (3 + extra))
  else none

def readLongBasicWithin :
    (bound : Nat) → (held : List Char) → List Char → Option (String × List Char)
  | 0, _, _ => none
  | _ + 1, _, [] => none
  | bound + 1, held, character :: rest =>
    if character = '"' then
      match closeTripled? '"' (character :: rest) with
      | some (extra, rest) => some (String.ofList (held.reverse ++ List.replicate extra '"'), rest)
      | none => readLongBasicWithin bound ('"' :: held) rest
    else if character = '\\' then
      match skipLineEnd? (skipLineBlanks rest) with
      | some after =>
        readLongBasicWithin bound held (skipBlankLinesWithin after.length after)
      | none =>
        match readEscape rest with
        | some (escaped, rest) => readLongBasicWithin bound (escaped :: held) rest
        | none => none
    else
      match skipLineEnd? (character :: rest) with
      | some rest => readLongBasicWithin bound ('\n' :: held) rest
      | none =>
        if isPlain character then readLongBasicWithin bound (character :: held) rest else none

def readLongLiteralWithin :
    (bound : Nat) → (held : List Char) → List Char → Option (String × List Char)
  | 0, _, _ => none
  | _ + 1, _, [] => none
  | bound + 1, held, character :: rest =>
    if character = '\'' then
      match closeTripled? '\'' (character :: rest) with
      | some (extra, rest) => some (String.ofList (held.reverse ++ List.replicate extra '\''), rest)
      | none => readLongLiteralWithin bound ('\'' :: held) rest
    else
      match skipLineEnd? (character :: rest) with
      | some rest => readLongLiteralWithin bound ('\n' :: held) rest
      | none =>
        if isPlain character then readLongLiteralWithin bound (character :: held) rest else none

def readText (characters : List Char) : Option (String × List Char) :=
  let bound := characters.length + 1
  let body (rest : List Char) := (skipLineEnd? rest).getD rest
  match characters with
  | '"' :: '"' :: '"' :: rest => readLongBasicWithin bound [] (body rest)
  | '"' :: rest => readBasicWithin bound [] rest
  | '\'' :: '\'' :: '\'' :: rest => readLongLiteralWithin bound [] (body rest)
  | '\'' :: rest => readLiteral rest
  | _ => none

def isKeyCharacter (character : Char) : Bool :=
  character.isAlphanum || character = '_' || character = '-'

def readKeyPart (characters : List Char) : Option (String × List Char) :=
  match characters with
  | '"' :: rest => readBasicWithin (rest.length + 1) [] rest
  | '\'' :: rest => readLiteral rest
  | _ =>
    let (name, rest) := characters.span isKeyCharacter
    if name = [] then none else some (String.ofList name, rest)

def depthLimit : Nat := 80

/-- Reads the parts of a dotted key, within a number of steps; blanks around it count for
nothing. -/
def readKeyWithin : (bound : Nat) → List Char → Option (List String × List Char)
  | 0, _ => none
  | bound + 1, characters =>
    match readKeyPart (skipLineBlanks characters) with
    | none => none
    | some (part, rest) =>
      match skipLineBlanks rest with
      | '.' :: rest =>
        match readKeyWithin bound rest with
        | some (parts, rest) => some (part :: parts, rest)
        | none => none
      | rest => some ([part], rest)

def readKey (characters : List Char) : Option (List String × List Char) :=
  match readKeyWithin (characters.length + 1) characters with
  | some (parts, rest) => if parts.length < depthLimit then some (parts, rest) else none
  | none => none

def readDigits (base : Nat) : List Char → Option (List Char × List Char)
  | [] => none
  | character :: rest =>
    match digitOf? base character with
    | none => none
    | some _ => some (more [character] rest)
where
  more (held : List Char) : List Char → List Char × List Char
    | '_' :: next :: rest =>
      match digitOf? base next with
      | some _ => more (next :: held) rest
      | none => (held.reverse, '_' :: next :: rest)
    | character :: rest =>
      match digitOf? base character with
      | some _ => more (character :: held) rest
      | none => (held.reverse, character :: rest)
    | [] => (held.reverse, [])

def readFixed (count least greatest : Nat) (characters : List Char) : Option (Nat × List Char) :=
  let digits := characters.take count
  if digits.length = count then
    match digitsValue? 10 digits with
    | some value =>
      if least ≤ value ∧ value ≤ greatest then some (value, characters.drop count) else none
    | none => none
  else none

def daysInMonth (year month : Nat) : Nat :=
  if month = 2 then
    if (year % 4 = 0 ∧ year % 100 ≠ 0) ∨ year % 400 = 0 then 29 else 28
  else if month = 4 ∨ month = 6 ∨ month = 9 ∨ month = 11 then 30
  else 31

def expect (character : Char) : List Char → Option (List Char)
  | first :: rest => if first = character then some rest else none
  | [] => none

def readDate (characters : List Char) : Option (List Char × List Char) := do
  let (year, rest) ← readFixed 4 0 9999 characters
  let rest ← expect '-' rest
  let (month, rest) ← readFixed 2 1 12 rest
  let rest ← expect '-' rest
  let (_, rest) ← readFixed 2 1 (daysInMonth year month) rest
  pure (characters.take 10, rest)

/-- Reads a time of day; its fraction is written with up to nine digits and no final zero. -/
def readTime (characters : List Char) : Option (List Char × List Char) := do
  let (_, rest) ← readFixed 2 0 23 characters
  let rest ← expect ':' rest
  let (_, rest) ← readFixed 2 0 59 rest
  let rest ← expect ':' rest
  let (_, rest) ← readFixed 2 0 60 rest
  let whole := characters.take 8
  match rest with
  | '.' :: after =>
    let (digits, final) := after.span Char.isDigit
    if digits = [] then pure (whole, rest)
    else
      let kept := ((digits.take 9).reverse.dropWhile (· = '0')).reverse
      pure (if kept = [] then whole else whole ++ '.' :: kept, final)
  | _ => pure (whole, rest)

def readOffset (characters : List Char) : Option (List Char × List Char) :=
  match characters with
  | 'Z' :: rest => some (['Z'], rest)
  | 'z' :: rest => some (['Z'], rest)
  | sign :: rest =>
    if sign = '+' ∨ sign = '-' then do
      let (_, after) ← readFixed 2 0 23 rest
      let after ← expect ':' after
      let (_, after) ← readFixed 2 0 59 after
      pure (characters.take 6, after)
    else none
  | [] => none

def opensDate (characters : List Char) : Bool :=
  (readFixed 4 0 9999 characters).isSome && (characters.drop 4).head? = some '-'

def opensTime (characters : List Char) : Bool :=
  (readFixed 2 0 23 characters).isSome && (characters.drop 2).head? = some ':'

def opensOffset (characters : List Char) : Bool :=
  match characters with
  | first :: _ => first = 'Z' || first = 'z' || first = '+' || first = '-'
  | [] => false

def readMoment (characters : List Char) : Option (Value × List Char) :=
  if opensDate characters then do
    let (date, rest) ← readDate characters
    match rest with
    | delimiter :: after =>
      if (delimiter = 'T' ∨ delimiter = 't' ∨ delimiter = ' ') ∧ opensTime after then do
        let (time, rest) ← readTime after
        if opensOffset rest then do
          let (offset, rest) ← readOffset rest
          pure (.moment (String.ofList (date ++ 'T' :: time ++ offset)), rest)
        else pure (.moment (String.ofList (date ++ 'T' :: time)), rest)
      else pure (.moment (String.ofList date), rest)
    | [] => pure (.moment (String.ofList date), rest)
  else do
    let (time, rest) ← readTime characters
    pure (.moment (String.ofList time), rest)

/-- Reads the whole part of a decimal number: a lone zero, or digits that start with another. -/
def readWhole (characters : List Char) : Option (List Char × List Char) :=
  match characters with
  | '0' :: rest => some (['0'], rest)
  | _ => readDigits 10 characters

def signed? (negative : Bool) (magnitude : Nat) : Option Value :=
  if negative then if magnitude ≤ Text.signedLimit + 1 then some (.integer (-magnitude)) else none
  else if magnitude ≤ Text.signedLimit then some (.integer magnitude) else none

def readExponent (characters : List Char) : Option (Int × List Char) :=
  let (negative, rest) :=
    match characters with
    | '+' :: rest => (false, rest)
    | '-' :: rest => (true, rest)
    | _ => (false, characters)
  match readDigits 10 rest with
  | some (digits, rest) =>
    (digitsValue? 10 digits).map fun value => (if negative then -(value : Int) else value, rest)
  | none => none

def isInfinite (digits : List Char) (power : Int) : Bool :=
  match digitsValue? 10 digits with
  | none => false
  | some 0 => false
  | some value =>
    let size : Int := (Nat.toDigits 10 value).length + power
    if 400 < size then true
    else if size < 0 then false
    else if 0 ≤ power then (Float.ofScientific value false power.toNat).isInf
    else (Float.ofScientific value true power.natAbs).isInf

/-- Reads what makes a decimal number a fraction: decimals, an exponent or both. -/
def readReal (negative : Bool) (whole characters : List Char) : Option (Value × List Char) := do
  let (decimals, rest) ←
    match characters with
    | '.' :: rest => readDigits 10 rest
    | _ => some ([], characters)
  let (power, rest) ←
    match rest with
    | 'e' :: rest => readExponent rest
    | 'E' :: rest => readExponent rest
    | _ => some (0, rest)
  if !negative && isInfinite (whole ++ decimals) (power - decimals.length) then none
  else pure (.real, rest)

def readNumber (characters : List Char) : Option (Value × List Char) :=
  let (negative, isSigned, body) :=
    match characters with
    | '+' :: rest => (false, true, rest)
    | '-' :: rest => (true, true, rest)
    | _ => (false, false, characters)
  match body with
  | 'i' :: 'n' :: 'f' :: rest => some (.real, rest)
  | 'n' :: 'a' :: 'n' :: rest => some (.real, rest)
  | '0' :: 'x' :: rest => if isSigned then none else based 16 rest
  | '0' :: 'o' :: rest => if isSigned then none else based 8 rest
  | '0' :: 'b' :: rest => if isSigned then none else based 2 rest
  | _ => do
    let (whole, rest) ← readWhole body
    match rest with
    | '.' :: _ => readReal negative whole rest
    | 'e' :: _ => readReal negative whole rest
    | 'E' :: _ => readReal negative whole rest
    | _ =>
      let magnitude ← digitsValue? 10 whole
      let value ← signed? negative magnitude
      pure (value, rest)
where
  based (base : Nat) (characters : List Char) : Option (Value × List Char) := do
    let (digits, rest) ← readDigits base characters
    let magnitude ← digitsValue? base digits
    let value ← signed? false magnitude
    pure (value, rest)

def readNumberOrMoment (characters : List Char) : Option (Value × List Char) :=
  if opensDate characters || opensTime characters then readMoment characters
  else readNumber characters

end StylesheetRunner.Toml
