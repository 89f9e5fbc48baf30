import StylesheetRunner.Json.Value
import StylesheetRunner.Text.Numeral
import StylesheetRunner.Text.Lines

/-!
Values in writing, on one line or indented by two spaces for every level.
-/

namespace StylesheetRunner.Json

def escapeCharacter (character : Char) : List Char :=
  if character = '"' then ['\\', '"']
  else if character = '\\' then ['\\', '\\']
  else if character = '\x08' then ['\\', 'b']
  else if character = '\x0c' then ['\\', 'f']
  else if character = '\n' then ['\\', 'n']
  else if character = '\r' then ['\\', 'r']
  else if character = '\t' then ['\\', 't']
  else if character.toNat < 0x20 then
    let point := character.toNat
    ['\\', 'u', '0', '0', Nat.digitChar (point / 16), Nat.digitChar (point % 16)]
  else [character]

def writeText (text : String) : List Char :=
  '"' :: text.toList.flatMap escapeCharacter ++ ['"']

namespace Value

mutual

def compact : Value → List Char
  | .null => "null".toList
  | .boolean flag => (if flag then "true" else "false").toList
  | .integer number => Text.integerText number
  | .text characters => writeText characters
  | .list items => '[' :: compactItems items ++ [']']
  | .object members => '{' :: compactMembers members ++ ['}']

def compactItems : List Value → List Char
  | [] => []
  | [only] => compact only
  | first :: others => compact first ++ ',' :: compactItems others

def compactMembers : List (String × Value) → List Char
  | [] => []
  | [(name, only)] => writeText name ++ ':' :: compact only
  | (name, first) :: others =>
    writeText name ++ ':' :: compact first ++ ',' :: compactMembers others

end

def newLine (level : Nat) : List Char :=
  '\n' :: List.replicate (2 * level) ' '

mutual

def indented (level : Nat) : Value → List Char
  | .null => "null".toList
  | .boolean flag => (if flag then "true" else "false").toList
  | .integer number => Text.integerText number
  | .text characters => writeText characters
  | .list items =>
    if items.isEmpty then ['[', ']']
    else '[' :: indentedItems (level + 1) items ++ newLine level ++ [']']
  | .object members =>
    if members.isEmpty then ['{', '}']
    else '{' :: indentedMembers (level + 1) members ++ newLine level ++ ['}']

def indentedItems (level : Nat) : List Value → List Char
  | [] => []
  | [only] => newLine level ++ indented level only
  | first :: others => newLine level ++ indented level first ++ ',' :: indentedItems level others

def indentedMembers (level : Nat) : List (String × Value) → List Char
  | [] => []
  | [(name, only)] => newLine level ++ writeText name ++ ':' :: ' ' :: indented level only
  | (name, first) :: others =>
    newLine level ++ writeText name ++ ':' :: ' ' :: indented level first ++
      ',' :: indentedMembers level others

end

def pretty (value : Value) : List Char :=
  indented 0 value

end Value

end StylesheetRunner.Json
