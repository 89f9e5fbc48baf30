import StylesheetRunner.Text.Unprinted

/-!
Quoted form of a text: double quotes around it, a backslash form for the quote, the backslash and
four controls, and the number of every character that is not shown as itself.
-/

namespace StylesheetRunner.Text

def quoteCharacter (character : Char) : List Char :=
  if character = '\x00' then ['\\', '0']
  else if character = '\t' then ['\\', 't']
  else if character = '\r' then ['\\', 'r']
  else if character = '\n' then ['\\', 'n']
  else if character = '"' then ['\\', '"']
  else if character = '\\' then ['\\', '\\']
  else if isUnprinted character then
    '\\' :: 'u' :: '{' :: Nat.toDigits 16 character.toNat ++ ['}']
  else [character]

def quote (text : List Char) : List Char :=
  '"' :: text.flatMap quoteCharacter ++ ['"']

def quoted (text : String) : String :=
  String.ofList (quote text.toList)

end StylesheetRunner.Text
