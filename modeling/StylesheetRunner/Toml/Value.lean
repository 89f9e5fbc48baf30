/-!
Data of a table file. A table remembers how it came about, because that decides whether later lines
may still add to it.
-/

namespace StylesheetRunner.Toml

inductive Value where
  | text (characters : String)
  | integer (number : Int)
  | real
  | boolean (flag : Bool)
  | moment (written : String)
  | list (items : List Value)
  | inlined (isDotted : Bool) (members : List (String × Value))
  /-- A table of the file: implied by a longer header or key, opened by a dotted key, or neither. -/
  | table (isImplied isDotted : Bool) (members : List (String × Value))
  | tables (elements : List (List (String × Value)))
deriving Repr, Inhabited

abbrev Members := List (String × Value)

def Members.put (name : String) (value : Value) : Members → Members
  | [] => [(name, value)]
  | (key, held) :: rest =>
    if key = name then (key, value) :: rest else (key, held) :: Members.put name value rest

def Members.get? (members : Members) (name : String) : Option Value :=
  members.lookup name

end StylesheetRunner.Toml
