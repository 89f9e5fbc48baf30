/-!
Data values with named members, as records are written and as untyped parts of a text are read.
-/

namespace StylesheetRunner.Json

/-- A data value. Members keep their order. -/
inductive Value where
  | null
  | boolean (flag : Bool)
  | integer (number : Int)
  | text (characters : String)
  | list (items : List Value)
  | object (members : List (String × Value))
deriving Repr, Inhabited, BEq

def Value.natural (number : Nat) : Value :=
  .integer number

end StylesheetRunner.Json
