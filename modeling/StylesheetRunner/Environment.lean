import StylesheetRunner.Text.Utf8

/-!
Variables of the environment.
-/

namespace StylesheetRunner

structure Environment where
  entries : List (String × List UInt8)
deriving Repr

namespace Environment

/-- The value of a variable. One whose value is no text counts as unset. -/
def text? (environment : Environment) (name : String) : Option String :=
  match environment.entries.lookup name with
  | none => none
  | some bytes => (Text.Utf8.decode? bytes).map String.ofList

def nonempty? (environment : Environment) (name : String) : Option String :=
  match environment.text? name with
  | none => none
  | some value => if value = "" then none else some value

end Environment

end StylesheetRunner
