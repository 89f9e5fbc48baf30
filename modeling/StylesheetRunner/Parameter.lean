import StylesheetRunner.Failure
import StylesheetRunner.Text.Blank
import StylesheetRunner.Text.Lines

/-!
Stylesheet parameters as the processor takes them. A value that looks like markup is handed over in
a file, any other in the argument line itself, which therefore must not break.
-/

namespace StylesheetRunner

inductive ParameterKind where
  | inline
  | fileReference
deriving DecidableEq, Repr

namespace ParameterKind

/-- The kind of a value: markup, plain or with its first bracket written as an entity, goes into a
file. -/
def ofValue (value : String) : ParameterKind :=
  let trimmed := Text.trim value.toList
  if Text.opensWith ['<'] trimmed || Text.opensWith ['&', 'l', 't', ';'] trimmed then .fileReference
  else .inline

def name : ParameterKind → String
  | .inline => "inline"
  | .fileReference => "file_reference"

end ParameterKind

namespace Parameter

/-- The argument line that binds a parameter, given the file that would hold its value. -/
def binding (name value file : String) : String :=
  match ParameterKind.ofValue value with
  | .fileReference => "+" ++ name ++ "=" ++ file
  | .inline => name ++ "=" ++ value

def breaksLine (text : String) : Bool :=
  text.toList.any fun character => character = '\n' || character = '\r'

def check (name value : String) : Except Failure Unit :=
  if breaksLine name || (ParameterKind.ofValue value = .inline && breaksLine value) then
    .error (.invalidParameter name)
  else .ok ()

end Parameter

end StylesheetRunner
