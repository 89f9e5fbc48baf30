import StylesheetRunner.Text.Lines
import StylesheetRunner.Text.Numeral

/-!
What a failing command tells its user: a message and what lies behind it.
-/

namespace StylesheetRunner

/-- A message and its causes, outermost first. Causes that come from reading a table file are not
worded, and then the whole list is missing. -/
structure ErrorReport where
  message : String
  causes : Option (List String)
deriving DecidableEq, Repr

namespace ErrorReport

def plain (message : String) : ErrorReport := ⟨message, some []⟩

def because (message cause : String) : ErrorReport := ⟨message, some [cause]⟩

def withMargins (first others text : List Char) : List Char :=
  first ++ text.flatMap fun character => if character = '\n' then '\n' :: others else [character]

def margin (index : Nat) : List Char :=
  let number := Text.naturalText index
  List.replicate (5 - number.length) ' ' ++ number ++ [':', ' ']

def numbered : (index : Nat) → List (List Char) → List Char
  | _, [] => []
  | index, cause :: causes =>
    '\n' :: withMargins (margin index) (List.replicate 7 ' ') cause ++ numbered (index + 1) causes

def causesText : List (List Char) → List Char
  | [] => []
  | [only] =>
    let blanks := List.replicate 4 ' '
    "\n\nCaused by:\n".toList ++ withMargins blanks blanks only
  | causes => "\n\nCaused by:".toList ++ numbered 0 causes

def shown (report : ErrorReport) : String :=
  let causes := (report.causes.getD []).map String.toList
  String.ofList ("Error: ".toList ++ report.message.toList ++ causesText causes ++ ['\n'])

end ErrorReport

end StylesheetRunner
