import StylesheetRunner.Text.Blank

/-!
Where log lines for the console go.
-/

namespace StylesheetRunner.Logging

inductive ConsoleOutput where
  | stdout
  | stderr
  | silent
deriving DecidableEq, Repr

namespace ConsoleOutput

def name : ConsoleOutput → String
  | .stdout => "stdout"
  | .stderr => "stderr"
  | .silent => "none"

def all : List ConsoleOutput := [.stdout, .stderr, .silent]

def ofName? (name : String) : Option ConsoleOutput :=
  all.find? fun output => output.name = name

def ofText? (text : String) : Option ConsoleOutput :=
  ofName? (String.ofList ((Text.trim text.toList).map Char.toLower))

def invalidMessage (text : String) : String :=
  s!"invalid logging.console_output '{text}'; supported values are stdout, stderr, none"

end ConsoleOutput

/-- What kind of command runs: one that stays, or one whose standard output is its result. -/
inductive ExecutionContext where
  | service
  | oneShot
deriving DecidableEq, Repr

def ExecutionContext.reservesStdout : ExecutionContext → Bool
  | .service => false
  | .oneShot => true

def ExecutionContext.name : ExecutionContext → String
  | .service => "Service"
  | .oneShot => "OneShot"

/-- The output in use: what is configured, unless standard output is reserved. -/
def ConsoleOutput.select (context : ExecutionContext) (configured : Option ConsoleOutput) :
    ConsoleOutput :=
  match configured with
  | none => .stderr
  | some .stdout => if context.reservesStdout then .stderr else .stdout
  | some output => output

/-- What is decided elsewhere about the log of a run: why a level makes no filter, if it makes none,
and the lines that the filter lets through, as they are written. -/
structure Facility where
  refusal? : (level : String) → Option String
  lines : List String

def Facility.quiet : Facility := ⟨fun _ => none, []⟩

end StylesheetRunner.Logging
