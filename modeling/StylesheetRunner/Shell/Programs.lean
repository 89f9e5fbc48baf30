import StylesheetRunner.Shell.Programs.Keeping
import StylesheetRunner.Shell.Programs.Testing

/-!
The programs that a script can call. Each takes its arguments and the session and leaves the session
with its status.
-/

namespace StylesheetRunner.Shell.Programs

open Session (inMessage)

def waitTime? (word : List Char) : Option Nat :=
  let (body, unit) :=
    match word.getLast? with
    | some 's' => (word.dropLast, 1)
    | some 'm' => (word.dropLast, 60)
    | some 'h' => (word.dropLast, 3600)
    | some 'd' => (word.dropLast, 86400)
    | _ => (word, 1)
  let (whole, rest) := body.span Char.isDigit
  let decimals := rest.drop 1
  let isWrong := (rest ≠ [] && rest.head? ≠ some '.') || (whole = [] && decimals = []) ||
    decimals.any fun digit => !digit.isDigit
  if isWrong then none
  else
    let kept := decimals.take 3
    let fraction := (numberOf kept).toNat * Nat.pow 10 (3 - kept.length)
    some (((numberOf whole).toNat * 1000 + fraction) * unit)

def sleep (arguments : List (List Char)) (session : Session) : Session :=
  let refuse (reason : String) : Session :=
    let session := session.complain s!"sleep: {reason}"
    (session.complain "Try 'sleep --help' for more information.").finish 1
  match arguments, arguments.find? fun word => (waitTime? word).isNone with
  | [], _ => refuse "missing operand"
  | _, some word => refuse s!"invalid time interval '{inMessage word}'"
  | _, none =>
    let time := arguments.foldl (fun time word => time + (waitTime? word).getD 0) 0
    { session with milliseconds := session.milliseconds + time, status := 0 }

def nothing (_ : List (List Char)) (session : Session) : Session :=
  session.finish 0

def printenv (arguments : List (List Char)) (session : Session) : Session :=
  if arguments = [] then
    let lines := (session.values.filter fun entry => entry.1 ∈ session.exported).map fun entry =>
      entry.1 ++ '=' :: entry.2
    (session.print (ofLines lines true)).finish 0
  else
    arguments.foldl (fun session name =>
      if name ∈ session.exported then
        match session.held? name with
        | some value => session.print (value ++ ['\n'])
        | none => session.finish 1
      else session.finish 1) (session.finish 0)

def table : List (String × (List (List Char) → Session → Session)) :=
  [("echo", echo), ("printf", printf), ("seq", seq), ("yes", yes), ("cat", cat), ("head", head),
    ("tail", tail), ("wc", wc), ("sed", sed), ("grep", grep), ("tr", tr), ("sort", sort),
    ("cut", cut), ("tee", tee), ("ls", ls), ("rm", rm), ("rmdir", rmdir), ("touch", touch),
    ("mkdir", mkdir), ("cp", copy "cp" false), ("mv", copy "mv" true), ("dd", dd),
    ("dirname", dirname), ("basename", basename), ("test", test false), ("[", test true),
    ("expr", expr), ("sleep", sleep), ("printenv", printenv), ("date", nothing), ("sync", nothing),
    ("chmod", nothing), ("true", nothing),
    ("false", fun _ session => session.finish 1)]

def directories : List Path := [["bin"], ["usr", "bin"]]

def nameOf (word : List Char) : String :=
  let path := Path.resolve [] word
  if word.head? = some '/' ∧ path.dropLast ∈ directories then path.getLast?.getD ""
  else String.ofList word

def interpreters : List String := ["sh", "dash", "bash"]

def callers : List String := ["env", "nohup", "setsid"]

/-- What the arguments of such a program say: the variables to be set, and the words of the call. -/
def calledBy (arguments : List (List Char)) : List (List Char × List Char) × List (List Char) :=
  let words := (splitOptions arguments).2
  let settings := words.takeWhile fun word => '=' ∈ word
  (settings.filterMap (Text.splitAtFirst? '='), words.drop settings.length)

def isKnown (word : List Char) : Bool :=
  (table.lookup (nameOf word)).isSome || nameOf word ∈ interpreters || nameOf word ∈ callers

end StylesheetRunner.Shell.Programs
