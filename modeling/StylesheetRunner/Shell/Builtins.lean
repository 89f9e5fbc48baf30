import StylesheetRunner.Shell.Field
import StylesheetRunner.Shell.Programs

/-!
Commands that change the running script itself: its directory, its variables and arguments, its
options and traps, and what it does next.
-/

namespace StylesheetRunner.Shell.Builtins

open Session (inMessage byteText)

def count? (text : List Char) : Option Nat :=
  if text ≠ [] ∧ text.all Char.isDigit then some (numberOf text).toNat else none

def signals : List (String × String) :=
  [("0", "EXIT"), ("1", "HUP"), ("2", "INT"), ("3", "QUIT"), ("6", "ABRT"), ("9", "KILL"),
    ("10", "USR1"), ("12", "USR2"), ("13", "PIPE"), ("14", "ALRM"), ("15", "TERM")]

def signalName (word : List Char) : List Char :=
  let plain := if ['S', 'I', 'G'].isPrefixOf word then word.drop 3 else word
  match signals.lookup (String.ofList plain) with
  | some name => name.toList
  | none => plain

def cd (arguments : List (List Char)) (session : Session) : Session :=
  let (target, isAnnounced) :=
    match arguments with
    | [] => ((session.held? ['H', 'O', 'M', 'E']).getD [], false)
    | ['-', '-'] :: word :: _ => (word, false)
    | ['-'] :: _ => ((session.held? "OLDPWD".toList).getD [], true)
    | word :: _ => (word, false)
  let path := session.resolve target
  if target = [] then session.finish 0
  else if session.files.isDirectory path then
    let old := byteText session.directory.text
    let moved := { session with directory := path }
    let moved := (moved.assign "OLDPWD".toList old).assign "PWD".toList (byteText path.text)
    (if isAnnounced then moved.print (byteText path.text ++ ['\n']) else moved).finish 0
  else (session.fault s!"cd: can't cd to {inMessage target}").finish 2

def pwd (session : Session) : Session :=
  (session.print (byteText session.directory.text ++ ['\n'])).finish 0

def unescapeLine : List Char → List Char
  | '\\' :: character :: rest => character :: unescapeLine rest
  | ['\\'] => []
  | character :: rest => character :: unescapeLine rest
  | [] => []

def read (arguments : List (List Char)) (session : Session) : Session :=
  let (options, names) := Programs.splitOptions arguments
  let names := if 'p' ∈ options then names.drop 1 else names
  if names = [] then (session.fault "read: arg count").finish 2
  else
    let (line, hasEnd, session) := session.readLine 0
    let line := if 'r' ∈ options then line else unescapeLine line
    let session := (readFields session.separators names line).foldl
      (fun session entry => session.assign entry.1 entry.2) session
    session.finish (if hasEnd then 0 else 1)

def withOptions (isOn : Bool) (letters : List Char) (session : Session) : Session :=
  let held := (session.held? ['-']).getD []
  let others := held.filter fun letter => letter ∉ letters
  session.assign ['-'] (if isOn then others ++ letters else others)

def longOptions : List (String × Char) :=
  [("errexit", 'e'), ("nounset", 'u'), ("noglob", 'f'), ("xtrace", 'x'), ("verbose", 'v')]

def set : List (List Char) → Session → Session
  | [], session => session.finish 0
  | ['-', '-'] :: rest, session => { session with arguments := rest, status := 0 }
  | ['-', 'o'] :: name :: rest, session =>
    set rest (withOptions true (longOptions.lookup (String.ofList name)).toList session)
  | ['+', 'o'] :: name :: rest, session =>
    set rest (withOptions false (longOptions.lookup (String.ofList name)).toList session)
  | ('-' :: letter :: letters) :: rest, session =>
    set rest (withOptions true (letter :: letters) session)
  | ('+' :: letter :: letters) :: rest, session =>
    set rest (withOptions false (letter :: letters) session)
  | arguments, session => { session with arguments := arguments, status := 0 }

def shift (arguments : List (List Char)) (session : Session) : Session :=
  match count? (arguments.head?.getD ['1']) with
  | none => session.abort s!"shift: Illegal number: {inMessage (arguments.head?.getD [])}"
  | some count =>
    if session.arguments.length < count then session.abort "shift: can't shift that many"
    else { session with arguments := session.arguments.drop count, status := 0 }

def unset (arguments : List (List Char)) (session : Session) : Session :=
  let (options, names) := Programs.splitOptions arguments
  let removed :=
    if 'f' ∈ options then
      { session with functions := session.functions.filter fun entry => !names.contains entry.1 }
    else names.foldl Session.unset session
  removed.finish 0

def own (arguments : List (List Char)) (session : Session) : Session :=
  (arguments.foldl (fun session word =>
    let (name, session) :=
      match Text.splitAtFirst? '=' word with
      | some (name, value) => (name, session.assign name value)
      | none => (word, session)
    { session with owned := name :: session.owned }) session).finish 0

/-- Sets the variables that are given with values, and shows them to programs if asked to. -/
def declare (exports : Bool) (arguments : List (List Char)) (session : Session) : Session :=
  (arguments.foldl (fun session word =>
    let (name, session) :=
      match Text.splitAtFirst? '=' word with
      | some (name, value) => (name, session.assign name value)
      | none => (word, session)
    if exports then { session with exported := name :: session.exported } else session)
    session).finish 0

def trap (arguments : List (List Char)) (session : Session) : Session :=
  let without (names : List (List Char)) : List (List Char × List Char) :=
    session.traps.filter fun entry => !names.contains entry.1
  match arguments with
  | [] => session.finish 0
  | ['-', '-'] :: action :: words =>
    let names := words.map signalName
    { session with traps := without names ++ names.map fun name => (name, action), status := 0 }
  | ['-'] :: words => { session with traps := without (words.map signalName), status := 0 }
  | [word] => { session with traps := without [signalName word], status := 0 }
  | action :: words =>
    let names := words.map signalName
    { session with traps := without names ++ names.map fun name => (name, action), status := 0 }

/-- Waits for what was started in the background, and takes the status of what is named. -/
def wait (arguments : List (List Char)) (session : Session) : Session :=
  let status := if arguments = [] then 0 else session.backgroundStatus
  { session with
    milliseconds := max session.milliseconds session.busyUntil
    status := status }

def umask (arguments : List (List Char)) (session : Session) : Session :=
  (if arguments = [] then session.print "0022\n".toList else session).finish 0

def leave (name : String) (arguments : List (List Char)) (session : Session) : Session :=
  let loops (control : Control) : Session :=
    if session.loopDepth = 0 then session.finish 0 else (session.finish 0).leaveBy control
  match arguments.head? with
  | none =>
    match name with
    | "break" => loops (.leaveLoops 1)
    | "continue" => loops (.repeatLoop 1)
    | "return" => session.leaveBy .leaveFunction
    | _ => session.leaveBy .exit
  | some word =>
    match count? word with
    | none => session.abort s!"{name}: Illegal number: {inMessage word}"
    | some count =>
      match name with
      | "break" => loops (.leaveLoops (min count session.loopDepth))
      | "continue" => loops (.repeatLoop (min count session.loopDepth))
      | "return" => (session.finish (count % 256)).leaveBy .leaveFunction
      | _ => (session.finish (count % 256)).leaveBy .exit

def names : List String :=
  [":", ".", "break", "cd", "command", "continue", "eval", "exec", "exit", "export", "kill",
    "local", "pwd", "read", "readonly", "return", "set", "shift", "trap", "type", "umask", "unset",
    "wait"]

/-- The commands whose assignments stay and whose failed redirections end the script. -/
def special : List String :=
  [":", ".", "break", "continue", "eval", "exec", "exit", "export", "readonly", "return", "set",
    "shift", "trap", "unset"]

def programsWithin : List String := ["[", "echo", "false", "printf", "test", "true"]

def tell (words : List (List Char)) (session : Session) : Session :=
  words.foldl (fun session word =>
    let name := String.ofList word
    let say (text : String) : Session := session.print (byteText s!"{inMessage word}{text}\n")
    if session.functions.any fun entry => entry.1 = word then say " is a shell function"
    else if name ∈ special then say " is a special shell builtin"
    else if name ∈ names ∨ name ∈ programsWithin then say " is a shell builtin"
    else if Programs.isKnown word then say s!" is /usr/bin/{inMessage word}"
    else (say ": not found").finish 127) (session.finish 0)

def describe (words : List (List Char)) (session : Session) : Session :=
  words.foldl (fun session word =>
    let name := String.ofList word
    if session.functions.any fun entry => entry.1 = word then session.print (word ++ ['\n'])
    else if name ∈ names ∨ name ∈ programsWithin then session.print (word ++ ['\n'])
    else if Programs.isKnown word then
      session.print ("/usr/bin/".toList ++ word ++ ['\n'])
    else session.finish 127) (session.finish 0)

def run? (name : List Char) (arguments : List (List Char)) : Option (Session → Session) :=
  match String.ofList name with
  | ":" => some fun session => session.finish 0
  | "cd" => some (cd arguments)
  | "pwd" => some pwd
  | "read" => some (read arguments)
  | "set" => some (set arguments)
  | "shift" => some (shift arguments)
  | "unset" => some (unset arguments)
  | "export" => some (declare true arguments)
  | "readonly" => some (declare false arguments)
  | "local" => some (own arguments)
  | "trap" => some (trap arguments)
  | "wait" => some (wait arguments)
  | "umask" => some (umask arguments)
  | "type" => some (tell arguments)
  | "break" => some (leave "break" arguments)
  | "continue" => some (leave "continue" arguments)
  | "return" => some (leave "return" arguments)
  | "exit" => some (leave "exit" arguments)
  | _ => none

end StylesheetRunner.Shell.Builtins
