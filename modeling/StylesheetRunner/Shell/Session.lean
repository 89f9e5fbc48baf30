import StylesheetRunner.Files.Tree
import StylesheetRunner.Shell.Script
import StylesheetRunner.Text.Lines
import StylesheetRunner.Text.Numeral
import StylesheetRunner.Text.Utf8

/-!
A running script: its variables, its streams, the files it works on, the time that has passed, and
what it has said on its diagnostics.
-/

namespace StylesheetRunner.Shell

inductive Stream where
  | nothing
  | input (index : Nat)
  | file (path : Path)
  | diagnostics
  | capture (index : Nat)
  | closed
deriving DecidableEq, Repr

inductive Control where
  | proceed
  | leaveLoops (count : Nat)
  | repeatLoop (count : Nat)
  | leaveFunction
  | exit
  | killed
  | endless
deriving DecidableEq, Repr

/-- A running script. Inputs and captures are numbered from zero; captured text and what was said
are held newest first. -/
structure Session where
  files : FileTree
  directory : Path
  name : List Char
  arguments : List (List Char)
  values : List (List Char × List Char)
  functions : List (List Char × Command)
  streams : List (Nat × Stream)
  inputs : List (List Char)
  captures : List (List (List Char))
  milliseconds : Nat
  status : Nat
  said : List (Nat × List Char)
  /-- Until when other programs keep the diagnostics open. -/
  heldUntil : Nat
  /-- Until when programs started in the background run. -/
  busyUntil : Nat
  backgroundStatus : Nat
  /-- When nobody watches any more. -/
  horizon : Nat
  exported : List (List Char)
  owned : List (List Char)
  loopDepth : Nat
  traps : List (List Char × List Char)
  line : Nat
  control : Control

namespace Session

/-- The bytes of a string, one to a character. -/
def byteText (text : String) : List Char :=
  (Text.Utf8.encode text.toList).map fun byte => Char.ofNat byte.toNat

def ofBytes (bytes : List UInt8) : List Char :=
  bytes.map fun byte => Char.ofNat byte.toNat

def toBytes (text : List Char) : List UInt8 :=
  text.map fun character => UInt8.ofNat character.toNat

def toText (text : List Char) : List Char :=
  Text.Utf8.decodeLossy (toBytes text)

def resolve (session : Session) (text : List Char) : Path :=
  Path.resolve session.directory (toText text)

def stream (session : Session) (number : Nat) : Stream :=
  (session.streams.lookup number).getD .closed

def setStream (session : Session) (number : Nat) (target : Stream) : Session :=
  { session with
    streams := (number, target) :: session.streams.filter fun entry => entry.1 ≠ number }

def finish (session : Session) (status : Nat) : Session :=
  { session with status := status }

def held? (session : Session) (name : List Char) : Option (List Char) :=
  session.values.lookup name

def assign (session : Session) (name value : List Char) : Session :=
  { session with
    values := (name, value) :: session.values.filter fun entry => entry.1 ≠ name }

def unset (session : Session) (name : List Char) : Session :=
  { session with values := session.values.filter fun entry => entry.1 ≠ name }

def restore (session earlier : Session) (name : List Char) : Session :=
  match earlier.held? name with
  | some value => session.assign name value
  | none => session.unset name

def writeTo (session : Session) (target : Stream) (text : List Char) : Session :=
  if text = [] then session
  else
    match target with
    | .file path =>
      match session.files.read path with
      | .ok bytes =>
        match session.files.write path (bytes ++ toBytes text) with
        | .ok files => { session with files := files }
        | .error _ => session
      | .error _ => session
    | .diagnostics => { session with said := (session.milliseconds, text) :: session.said }
    | .capture index =>
      { session with
        captures := session.captures.modify index fun pieces => text :: pieces }
    | _ => session

def write (session : Session) (number : Nat) (text : List Char) : Session :=
  session.writeTo (session.stream number) text

def print (session : Session) (text : List Char) : Session :=
  session.write 1 text

def complain (session : Session) (line : String) : Session :=
  session.write 2 (byteText line ++ ['\n'])

/-- The value of a parameter: a special one, one of the arguments, or a variable. -/
def parameter? (session : Session) (name : List Char) : Option (List Char) :=
  match name with
  | ['#'] => some (Text.naturalText session.arguments.length)
  | ['?'] => some (Text.naturalText session.status)
  | ['$'] => some ownNumber
  | ['-'] => some ((session.held? name).getD [])
  | ['0'] => some session.name
  | ['@'] => if session.arguments = [] then none else some (Text.join [' '] session.arguments)
  | ['*'] => if session.arguments = [] then none else some (Text.join [' '] session.arguments)
  | _ =>
    match (String.ofList name).toNat? with
    | some place => session.arguments[place - 1]?
    | none => session.held? name
where
  ownNumber : List Char := ['4', '2', '1', '7']

def hasOption (session : Session) (letter : Char) : Bool :=
  letter ∈ (session.held? ['-']).getD []

def separators (session : Session) : List Char :=
  (session.held? ['I', 'F', 'S']).getD [' ', '\t', '\n']

def inMessage (text : List Char) : String :=
  String.ofList (toText text)

def fault (session : Session) (message : String) : Session :=
  session.complain s!"{inMessage session.name}: {session.line}: {message}"

def abort (session : Session) (message : String) : Session :=
  { (session.fault message).finish 2 with control := .exit }

def leaveBy (session : Session) (control : Control) : Session :=
  { session with control := control }

def watched (session : Session) : Session :=
  if session.horizon ≤ session.milliseconds ∧ session.control ≠ .killed then
    session.leaveBy .endless
  else session

def proceeds (session : Session) : Bool :=
  session.control = .proceed

/-- The outer session after an inner one that shares its files, its input and its time. -/
def resume (outer inner : Session) : Session :=
  { inner with
    directory := outer.directory
    name := outer.name
    arguments := outer.arguments
    values := outer.values
    functions := outer.functions
    exported := outer.exported
    loopDepth := outer.loopDepth
    owned := outer.owned
    streams := outer.streams
    traps := outer.traps
    line := outer.line
    control :=
      match inner.control with
      | .killed => .killed
      | .endless => .endless
      | _ => .proceed }

def readAll (session : Session) (number : Nat) : List Char × Session :=
  match session.stream number with
  | .input index =>
    ((session.inputs[index]?).getD [], { session with inputs := session.inputs.set index [] })
  | .file path =>
    match session.files.read path with
    | .ok bytes => (ofBytes bytes, session)
    | .error _ => ([], session)
  | _ => ([], session)

def readLine (session : Session) (number : Nat) : List Char × Bool × Session :=
  match session.stream number with
  | .input index =>
    let held := (session.inputs[index]?).getD []
    let (line, rest) := held.span (· ≠ '\n')
    let after := { session with inputs := session.inputs.set index (rest.drop 1) }
    (line, !rest.isEmpty, after)
  | _ => ([], false, session)

def addInput (session : Session) (text : List Char) : Nat × Session :=
  (session.inputs.length, { session with inputs := session.inputs ++ [text] })

def nullPath : Path := ["dev", "null"]

def refusal (cause : IoError) : String :=
  match cause with
  | .notFound => "No such file or directory"
  | .permissionDenied => "Permission denied"
  | .alreadyExists => "File exists"
  | .notADirectory => "Not a directory"
  | .isADirectory => "Is a directory"
  | other => other.message

def redirectionRefusal (isOutput : Bool) (cause : IoError) : String :=
  match cause with
  | .notFound => if isOutput then "Directory nonexistent" else "No such file"
  | other => refusal other

end Session

end StylesheetRunner.Shell
