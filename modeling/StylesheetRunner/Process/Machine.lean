import StylesheetRunner.Environment
import StylesheetRunner.Process.Supervision
import StylesheetRunner.Shell.Evaluator
import StylesheetRunner.Transformation

/-!
The machine on which processors are launched: which programs it has, why it refuses to launch one,
and what is seen of a program that runs. Processors are scripts of the shell.
-/

namespace StylesheetRunner

structure Machine where
  values : List (List Char × List Char)

namespace Machine

def searchPath : String := "/usr/local/sbin:/usr/local/bin:/usr/sbin:/usr/bin:/sbin:/bin"

def ofEnvironment (environment : Environment) : Machine where
  values :=
    (environment.entries.map fun entry =>
      (Shell.Session.byteText entry.1, Shell.Session.ofBytes entry.2)) ++
      [(Shell.Session.byteText "PATH", Shell.Session.byteText searchPath)]

def directories : List Path :=
  [["bin"], ["boot"], ["dev"], ["etc"], ["home"], ["lib"], ["media"], ["mnt"], ["opt"],
    ["root"], ["run"], ["sbin"], ["srv"], ["sys"], ["tmp"], ["usr"], ["usr", "bin"], ["usr", "lib"],
    ["usr", "local"], ["usr", "local", "bin"], ["usr", "sbin"], ["usr", "share"], ["var"],
    ["var", "log"], ["var", "tmp"]]

/-- The files that are there before anything is launched; none of them is a program. -/
def plainFiles : List Path :=
  [["dev", "null"], ["dev", "zero"], ["etc", "group"], ["etc", "hostname"], ["etc", "hosts"],
    ["etc", "passwd"], ["etc", "resolv.conf"]]

def files : FileTree :=
  let start := FileTree.empty.insert ["proc"] .sealed
  let tree := directories.foldl (fun tree path => tree.insert path .directory) start
  plainFiles.foldl (fun tree path => tree.insert path (.file [])) tree

/-- Why a command cannot be launched, if it cannot. A name without a slash is looked for among the
programs; a path names a program, or something that is none. -/
def refusal? (command : Command) (tree : FileTree) : Option IoError :=
  let program := Shell.Session.byteText command.program
  let written := command.program.toList
  if (command.program :: command.arguments).any fun text => '\x00' ∈ text.toList then some .nulByte
  else if !tree.isDirectory command.directory then some (tree.absence command.directory)
  else if command.program = "" then some .notFound
  else if written = ['.'] ∨ written = ['.', '.'] then some .permissionDenied
  else if Shell.Programs.isKnown program then none
  else if '/' ∉ written then some (if Path.isTooLong written then .nameTooLong else .notFound)
  else
    match tree.locate command.directory written with
    | .error cause => some cause
    | .ok path => some (if tree.holds path then .permissionDenied else tree.absence path)

def stepLimit : Nat := 200000

def leastTime : Nat := 1

def execute (machine : Machine) (command : Command) (deadline : Nat) (tree : FileTree) :
    Shell.Session :=
  let name := Shell.Session.byteText command.program
  let session : Shell.Session :=
    { files := tree
      directory := command.directory
      name := name
      arguments := []
      values :=
        ("PWD".toList, Shell.Session.byteText command.directory.text) :: machine.values
      functions := []
      streams := [(0, .nothing), (1, .nothing), (2, .diagnostics)]
      inputs := []
      captures := []
      milliseconds := leastTime
      status := 0
      said := []
      heldUntil := 0
      busyUntil := 0
      backgroundStatus := 0
      horizon := deadline
      exported := Shell.Session.byteText "PWD" :: machine.values.map Prod.fst
      owned := []
      loopDepth := 0
      traps := []
      line := 1
      control := .proceed }
  let arguments := command.arguments.map Shell.Session.byteText
  match Shell.Programs.table.lookup (Shell.Programs.nameOf name) with
  | some run => (run arguments session).watched
  | none => Shell.runProgram stepLimit name arguments session

/-- What is seen of a program that ran, in the order of the times. What happens at the same time as
the deadline is seen before it. -/
def events (session : Shell.Session) (deadline : Nat) : List ProcessEvent :=
  let said := session.said.reverse.map fun (time, text) =>
    (time, ProcessEvent.diagnostics (Shell.Session.toBytes text))
  let ending :=
    match session.control with
    | .endless => []
    | .killed => [(session.milliseconds, ProcessEvent.exited false)]
    | _ => [(session.milliseconds, ProcessEvent.exited (session.status = 0))]
  let closing :=
    if ending.isEmpty then []
    else [(max session.milliseconds session.heldUntil, ProcessEvent.diagnosticsClosed)]
  let timed := said ++ ending ++ closing ++ [(deadline, .deadlineReached)]
  (timed.mergeSort fun first second => first.1 ≤ second.1).map Prod.snd

def run (machine : Machine) : Runner := fun command deadline tree =>
  match refusal? command tree with
  | some cause =>
    (.failed (.process s!"failed to launch {command.program}: {cause.message}"), tree)
  | none =>
    let session := machine.execute command deadline.milliseconds tree
    match Supervision.run? (events session deadline.milliseconds) with
    | none => (.failed (.timeout deadline), session.files)
    | some verdict =>
      match verdict.answer deadline with
      | .ok diagnostics =>
        (.finished diagnostics (.ofMilliseconds session.milliseconds), session.files)
      | .error failure => (.failed failure, session.files)

end Machine

end StylesheetRunner
