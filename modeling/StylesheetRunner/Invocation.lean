import StylesheetRunner.Configuration
import StylesheetRunner.Parameter
import StylesheetRunner.Transformation.Request
import StylesheetRunner.Workspace

/-!
How the processor is invoked for a request: the files it finds, the arguments it reads from one of
them, and the command that starts it.
-/

namespace StylesheetRunner

structure Command where
  program : String
  arguments : List String
  directory : Path
deriving DecidableEq, Repr

structure Invocation where
  arguments : List String
  argumentsFile : Path
  outputFile : Path
  traceFile : Option Path
  command : Command
deriving DecidableEq, Repr

namespace Invocation

/-- Refuses the first parameter, in ascending order of names, whose argument line would break. -/
def checkParameters : List (String × String) → Except Failure Unit
  | [] => .ok ()
  | (name, value) :: rest =>
    match Parameter.check name value with
    | .ok () => checkParameters rest
    | .error failure => .error failure

def baseArguments (processor : Processor) (workspace : Workspace) : List String :=
  ["-cp", processor.classpath, processor.entryPoint,
    "-s:" ++ workspace.inputPath.text,
    "-xsl:" ++ workspace.programPath.text,
    "-o:" ++ workspace.outputPath.text]

def traceArguments (workspace : Workspace) : List String :=
  ["-trace", "-traceout:" ++ workspace.tracePath.text, "-T"]

/-- The argument lines of the parameters, the first of which has the given index. -/
def bindings (workspace : Workspace) : (index : Nat) → List (String × String) → List String
  | _, [] => []
  | index, (name, value) :: rest =>
    Parameter.binding name value (workspace.parameterPath index).text ::
      bindings workspace (index + 1) rest

def parameterWrites (workspace : Workspace) :
    (index : Nat) → List (String × String) → List FileWrite
  | _, [] => []
  | index, (_, value) :: rest =>
    workspace.parameterWrite index value :: parameterWrites workspace (index + 1) rest

def argumentsOf (processor : Processor) (workspace : Workspace) (request : Request) :
    List String :=
  baseArguments processor workspace ++
    (if request.trace then traceArguments workspace else []) ++
    bindings workspace 0 request.parameters.entries

def ofRequest (processor : Processor) (workspace : Workspace) (request : Request) :
    Invocation where
  arguments := argumentsOf processor workspace request
  argumentsFile := workspace.argumentsPath
  outputFile := workspace.outputPath
  traceFile := if request.trace then some workspace.tracePath else none
  command :=
    { program := processor.program
      arguments := processor.launcherArguments ++ ["@" ++ workspace.argumentsPath.text]
      directory := workspace.directory }

def writes (processor : Processor) (workspace : Workspace) (request : Request) :
    List FileWrite :=
  [workspace.programWrite request.xslt, workspace.inputWrite] ++
    parameterWrites workspace 0 request.parameters.entries ++
    [workspace.argumentsWrite (argumentsOf processor workspace request)]

/-- Checks the parameters of a request and writes its files. The tree shows how far it went. -/
def build (processor : Processor) (workspace : Workspace) (request : Request) (tree : FileTree) :
    Except Failure Invocation × FileTree :=
  match checkParameters request.parameters.entries with
  | .error failure => (.error failure, tree)
  | .ok () =>
    match FileWrite.performAll (writes processor workspace request) tree with
    | (.error failure, tree) => (.error failure, tree)
    | (.ok (), tree) => (.ok (ofRequest processor workspace request), tree)

end Invocation

end StylesheetRunner
