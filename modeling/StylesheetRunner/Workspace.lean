import StylesheetRunner.Failure
import StylesheetRunner.Files.Tree
import StylesheetRunner.Text.Lines
import StylesheetRunner.Text.Numeral
import StylesheetRunner.Text.Utf8

/-!
The directory that one transformation owns: the places of its files, writing them, and reading the
output that the processor leaves.
-/

namespace StylesheetRunner

structure Workspace where
  directory : Path
deriving DecidableEq, Repr

structure FileWrite where
  role : FileRole
  path : Path
  bytes : List UInt8
deriving DecidableEq, Repr

namespace FileWrite

def perform (write : FileWrite) (tree : FileTree) : Except Failure FileTree :=
  match tree.write write.path write.bytes with
  | .ok tree => .ok tree
  | .error cause => .error (.file write.role cause)

/-- Writes files in order up to the first that cannot be written. The tree shows how far it went. -/
def performAll : List FileWrite → FileTree → Except Failure Unit × FileTree
  | [], tree => (.ok (), tree)
  | write :: rest, tree =>
    match write.perform tree with
    | .ok tree => performAll rest tree
    | .error failure => (.error failure, tree)

end FileWrite

namespace Workspace

def nameStart : String := "xslt"

def inputDocument : String := "<root/>"

def acquire (directory : Path) (tree : FileTree) : Except Failure (Workspace × FileTree) :=
  match tree.makeDirectory directory with
  | .ok tree => .ok (⟨directory⟩, tree)
  | .error cause => .error (.file .workspace cause)

def release (workspace : Workspace) (tree : FileTree) : FileTree :=
  tree.remove workspace.directory

def file (workspace : Workspace) (name : String) : Path :=
  workspace.directory ++ [name]

def programPath (workspace : Workspace) : Path := workspace.file "transform.xsl"

def inputPath (workspace : Workspace) : Path := workspace.file "input.xml"

def outputPath (workspace : Workspace) : Path := workspace.file "result.xml"

def argumentsPath (workspace : Workspace) : Path := workspace.file "args"

def tracePath (workspace : Workspace) : Path := workspace.file "trace.log"

def parameterPath (workspace : Workspace) (index : Nat) : Path :=
  workspace.file ("param_" ++ String.ofList (Text.naturalText index))

def bytesOf (text : String) : List UInt8 :=
  Text.Utf8.encode text.toList

def programWrite (workspace : Workspace) (xslt : String) : FileWrite :=
  ⟨.program, workspace.programPath, bytesOf xslt⟩

def inputWrite (workspace : Workspace) : FileWrite :=
  ⟨.input, workspace.inputPath, bytesOf inputDocument⟩

def parameterWrite (workspace : Workspace) (index : Nat) (value : String) : FileWrite :=
  ⟨.parameter, workspace.parameterPath index, bytesOf value⟩

def argumentsWrite (workspace : Workspace) (arguments : List String) : FileWrite :=
  ⟨.argumentList, workspace.argumentsPath,
    Text.Utf8.encode (Text.joinLines (arguments.map String.toList))⟩

def readOutput (workspace : Workspace) (tree : FileTree) : Except Failure String :=
  match tree.read workspace.outputPath with
  | .ok bytes => .ok (String.ofList (Text.Utf8.decodeLossy bytes))
  | .error cause => .error (.file .output cause)

end Workspace

end StylesheetRunner
