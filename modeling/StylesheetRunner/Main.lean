import StylesheetRunner.CommandLine.Run
import StylesheetRunner.Process.Machine

/-!
The program: it gathers what a run meets, lets the run take place, and writes down what it leaves.
-/

namespace StylesheetRunner

def variableNames : List String :=
  ["HOME", "SAXON_CLASSPATH", "JAVA_BIN", "PORT", "XSLT_TIMEOUT_MS", "PLAYGROUND_PRO",
    "XSLT_PLAYGROUND_LOG_DIR"]

def consultedPaths (working : Path) (words : List String) : List String :=
  match CommandLine.read words with
  | .error _ => []
  | .ok command =>
    let directory := CommandLine.settingsDirectory working command.config
    let logging := String.ofList (Path.append directory.toList Logging.Settings.fileName.toList)
    let stylesheet :=
      match command with
      | .transform arguments => [arguments.stylesheet]
      | .serve _ => []
    [command.config, logging] ++ stylesheet

def readEnvironment : IO Environment := do
  let mut entries := #[]
  for name in variableNames do
    if let some value := ← IO.getEnv name then
      entries := entries.push (name, Text.Utf8.encode value.toList)
  return ⟨entries.toList⟩

def readNode (path : Path) : IO (Option Node) := do
  match ← (IO.FS.readBinFile path.text).toBaseIO with
  | .ok bytes => return some (.file bytes.toList)
  | .error (.noFileOrDirectory ..) => return none
  | .error _ => return some .directory

def readInto (tree : FileTree) (path : Path) : IO FileTree := do
  let mut tree := tree
  for count in List.range path.length do
    let place := path.take (count + 1)
    if let some node := ← readNode place then
      tree := tree.insert place node
  return tree

def writeNode (path : Path) (node : Node) : IO Unit := do
  match node with
  | .directory => IO.FS.createDirAll path.text
  | .sealed => pure ()
  | .file bytes =>
    IO.FS.createDirAll (Path.text path.dropLast)
    IO.FS.writeBinFile path.text ⟨bytes.toArray⟩

/-- Runs the program. The service needs a network, which is not part of the machine. -/
def runProgram (words : List String) : IO UInt32 := do
  let working := Path.ofText (← IO.currentDir).toString
  let environment ← readEnvironment
  let mut files ← readInto Machine.files working
  for written in consultedPaths working words do
    files ← readInto files (Path.resolve working written.toList)
  let workspace : Path := ["tmp", Workspace.nameStart ++ toString (← IO.rand 100000 999999)]
  let outcome := CommandLine.run
    { files, working, environment
      runner := (Machine.ofEnvironment environment).run
      circumstances := ⟨workspace, ⟨0⟩⟩
      refusal? := fun _ => some (.other "Operation not supported (os error 95)") } words
  for (path, node) in outcome.files.entries do
    unless files.find? path = some node do
      writeNode path node
  IO.print outcome.output
  IO.eprint outcome.errors
  return UInt32.ofNat outcome.exitCode

end StylesheetRunner

def main (words : List String) : IO UInt32 :=
  StylesheetRunner.runProgram words
