import StylesheetRunner.Environment
import StylesheetRunner.ErrorReport
import StylesheetRunner.Files.Tree
import StylesheetRunner.Logging.Console
import StylesheetRunner.Logging.Directive
import StylesheetRunner.Toml.Decode
import StylesheetRunner.Toml.Reader

/-!
Settings of the log: its file, its level and its console output, from a table file next to the
service's settings and from the environment.
-/

namespace StylesheetRunner.Logging

inductive LoggingError where
  | unreadable (path : String) (cause : IoError)
  | malformedTable (path : String)
  | invalidLevel
  | levelRefused (cause : String)
  | noParent (path : String)
  | directoryRefused (path : String) (cause : IoError)
  | fileRefused (path : String) (cause : IoError)
deriving DecidableEq, Repr

def LoggingError.report : LoggingError → ErrorReport
  | .unreadable path cause => .because s!"failed to read logging config {path}" cause.message
  | .malformedTable path => ⟨s!"failed to parse logging config {path}", none⟩
  | .invalidLevel => .plain "logging.default_level must be a valid tracing directive"
  | .levelRefused cause => .because "failed to configure tracing level" cause
  | .noParent path => .plain s!"log file path {path} has no parent directory"
  | .directoryRefused path cause =>
    .because s!"failed to create log directory {path}" cause.message
  | .fileRefused path cause => .because s!"failed to open log file {path}" cause.message

structure Settings where
  directory : Option String
  defaultLevel : String
  fileEnabled : Bool
  consoleOutput : Option ConsoleOutput
deriving DecidableEq, Repr

namespace Settings

def default : Settings := ⟨none, "info", false, none⟩

def fileName : String := "logging.toml"

/-- The console output of a table file: a name, or a table with the name as its only key and
nothing under it. -/
def consoleOfTable? (value : Toml.Value) : Option ConsoleOutput :=
  match value with
  | .text name => ConsoleOutput.ofName? name
  | _ =>
    match value.asMembers? with
    | some [(name, inner)] =>
      match inner with
      | .list [] => ConsoleOutput.ofName? name
      | .inlined _ [] => ConsoleOutput.ofName? name
      | .table _ _ [] => ConsoleOutput.ofName? name
      | _ => none
    | _ => none

def memberNames : List String := ["log_dir", "default_level", "enable_file", "console_output"]

/-- Settings changed by the section of a table file. A section written as a list must hold all
members but the last. -/
def applySection (settings : Settings) (value : Toml.Value) : Option Settings := do
  let members ← value.asRecord? memberNames
  if value.asMembers?.isNone && members.length < 3 then none
  else
    let directory ← members.decode "log_dir" settings.directory fun held => held.asText?.map some
    let defaultLevel ← members.decode "default_level" settings.defaultLevel Toml.Value.asText?
    let fileEnabled ← members.decode "enable_file" settings.fileEnabled Toml.Value.asBoolean?
    let consoleOutput ← members.decode "console_output" settings.consoleOutput fun held =>
      (consoleOfTable? held).map some
    pure { directory, defaultLevel, fileEnabled, consoleOutput }

def applyFile (settings : Settings) (text : List Char) : Option Settings := do
  let members ← Toml.read text
  members.decode "logging" settings settings.applySection

def override (settings : Settings) (environment : Environment) : Settings :=
  match environment.text? "XSLT_PLAYGROUND_LOG_DIR" with
  | none => settings
  | some directory =>
    if Text.trim directory.toList = [] then settings
    else { settings with directory := some directory, fileEnabled := true }

def loadFile (tree : FileTree) (working : Path) (path : String) (settings : Settings) :
    Except LoggingError Settings :=
  if tree.holdsAt working path.toList then
    match tree.readAt working path.toList with
    | .error cause => .error (.unreadable path cause)
    | .ok bytes =>
      match Text.Utf8.decode? bytes with
      | none => .error (.unreadable path .notUtf8)
      | some text =>
        match settings.applyFile text with
        | some settings => .ok settings
        | none => .error (.malformedTable path)
  else .ok settings

/-- The settings of a directory's table file and the environment, checked. Written paths are seen
from the working directory. -/
def load (tree : FileTree) (working : Path) (directory : Option String)
    (environment : Environment) : Except LoggingError Settings := do
  let held ←
    match directory with
    | none => .ok default
    | some directory =>
      let path := String.ofList (Path.append directory.toList fileName.toList)
      loadFile tree working path default
  let settings := held.override environment
  if Directive.isValid settings.defaultLevel then pure settings else throw .invalidLevel

def home (environment : Environment) : String :=
  match environment.entries.lookup "HOME" with
  | some (byte :: bytes) => String.ofList (Text.Utf8.decodeLossy (byte :: bytes))
  | _ => "/root"

/-- The written path of the log file. A relative directory is seen from the directory of the
settings, or else from the home directory. -/
def logFile (settings : Settings) (directory : Option String) (environment : Environment) :
    String :=
  let base := (home environment).toList
  let place :=
    match settings.directory with
    | none => Path.append (Path.append base ".xslt-playground".toList) "logs".toList
    | some custom =>
      Path.append ((directory.map String.toList).getD base) custom.toList
  String.ofList (Path.append place "xslt-playground.log".toList)

end Settings

def openLogFile (tree : FileTree) (working : Path) (path : String) :
    Except LoggingError FileTree :=
  match Path.parent? path.toList with
  | none => .error (.noParent path)
  | some parent =>
    match tree.makeDirectoriesAt working parent with
    | .error cause => .error (.directoryRefused (String.ofList parent) cause)
    | .ok tree =>
      match tree.touchAt working path.toList with
      | .error cause => .error (.fileRefused path cause)
      | .ok tree => .ok tree

end StylesheetRunner.Logging
