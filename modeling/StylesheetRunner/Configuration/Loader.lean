import StylesheetRunner.Configuration.Format
import StylesheetRunner.Environment
import StylesheetRunner.ErrorReport
import StylesheetRunner.Files.Tree

/-!
Loading settings: the file, if there is one, then the environment, then the check that they can be
used at all.
-/

namespace StylesheetRunner

inductive ConfigurationError where
  | unreadable (path : String) (cause : IoError)
  | malformed (path : String) (cause : String)
  | malformedTable (path : String)
  | zeroTimeout
  | blankLauncher
  | zeroBodyLimit
  | missingTokens
deriving DecidableEq, Repr

def ConfigurationError.report : ConfigurationError → ErrorReport
  | .unreadable path cause => .because s!"failed to read config file {path}" cause.message
  | .malformed path cause => .because s!"failed to parse config file {path}" cause
  | .malformedTable path => ⟨s!"failed to parse config file {path}", none⟩
  | .zeroTimeout => .plain "timeout_ms must be greater than zero"
  | .blankLauncher => .plain "java_bin cannot be empty"
  | .zeroBodyLimit => .plain "max_body_bytes must be greater than zero"
  | .missingTokens => .plain "history.tokens is required when history is enabled"

namespace Configuration

def validate (configuration : Configuration) : Except ConfigurationError Unit :=
  if configuration.timeoutMilliseconds = 0 then .error .zeroTimeout
  else if Text.trim configuration.launcher.toList = [] then .error .blankLauncher
  else if configuration.bodyLimit = 0 then .error .zeroBodyLimit
  else if configuration.history.enabled ∧ configuration.history.tokens.entries = [] then
    .error .missingTokens
  else .ok ()

def equalsIgnoringCase (word : String) (text : List Char) : Bool :=
  text.map Char.toLower = word.toList.map Char.toLower

/-- Settings after the variables of the environment have had their say. A number that cannot be
read changes nothing. -/
def override (configuration : Configuration) (environment : Environment) : Configuration :=
  { configuration with
    classpath := (environment.nonempty? "SAXON_CLASSPATH").getD configuration.classpath
    launcher := (environment.nonempty? "JAVA_BIN").getD configuration.launcher
    port :=
      match environment.text? "PORT" with
      | none => configuration.port
      | some text =>
        match portOfText text with
        | .ok port => port
        | .error _ => configuration.port
    timeoutMilliseconds :=
      match environment.text? "XSLT_TIMEOUT_MS" with
      | none => configuration.timeoutMilliseconds
      | some text =>
        match Text.readNatural Text.wordLimit (Text.trim text.toList) with
        | .ok value => UInt64.ofNat value
        | .error _ => configuration.timeoutMilliseconds
    history :=
      match environment.text? "PLAYGROUND_PRO" with
      | none => configuration.history
      | some text =>
        { configuration.history with
          enabled := equalsIgnoringCase "true" (Text.trim text.toList) } }

def namesTable (path : String) : Bool :=
  match Path.extension? path.toList with
  | some extension => equalsIgnoringCase "toml" extension
  | none => false

def ofFileText (path : String) (bytes : List UInt8) : Except ConfigurationError Configuration :=
  match Text.Utf8.decode? bytes with
  | none => .error (.unreadable path .notUtf8)
  | some characters =>
    if namesTable path then
      match ofTable? characters with
      | some configuration => .ok configuration
      | none => .error (.malformedTable path)
    else
      match read bytes with
      | .ok configuration => .ok configuration
      | .error fault => .error (.malformed path (fault.message bytes))

/-- The settings of a file, if there is one. The written path is seen from a directory. -/
def loadFile (tree : FileTree) (directory : Path) (path : String) :
    Except ConfigurationError (Option Configuration) :=
  if tree.holdsAt directory path.toList then
    match tree.readAt directory path.toList with
    | .error cause => .error (.unreadable path cause)
    | .ok bytes => (ofFileText path bytes).map some
  else .ok none

def load (tree : FileTree) (directory : Path) (path : String) (environment : Environment) :
    Except ConfigurationError Configuration := do
  let held ← loadFile tree directory path
  let configuration := (held.getD default).override environment
  configuration.validate
  pure configuration

end Configuration

end StylesheetRunner
