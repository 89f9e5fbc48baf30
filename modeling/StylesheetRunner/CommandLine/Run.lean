import StylesheetRunner.CommandLine.Arguments
import StylesheetRunner.Configuration.Loader
import StylesheetRunner.Http.Service
import StylesheetRunner.Logging.Settings

/-!
A run of the program: it reads its words, sets up the log, loads the settings, and then transforms
once or starts the service.
-/

namespace StylesheetRunner.CommandLine

structure Surroundings where
  files : FileTree
  working : Path
  environment : Environment
  runner : Runner
  circumstances : Circumstances
  refusal? : UInt16 → Option IoError

/-- What a run leaves: its exit code and texts, the files, what was launched, and the service if one
was started. -/
structure Outcome where
  exitCode : Nat
  output : String
  errors : String
  files : FileTree
  launches : List Launch
  service : Option Http.Service

namespace Outcome

def success (output : String) (files : FileTree) : Outcome := ⟨0, output, "", files, [], none⟩

def failure (report : ErrorReport) (files : FileTree) : Outcome :=
  ⟨1, "", report.shown, files, [], none⟩

def rejected (rejection : Rejection) (files : FileTree) : Outcome :=
  if rejection.exitCode = 0 then .success rejection.text files
  else ⟨rejection.exitCode, "", rejection.text, files, [], none⟩

/-- An outcome with the lines of the log in front of its texts, where they go to the console. -/
def behindLog (console : Logging.ConsoleOutput) (lines : List String) (outcome : Outcome) :
    Outcome :=
  match console with
  | .stdout => { outcome with output := String.join lines ++ outcome.output }
  | .stderr => { outcome with errors := String.join lines ++ outcome.errors }
  | .silent => outcome

end Outcome

/-- The directory in which the settings of the log are looked for: that of the service's settings,
or the working directory where their path names none. -/
def settingsDirectory (working : Path) (config : String) : String :=
  match Path.parent? config.toList with
  | none => working.text
  | some [] => working.text
  | some directory => String.ofList directory

/-- Sets up the log of a command: it has an output on the console, and the files change when a log
file is made. -/
def prepareLog (surroundings : Surroundings) (log : Logging.Facility) (command : Command) :
    Except ErrorReport (Logging.ConsoleOutput × FileTree) :=
  let directory := settingsDirectory surroundings.working command.config
  let environment := surroundings.environment
  let loaded := Logging.Settings.load surroundings.files surroundings.working (some directory)
    environment
  match loaded with
  | .error cause => .error cause.report
  | .ok settings =>
    match log.refusal? settings.defaultLevel with
    | some cause => .error (Logging.LoggingError.levelRefused cause).report
    | none =>
      let console := Logging.ConsoleOutput.select command.context settings.consoleOutput
      if settings.fileEnabled then
        let path := settings.logFile (some directory) environment
        match Logging.openLogFile surroundings.files surroundings.working path with
        | .error cause => .error cause.report
        | .ok files => .ok (console, files)
      else .ok (console, surroundings.files)

/-- The settings of a command: those that are loaded, with what the command line says instead,
checked before and after. -/
def configure (surroundings : Surroundings) (files : FileTree) (config : String)
    (port : Option UInt16) (timeout : Option Duration) : Except ErrorReport Configuration := do
  let refuse {α : Type} : Except ConfigurationError α → Except ErrorReport α :=
    Except.mapError ConfigurationError.report
  let loaded ← refuse <|
    Configuration.load files surroundings.working config surroundings.environment
  let configuration := { loaded with
    port := port.getD loaded.port
    timeoutMilliseconds :=
      (timeout.map Duration.cappedMilliseconds).getD loaded.timeoutMilliseconds }
  refuse configuration.validate
  pure configuration

def readStylesheet (surroundings : Surroundings) (files : FileTree) (path : String) :
    Except ErrorReport String :=
  let refuse (cause : IoError) : Except ErrorReport String :=
    .error (.because s!"failed to read stylesheet {path}" cause.message)
  match files.readAt surroundings.working path.toList with
  | .error cause => refuse cause
  | .ok bytes =>
    match Text.Utf8.decode? bytes with
    | none => refuse .notUtf8
    | some characters => .ok (String.ofList characters)

def failureReport (failure : Failure) : ErrorReport :=
  ⟨"transformation failed", some (failure.message :: failure.causes)⟩

def brokenReport : ErrorReport := .plain "transformation failed"

/-- What the arguments ask of a stylesheet. Of parameters with one name the last counts. -/
def TransformArguments.request (arguments : TransformArguments) (stylesheet : String) :
    StylesheetRunner.Request :=
  { Request.blank with
    xslt := stylesheet
    parameters := .ofList arguments.parameters
    trace := arguments.trace }

/-- What a run leaves behind its transformation: the result over several lines, or the failure. -/
def Outcome.ofTransformation (done : Transformation) : Outcome :=
  let told : Outcome :=
    match done.ending with
    | .answered (.ok result) =>
      .success (String.ofList (result.toValue.pretty ++ ['\n'])) done.files
    | .answered (.error failure) => .failure (failureReport failure) done.files
    | .broken => .failure brokenReport done.files
  { told with launches := done.launches }

def runTransform (surroundings : Surroundings) (files : FileTree) (arguments : TransformArguments) :
    Outcome :=
  let asked := do
    let configuration ← configure surroundings files arguments.config none arguments.timeout
    let stylesheet ← readStylesheet surroundings files arguments.stylesheet
    pure (configuration, stylesheet)
  match asked with
  | .error report => .failure report files
  | .ok (configuration, stylesheet) =>
    let transformer := Transformer.ofConfiguration configuration surroundings.runner
    .ofTransformation
      (transformer.transform surroundings.circumstances (arguments.request stylesheet) files)

def runServe (surroundings : Surroundings) (files : FileTree) (arguments : ServeArguments) :
    Outcome :=
  let started := do
    let configuration ←
      configure surroundings files arguments.config arguments.port arguments.timeout
    Http.Service.start configuration surroundings.runner files surroundings.refusal?
  match started with
  | .error report => .failure report files
  | .ok service => { Outcome.success "" files with service := some service }

def runCommand (surroundings : Surroundings) (files : FileTree) : Command → Outcome
  | .serve arguments => runServe surroundings files arguments
  | .transform arguments => runTransform surroundings files arguments

/-- A run of the program. What it logs stands in front of its result or its report. -/
def runLogged (surroundings : Surroundings) (log : Logging.Facility) (words : List String) :
    Outcome :=
  match CommandLine.read words with
  | .error rejection => .rejected rejection surroundings.files
  | .ok command =>
    match prepareLog surroundings log command with
    | .error report => .failure report surroundings.files
    | .ok (console, files) =>
      (runCommand surroundings files command).behindLog console log.lines

def run (surroundings : Surroundings) (words : List String) : Outcome :=
  runLogged surroundings .quiet words

end StylesheetRunner.CommandLine
