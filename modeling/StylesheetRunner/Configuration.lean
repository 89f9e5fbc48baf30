import StylesheetRunner.Duration
import StylesheetRunner.TextMap

/-!
Settings of the service: where it listens, how it launches the processor, its limits, and who may
use the history.
-/

namespace StylesheetRunner

/-- Settings of the history. Tokens lead to users. -/
structure HistorySettings where
  enabled : Bool
  tokens : TextMap
deriving DecidableEq, Repr

structure Processor where
  program : String
  launcherArguments : List String
  classpath : String
  entryPoint : String
deriving DecidableEq, Repr

structure Configuration where
  port : UInt16
  classpath : String
  launcher : String
  launcherArguments : List String
  entryPoint : String
  timeoutMilliseconds : UInt64
  bodyLimit : UInt64
  history : HistorySettings
deriving DecidableEq, Repr

namespace Configuration

def default : Configuration where
  port := 8080
  classpath := ""
  launcher := "java"
  launcherArguments := []
  entryPoint := "com.xsltplayground.Runner"
  timeoutMilliseconds := 10000
  bodyLimit := 10485760
  history := ⟨false, .empty⟩

def deadline (configuration : Configuration) : Duration :=
  .ofMilliseconds configuration.timeoutMilliseconds.toNat

def processor (configuration : Configuration) : Processor where
  program := configuration.launcher
  launcherArguments := configuration.launcherArguments
  classpath := configuration.classpath
  entryPoint := configuration.entryPoint

end Configuration

end StylesheetRunner
