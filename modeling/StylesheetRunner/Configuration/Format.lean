import StylesheetRunner.Configuration
import StylesheetRunner.Json.Printer
import StylesheetRunner.Json.Reader
import StylesheetRunner.Text.Blank
import StylesheetRunner.Toml.Decode
import StylesheetRunner.Toml.Reader

/-!
The two written forms of settings. Every member may be missing; the port may be a number or a text.
-/

namespace StylesheetRunner

namespace HistorySettings

def default : HistorySettings := ⟨false, .empty⟩

structure Draft where
  enabled : Option Bool
  tokens : Option TextMap

def shape : Json.RecordShape Draft HistorySettings where
  name := "HistoryConfig"
  blank := ⟨none, none⟩
  slots :=
    [.ofMember "enabled" true Draft.enabled (fun held value => { held with enabled := some value })
      Json.readBoolean,
    .ofMember "tokens" true Draft.tokens (fun held value => { held with tokens := some value })
      Json.readTextMap]
  finish held := .ok ⟨held.enabled.getD false, held.tokens.getD .empty⟩

def toValue (settings : HistorySettings) : Json.Value :=
  .object [("enabled", .boolean settings.enabled),
    ("tokens", .object (settings.tokens.entries.map fun entry => (entry.1, .text entry.2)))]

def ofTable? (value : Toml.Value) : Option HistorySettings := do
  let members ← value.asRecord? ["enabled", "tokens"]
  let enabled ← members.decode "enabled" false Toml.Value.asBoolean?
  let tokens ← members.decode "tokens" .empty Toml.Value.asTextMap?
  pure ⟨enabled, tokens⟩

end HistorySettings

namespace Configuration

/-- The port that a text names. Blanks at its ends count for nothing. -/
def portOfText (text : String) : Except Text.NumeralFault UInt16 :=
  (Text.readNatural Text.portLimit (Text.trim text.toList)).map UInt16.ofNat

def innerDepth : Nat := 127

def readPort : Json.Reader UInt16 := fun bytes =>
  match Json.readUntyped innerDepth bytes with
  | .error fault => .error fault
  | .ok (.natural value, rest) =>
    if value ≤ Text.portLimit then .ok (UInt16.ofNat value, rest)
    else .error (.unplaced (.noVariant "Port") rest)
  | .ok (.text characters, rest) =>
    match portOfText characters with
    | .ok port => .ok (port, rest)
    | .error fault => .error (.unplaced (.numeral fault) rest)
  | .ok (.other, rest) => .error (.unplaced (.noVariant "Port") rest)

structure Draft where
  port : Option UInt16
  classpath : Option String
  launcher : Option String
  launcherArguments : Option (List String)
  entryPoint : Option String
  timeoutMilliseconds : Option UInt64
  bodyLimit : Option UInt64
  history : Option HistorySettings

/-- The settings of a draft; what is missing takes its default. -/
def Draft.complete (held : Draft) : Configuration where
  port := held.port.getD default.port
  classpath := held.classpath.getD default.classpath
  launcher := held.launcher.getD default.launcher
  launcherArguments := held.launcherArguments.getD default.launcherArguments
  entryPoint := held.entryPoint.getD default.entryPoint
  timeoutMilliseconds := held.timeoutMilliseconds.getD default.timeoutMilliseconds
  bodyLimit := held.bodyLimit.getD default.bodyLimit
  history := held.history.getD default.history

def shape : Json.RecordShape Draft Configuration where
  name := "AppConfig"
  blank := ⟨none, none, none, none, none, none, none, none⟩
  slots :=
    [.ofMember "port" true Draft.port (fun held value => { held with port := some value }) readPort,
    .ofMember "saxon_classpath" true Draft.classpath
      (fun held value => { held with classpath := some value }) Json.readString,
    .ofMember "java_bin" true Draft.launcher
      (fun held value => { held with launcher := some value }) Json.readString,
    .ofMember "launcher_args" true Draft.launcherArguments
      (fun held value => { held with launcherArguments := some value })
      (Json.readList Json.readString),
    .ofMember "entry_point" true Draft.entryPoint
      (fun held value => { held with entryPoint := some value }) Json.readString,
    .ofMember "timeout_ms" true Draft.timeoutMilliseconds
      (fun held value => { held with timeoutMilliseconds := some value }) (Json.readWord64 "u64"),
    .ofMember "max_body_bytes" true Draft.bodyLimit
      (fun held value => { held with bodyLimit := some value }) (Json.readWord64 "usize"),
    .ofMember "history" true Draft.history
      (fun held value => { held with history := some value }) HistorySettings.shape.reader]
  finish held := .ok held.complete

def read (text : List UInt8) : Except Json.Fault Configuration :=
  Json.readWhole shape.reader text

def toValue (configuration : Configuration) : Json.Value :=
  .object
    [("port", .natural configuration.port.toNat),
      ("saxon_classpath", .text configuration.classpath),
      ("java_bin", .text configuration.launcher),
      ("launcher_args", .list (configuration.launcherArguments.map .text)),
      ("entry_point", .text configuration.entryPoint),
      ("timeout_ms", .natural configuration.timeoutMilliseconds.toNat),
      ("max_body_bytes", .natural configuration.bodyLimit.toNat),
      ("history", configuration.history.toValue)]

def portOfTable? : Toml.Value → Option UInt16
  | .integer number =>
    if 0 ≤ number ∧ number ≤ Text.portLimit then some (UInt16.ofNat number.toNat) else none
  | .text characters => (portOfText characters).toOption
  | _ => none

def wordOfTable? (value : Toml.Value) : Option UInt64 :=
  value.asNatural?.map UInt64.ofNat

def ofTable? (text : List Char) : Option Configuration := do
  let members ← Toml.read text
  let port ← members.decode "port" default.port portOfTable?
  let classpath ← members.decode "saxon_classpath" default.classpath Toml.Value.asText?
  let launcher ← members.decode "java_bin" default.launcher Toml.Value.asText?
  let launcherArguments ←
    members.decode "launcher_args" default.launcherArguments Toml.Value.asTexts?
  let entryPoint ← members.decode "entry_point" default.entryPoint Toml.Value.asText?
  let timeoutMilliseconds ← members.decode "timeout_ms" default.timeoutMilliseconds wordOfTable?
  let bodyLimit ← members.decode "max_body_bytes" default.bodyLimit wordOfTable?
  let history ← members.decode "history" default.history HistorySettings.ofTable?
  pure { port, classpath, launcher, launcherArguments, entryPoint, timeoutMilliseconds, bodyLimit,
         history }

end Configuration

end StylesheetRunner
