import StylesheetRunner.CommandLine.Help
import StylesheetRunner.Duration.Reader
import StylesheetRunner.Logging.Console
import StylesheetRunner.Text.Lines
import StylesheetRunner.Text.Similarity

/-!
The command line: which command is asked for, with which options, or why the words make no command.
An option that takes a value is settled when the next option, the next plain word or the end of the
words comes, so faults appear in the order in which options end.
-/

namespace StylesheetRunner.CommandLine

inductive Argument where
  | config
  | port
  | timeout
  | param
  | trace
  | help
  | version
  | stylesheet
deriving DecidableEq, Repr

namespace Argument

/-- The name behind two dashes; the stylesheet has none. -/
def long : Argument → String
  | .config => "config"
  | .port => "port"
  | .timeout => "timeout"
  | .param => "param"
  | .trace => "trace"
  | .help => "help"
  | .version => "version"
  | .stylesheet => ""

def shown : Argument → String
  | .config => "--config <FILE>"
  | .port => "--port <PORT>"
  | .timeout => "--timeout <DURATION>"
  | .param => "--param <NAME=VALUE>"
  | .trace => "--trace"
  | .help => "--help"
  | .version => "--version"
  | .stylesheet => "<XSL_FILE>"

def takesValue : Argument → Bool
  | .config => true
  | .port => true
  | .timeout => true
  | .param => true
  | .stylesheet => true
  | _ => false

end Argument

structure ServeArguments where
  config : String
  port : Option UInt16
  timeout : Option Duration
deriving DecidableEq, Repr

structure TransformArguments where
  stylesheet : String
  parameters : List (String × String)
  trace : Bool
  config : String
  timeout : Option Duration
deriving DecidableEq, Repr

inductive Command where
  | serve (arguments : ServeArguments)
  | transform (arguments : TransformArguments)
deriving DecidableEq, Repr

namespace Command

def context : Command → Logging.ExecutionContext
  | .serve _ => .service
  | .transform _ => .oneShot

def config : Command → String
  | .serve arguments => arguments.config
  | .transform arguments => arguments.config

end Command

inductive ArgumentFault where
  | helpAsked (text : String)
  | versionAsked
  | missingCommand
  | unknownCommand (name : String) (similar : List String)
  | unexpected (word : String) (tips : List String)
  | unexpectedValue (value : String) (argument : Argument)
  | missingValue (argument : Argument)
  | invalidValue (value : String) (argument : Argument) (reason : String)
  | repeated (argument : Argument)
  | missingStylesheet
deriving DecidableEq, Repr

structure Rejection where
  fault : ArgumentFault
  usage : Option String
deriving DecidableEq, Repr

namespace ArgumentFault

def isRequest : ArgumentFault → Bool
  | .helpAsked _ => true
  | .versionAsked => true
  | _ => false

def summary : ArgumentFault → String
  | .helpAsked text => text
  | .versionAsked => Help.version
  | .missingCommand => Help.overview
  | .unknownCommand name _ => s!"unrecognized subcommand '{name}'"
  | .unexpected word _ => s!"unexpected argument '{word}' found"
  | .unexpectedValue value argument =>
    s!"unexpected value '{value}' for '{argument.shown}' found; no more were expected"
  | .missingValue argument =>
    s!"a value is required for '{argument.shown}' but none was supplied"
  | .invalidValue value argument reason =>
    s!"invalid value '{value}' for '{argument.shown}': {reason}"
  | .repeated argument => s!"the argument '{argument.shown}' cannot be used multiple times"
  | .missingStylesheet =>
    s!"the following required arguments were not provided:\n  {Argument.stylesheet.shown}"

def quotedNames (names : List String) : String :=
  ", ".intercalate (names.map fun name => s!"'{name}'")

def tips : ArgumentFault → List String
  | .unknownCommand _ similar =>
    match similar with
    | [] => []
    | [only] => [s!"a similar subcommand exists: '{only}'"]
    | several => [s!"some similar subcommands exist: {quotedNames several}"]
  | .unexpected _ tips => tips
  | _ => []

end ArgumentFault

def Rejection.text (rejection : Rejection) : String :=
  match rejection.fault with
  | .helpAsked text => text
  | .versionAsked => Help.version
  | .missingCommand => Help.overview
  | fault =>
    let tips := fault.tips
    let advice :=
      if tips = [] then ""
      else "\n" ++ String.join (tips.map fun tip => s!"\n  tip: {tip}")
    let usage :=
      match rejection.usage with
      | none => ""
      | some usage => s!"\n\nUsage: {usage}"
    s!"error: {fault.summary}{advice}{usage}\n\nFor more information, try '--help'.\n"

def Rejection.exitCode (rejection : Rejection) : Nat :=
  if rejection.fault.isRequest then 0 else 2

def programName : String := "xslt-playground"

structure Grammar where
  name : String
  options : List Argument
  hasStylesheet : Bool
  shortHelp : String
  longHelp : String
deriving Repr

namespace Grammar

def serve : Grammar where
  name := "serve"
  options := [.config, .port, .timeout, .help]
  hasStylesheet := false
  shortHelp := Help.serveShort
  longHelp := Help.serveLong

def transform : Grammar where
  name := "transform"
  options := [.param, .trace, .config, .timeout, .help]
  hasStylesheet := true
  shortHelp := Help.transformShort
  longHelp := Help.transformLong

def usage (grammar : Grammar) : String :=
  s!"{programName} {grammar.name} [OPTIONS]" ++
    if grammar.hasStylesheet then " " ++ Argument.stylesheet.shown else ""

/-- The usage of a command with the given arguments, and with those that must be there. -/
def usageWith (grammar : Grammar) (used : List Argument) : String :=
  if used = [] then grammar.usage
  else
    let options := (used.filter fun argument => argument ≠ .stylesheet).map Argument.shown
    let positional := if grammar.hasStylesheet then [Argument.stylesheet.shown] else []
    " ".intercalate ([programName, grammar.name] ++ options ++ positional)

end Grammar

def programUsage : String := s!"{programName} <COMMAND>"

def commandNames : List String := ["serve", "transform", "help"]

/-- Splits `NAME=VALUE` at the first equals sign; blanks around the name count for nothing. -/
def splitParameter (text : String) : Except String (String × String) :=
  let invalid : String := s!"invalid parameter '{text}'; expected NAME=VALUE"
  match Text.splitAtFirst? '=' text.toList with
  | none => .error invalid
  | some (name, value) =>
    if Text.trim name = [] then .error invalid
    else .ok (String.ofList (Text.trim name), String.ofList value)

def readPort (text : String) : Except String UInt16 :=
  match Text.readInteger Text.signedLimit text.toList with
  | .error fault => .error fault.message
  | .ok value =>
    if 0 ≤ value ∧ value ≤ Text.portLimit then .ok (UInt16.ofNat value.toNat)
    else .error s!"{value} is not in 0..=65535"

/-- The arguments of a command as far as they are read. An argument waits with its value, or for
it, until it is settled. -/
structure Draft where
  config : Option String
  port : Option UInt16
  timeout : Option Duration
  parameters : List (String × String)
  trace : Bool
  stylesheet : Option String
  settled : List Argument
  waiting : Option (Argument × Option String)
deriving Repr

namespace Draft

def blank : Draft := ⟨none, none, none, [], false, none, [], none⟩

def note (draft : Draft) (argument : Argument) : Draft :=
  if argument ∈ draft.settled then draft
  else { draft with settled := draft.settled ++ [argument] }

def pathValue (argument : Argument) (value : String) : Except Rejection String :=
  if value = "" then .error ⟨.missingValue argument, none⟩ else .ok value

def checkedValue {α : Type} (argument : Argument) (value : String) (read : Except String α) :
    Except Rejection α :=
  match read with
  | .ok result => .ok result
  | .error reason => .error ⟨.invalidValue value argument reason, none⟩

def fill (draft : Draft) (argument : Argument) (value : String) : Except Rejection Draft :=
  match argument with
  | .config => do
    let path ← pathValue argument value
    pure { draft with config := some path }
  | .stylesheet => do
    let path ← pathValue argument value
    pure { draft with stylesheet := some path }
  | .port => do
    let port ← checkedValue argument value (readPort value)
    pure { draft with port := some port }
  | .timeout => do
    let read := (Duration.read value).mapError Duration.ReadFault.message
    let timeout ← checkedValue argument value read
    pure { draft with timeout := some timeout }
  | .param => do
    let parameter ← checkedValue argument value (splitParameter value)
    pure { draft with parameters := draft.parameters ++ [parameter] }
  | _ => .ok draft

/-- Settles the waiting argument. One without a value is refused first, then one that may not be
repeated, and only then is the value looked at. -/
def settle (grammar : Grammar) (draft : Draft) : Except Rejection Draft :=
  match draft.waiting with
  | none => .ok draft
  | some (argument, none) => .error ⟨.missingValue argument, none⟩
  | some (argument, some value) => do
    if argument ∈ draft.settled ∧ argument ≠ .param then
      throw ⟨.repeated argument, some grammar.usage⟩
    let draft ← { draft with waiting := none }.fill argument value
    pure (draft.note argument)

def switch (grammar : Grammar) (draft : Draft) (argument : Argument) (isLong : Bool) :
    Except Rejection Draft := do
  let draft ← draft.settle grammar
  match argument with
  | .help => throw ⟨.helpAsked (if isLong then grammar.longHelp else grammar.shortHelp), none⟩
  | _ =>
    if argument ∈ draft.settled then throw ⟨.repeated argument, some grammar.usage⟩
    else pure ({ draft with trace := true }.note argument)

def plainWordTips (grammar : Grammar) (word : String) : List String :=
  if grammar.hasStylesheet then [s!"to pass '{word}' as a value, use '-- {word}'"] else []

def unknownLong (grammar : Grammar) (draft : Draft) (name : String) : Rejection :=
  let word := "--" ++ name
  let settled :=
    match draft.settle grammar with
    | .ok draft => draft.settled
    | .error _ => draft.settled
  match (Text.Similarity.candidates name (grammar.options.map Argument.long)).getLast? with
  | some similar =>
    let argument := grammar.options.filter fun argument => argument.long = similar
    let used := settled ++ argument.filter fun argument => argument ∉ settled
    ⟨.unexpected word [s!"a similar argument exists: '--{similar}'"],
      some (grammar.usageWith used)⟩
  | none => ⟨.unexpected word (plainWordTips grammar word), some (grammar.usageWith settled)⟩

def takeLong (grammar : Grammar) (draft : Draft) (body : List Char) : Except Rejection Draft :=
  let (name, value) :=
    match Text.splitAtFirst? '=' body with
    | some (name, value) => (String.ofList name, some (String.ofList value))
    | none => (String.ofList body, none)
  match grammar.options.find? fun argument => argument.long = name with
  | none => .error (unknownLong grammar draft name)
  | some argument =>
    if argument.takesValue then do
      let draft ← draft.settle grammar
      match value with
      | some value => settle grammar { draft with waiting := some (argument, some value) }
      | none => pure { draft with waiting := some (argument, none) }
    else
      match value with
      | some value =>
        .error ⟨.unexpectedValue value argument, some (grammar.usageWith draft.settled)⟩
      | none => draft.switch grammar argument true

def takeShort (grammar : Grammar) (draft : Draft) (letter : Char) : Except Rejection Draft :=
  if letter = 'h' then draft.switch grammar .help false
  else
    let word := String.ofList ['-', letter]
    .error ⟨.unexpected word (plainWordTips grammar word), some grammar.usage⟩

def takePlain (grammar : Grammar) (draft : Draft) (word : String) : Except Rejection Draft :=
  let isTaken := draft.stylesheet.isSome ||
    (match draft.waiting with
      | some (.stylesheet, _) => true
      | _ => false)
  if !grammar.hasStylesheet || isTaken then .error ⟨.unexpected word [], some grammar.usage⟩
  else do
    let draft ← draft.settle grammar
    pure { draft with waiting := some (.stylesheet, some word) }

/-- Takes a word; behind a lone pair of dashes every word is plain. -/
def take (grammar : Grammar) (draft : Draft) (word : String) : Except Rejection Draft :=
  match word.toList with
  | '-' :: '-' :: body => draft.takeLong grammar body
  | '-' :: letter :: _ => draft.takeShort grammar letter
  | _ =>
    match draft.waiting with
    | some (argument, none) => .ok { draft with waiting := some (argument, some word) }
    | _ => draft.takePlain grammar word

def takeAll (grammar : Grammar) : (isTrailing : Bool) → Draft → List String → Except Rejection Draft
  | _, draft, [] => draft.settle grammar
  | true, draft, word :: words => do
    let draft ← draft.takePlain grammar word
    takeAll grammar true draft words
  | false, draft, word :: words =>
    if word = "--" then takeAll grammar true draft words
    else do
      let draft ← draft.take grammar word
      takeAll grammar false draft words

end Draft

def defaultConfig : String := "app.config"

def readServe (words : List String) : Except Rejection Command := do
  let draft ← Draft.takeAll .serve false .blank words
  pure (.serve ⟨draft.config.getD defaultConfig, draft.port, draft.timeout⟩)

def readTransform (words : List String) : Except Rejection Command := do
  let draft ← Draft.takeAll .transform false .blank words
  match draft.stylesheet with
  | none =>
    let used := (draft.settled.filter fun argument => argument ≠ .stylesheet) ++ [.stylesheet]
    throw ⟨.missingStylesheet, some (Grammar.transform.usageWith used)⟩
  | some stylesheet =>
    pure (.transform ⟨stylesheet, draft.parameters, draft.trace, draft.config.getD defaultConfig,
      draft.timeout⟩)

def readHelp : List String → Rejection
  | [] => ⟨.helpAsked Help.overview, none⟩
  | ["serve"] => ⟨.helpAsked Help.serveLong, none⟩
  | ["transform"] => ⟨.helpAsked Help.transformLong, none⟩
  | ["help"] => ⟨.helpAsked Help.helpCommand, none⟩
  | "serve" :: name :: _ => ⟨.unknownCommand name [], some Grammar.serve.usage⟩
  | "transform" :: name :: _ => ⟨.unknownCommand name [], some Grammar.transform.usage⟩
  | "help" :: name :: _ => ⟨.unknownCommand name [], some s!"{programName} help [COMMAND]..."⟩
  | name :: _ => ⟨.unknownCommand name [], some programUsage⟩

def unknownCommand (name : String) : Rejection :=
  ⟨.unknownCommand name (Text.Similarity.candidates name commandNames), some programUsage⟩

def readGlobal (body : List Char) : Rejection :=
  let (name, value) :=
    match Text.splitAtFirst? '=' body with
    | some (name, value) => (String.ofList name, some (String.ofList value))
    | none => (String.ofList body, none)
  match [Argument.help, Argument.version].find? fun argument => argument.long = name with
  | some argument =>
    match value with
    | some value => ⟨.unexpectedValue value argument, some programUsage⟩
    | none =>
      if argument = .help then ⟨.helpAsked Help.overview, none⟩ else ⟨.versionAsked, none⟩
  | none =>
    let tips :=
      match (Text.Similarity.candidates name ["help", "version"]).getLast? with
      | some similar => [s!"a similar argument exists: '--{similar}'"]
      | none => []
    ⟨.unexpected ("--" ++ name) tips, some programUsage⟩

def read (words : List String) : Except Rejection Command :=
  match words with
  | [] => .error ⟨.missingCommand, none⟩
  | "serve" :: words => readServe words
  | "transform" :: words => readTransform words
  | "help" :: words => .error (readHelp words)
  | ["--"] => .error ⟨.missingCommand, none⟩
  | "--" :: word :: _ =>
    if word ∈ commandNames then
      .error ⟨.unexpected word
        [s!"subcommand '{word}' exists; to use it, remove the '--' before it"], some programUsage⟩
    else .error (unknownCommand word)
  | word :: _ =>
    match word.toList with
    | '-' :: '-' :: body => .error (readGlobal body)
    | '-' :: letter :: _ =>
      if letter = 'h' then .error ⟨.helpAsked Help.overview, none⟩
      else if letter = 'V' then .error ⟨.versionAsked, none⟩
      else .error ⟨.unexpected (String.ofList ['-', letter]) [], some programUsage⟩
    | _ => .error (unknownCommand word)

end StylesheetRunner.CommandLine
