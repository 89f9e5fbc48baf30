import StylesheetRunner.Duration
import StylesheetRunner.Files.IoError
import StylesheetRunner.Text.Quoted

/-!
Why a transformation fails, and what is said about it: a full message for the operator, a public one
for the client, and a code.
-/

namespace StylesheetRunner

inductive FileRole where
  | workspace
  | program
  | input
  | parameter
  | argumentList
  | output
deriving DecidableEq, Repr

namespace FileRole

def name : FileRole → String
  | .workspace => "workspace"
  | .program => "program"
  | .input => "input"
  | .parameter => "parameter"
  | .argumentList => "argument-list"
  | .output => "output"

def publicMessage : FileRole → String
  | .workspace => "cannot create temp dir"
  | .program => "cannot write xslt"
  | .input => "cannot write input"
  | .parameter => "cannot write parameter"
  | .argumentList => "cannot write args"
  | .output => "cannot read result"

def all : List FileRole := [.workspace, .program, .input, .parameter, .argumentList, .output]

def ofName? (name : String) : Option FileRole :=
  all.find? fun role => role.name = name

end FileRole

inductive Failure where
  | file (role : FileRole) (cause : IoError)
  | invalidParameter (name : String)
  | process (diagnostics : String)
  | timeout (deadline : Duration)
deriving DecidableEq, Repr

namespace Failure

def message : Failure → String
  | .file role cause => s!"{role.name} file I/O failed: {cause.message}"
  | .invalidParameter name => s!"parameter {Text.quoted name} contains a line break"
  | .process diagnostics => s!"XSLT processor failed: {diagnostics}"
  | .timeout deadline => s!"XSLT processor exceeded deadline of {deadline.milliseconds}ms"

def publicMessage : Failure → String
  | .file role _ => role.publicMessage
  | .invalidParameter name =>
    s!"invalid parameter {Text.quoted name}: names and inline values cannot contain line breaks"
  | .process diagnostics => diagnostics
  | .timeout _ => "transformation timeout"

def code : Failure → String
  | .file .. => "XSLT-IO"
  | .invalidParameter _ => "XSLT-PARAM"
  | .process _ => "XSLT-PROCESS"
  | .timeout _ => "XSLT-TIMEOUT"

def causes : Failure → List String
  | .file _ cause => [cause.message]
  | _ => []

end Failure

end StylesheetRunner
