import StylesheetRunner.Json.Printer
import StylesheetRunner.Json.Reader

/-!
What a client asks for: a stylesheet, its parameters, and whether to trace it.
-/

namespace StylesheetRunner

/-- A request for one transformation. The version is kept for the client and has no effect. -/
structure Request where
  xslt : String
  version : Option String
  parameters : TextMap
  trace : Bool
deriving DecidableEq, Repr

namespace Request

def blank : Request := ⟨"", none, .empty, false⟩

structure Draft where
  xslt : Option String
  version : Option (Option String)
  parameters : Option TextMap
  trace : Option Bool

def shape : Json.RecordShape Draft Request where
  name := "TransformRequest"
  blank := ⟨none, none, none, none⟩
  slots :=
    [.ofMember "xslt" true Draft.xslt (fun held value => { held with xslt := some value })
      Json.readString,
    .ofMember "version" true Draft.version (fun held value => { held with version := some value })
      (Json.readOptional Json.readString),
    .ofMember "parameters" true Draft.parameters
      (fun held value => { held with parameters := some value }) Json.readTextMap,
    .ofMember "trace" true Draft.trace (fun held value => { held with trace := some value })
      Json.readBoolean]
  finish held := .ok
    { xslt := held.xslt.getD blank.xslt
      version := held.version.getD blank.version
      parameters := held.parameters.getD blank.parameters
      trace := held.trace.getD blank.trace }

def read (text : List UInt8) : Except Json.Fault Request :=
  Json.readWhole shape.reader text

/-- A request as a value; an absent version is left out. -/
def toValue (request : Request) : Json.Value :=
  .object <|
    [("xslt", .text request.xslt)] ++
    (request.version.toList.map fun version => ("version", .text version)) ++
    [("parameters", .object (request.parameters.entries.map fun entry => (entry.1, .text entry.2))),
      ("trace", .boolean request.trace)]

end Request

end StylesheetRunner
