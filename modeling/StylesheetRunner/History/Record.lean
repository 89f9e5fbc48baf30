import StylesheetRunner.Json.Printer
import StylesheetRunner.Json.Reader

/-!
What a user keeps in the history: a stylesheet, its parameters, and a note.
-/

namespace StylesheetRunner

structure HistoryRecord where
  xslt : String
  parameters : TextMap
  note : String
deriving DecidableEq, Repr, Inhabited

namespace HistoryRecord

structure Draft where
  xslt : Option String
  parameters : Option TextMap
  note : Option String

def shape : Json.RecordShape Draft HistoryRecord where
  name := "NewTransformation"
  blank := ⟨none, none, none⟩
  slots :=
    [.ofMember "xslt" true Draft.xslt (fun held value => { held with xslt := some value })
      Json.readString,
    .ofMember "parameters" true Draft.parameters
      (fun held value => { held with parameters := some value }) Json.readTextMap,
    .ofMember "note" true Draft.note (fun held value => { held with note := some value })
      Json.readString]
  finish held := .ok ⟨held.xslt.getD "", held.parameters.getD .empty, held.note.getD ""⟩

def read (text : List UInt8) : Except Json.Fault HistoryRecord :=
  Json.readWhole shape.reader text

def members (record : HistoryRecord) : List (String × Json.Value) :=
  [("xslt", .text record.xslt),
    ("parameters", .object (record.parameters.entries.map fun entry => (entry.1, .text entry.2))),
    ("note", .text record.note)]

def toValue (record : HistoryRecord) : Json.Value :=
  .object record.members

end HistoryRecord

end StylesheetRunner
