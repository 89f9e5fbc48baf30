import StylesheetRunner.Json.Printer
import StylesheetRunner.Json.Reader

/-!
Values that a traced transformation reports.
-/

namespace StylesheetRunner

structure TraceEntry where
  name : String
  value : String
deriving DecidableEq, Repr

namespace TraceEntry

structure Draft where
  name : Option String
  value : Option String

/-- How an entry is read: both members must be there. -/
def shape : Json.RecordShape Draft TraceEntry where
  name := "TraceEntry"
  blank := ⟨none, none⟩
  slots :=
    [.ofMember "name" false Draft.name (fun held value => { held with name := some value })
      Json.readString,
    .ofMember "value" false Draft.value (fun held value => { held with value := some value })
      Json.readString]
  finish held :=
    match held.name, held.value with
    | none, _ => .error "name"
    | _, none => .error "value"
    | some name, some value => .ok ⟨name, value⟩

def toValue (entry : TraceEntry) : Json.Value :=
  .object [("name", .text entry.name), ("value", .text entry.value)]

end TraceEntry

end StylesheetRunner
