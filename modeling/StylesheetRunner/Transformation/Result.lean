import StylesheetRunner.Trace.Entry

/-!
What a client gets for a successful transformation.
-/

namespace StylesheetRunner

structure Result where
  result : String
  durationMilliseconds : UInt64
  trace : List TraceEntry
  traceText : String
deriving DecidableEq, Repr

namespace Result

structure Draft where
  result : Option String
  durationMilliseconds : Option UInt64
  trace : Option (List TraceEntry)
  traceText : Option String

/-- How a result is read: the trace members may be missing. -/
def shape : Json.RecordShape Draft Result where
  name := "TransformResult"
  blank := ⟨none, none, none, none⟩
  slots :=
    [.ofMember "result" false Draft.result (fun held value => { held with result := some value })
      Json.readString,
    .ofMember "duration_ms" false Draft.durationMilliseconds
      (fun held value => { held with durationMilliseconds := some value }) (Json.readWord64 "u64"),
    .ofMember "trace" true Draft.trace (fun held value => { held with trace := some value })
      (Json.readList TraceEntry.shape.reader),
    .ofMember "trace_text" true Draft.traceText
      (fun held value => { held with traceText := some value }) Json.readString]
  finish held :=
    match held.result, held.durationMilliseconds with
    | none, _ => .error "result"
    | _, none => .error "duration_ms"
    | some result, some duration =>
      .ok ⟨result, duration, held.trace.getD [], held.traceText.getD ""⟩

def read (text : List UInt8) : Except Json.Fault Result :=
  Json.readWhole shape.reader text

/-- A result as a value; empty trace members are left out. -/
def toValue (result : Result) : Json.Value :=
  .object <|
    [("result", .text result.result),
      ("duration_ms", .natural result.durationMilliseconds.toNat)] ++
    (if result.trace = [] then [] else [("trace", .list (result.trace.map TraceEntry.toValue))]) ++
    (if result.traceText = "" then [] else [("trace_text", .text result.traceText)])

end Result

end StylesheetRunner
