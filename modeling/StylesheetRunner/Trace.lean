import StylesheetRunner.Text.Lines
import StylesheetRunner.Text.Utf8
import StylesheetRunner.Trace.Entry
import StylesheetRunner.Files.Tree

/-!
What a traced transformation says: named values, on one line or as a block of lines, among lines of
plain text. Debug lines are dropped wherever they stand.
-/

namespace StylesheetRunner

structure Trace where
  entries : List TraceEntry
  transcript : String
deriving DecidableEq, Repr

namespace Trace

def debugMark : List Char := "TRACE_DEBUG".toList

def blockStartMark : List Char := "TRACE_VAR_START|".toList

def blockEndMark : List Char := "TRACE_VAR_END".toList

def valueMark : List Char := "TRACE_VAR|".toList

inductive LineKind where
  | debug
  | blockStart (name : List Char)
  | blockEnd
  /-- A value with its name; nothing where the second bar is missing. -/
  | value (parts : Option (List Char × List Char))
  | plain
deriving DecidableEq, Repr

def LineKind.ofLine (line : List Char) : LineKind :=
  if Text.opensWith debugMark line then .debug
  else
    match Text.withoutOpening? blockStartMark line with
    | some name => .blockStart name
    | none =>
      if Text.opensWith blockEndMark line then .blockEnd
      else
        match Text.withoutOpening? valueMark line with
        | some rest => .value (Text.splitAtFirst? '|' rest)
        | none => .plain

/-- A block that has not ended yet. Its lines are held newest first. -/
structure OpenBlock where
  name : List Char
  lines : List (List Char)
deriving DecidableEq, Repr

/-- A trace as far as it is read. Entries and kept lines are held newest first. -/
structure Reading where
  entries : List TraceEntry
  kept : List (List Char)
  block : Option OpenBlock
deriving DecidableEq, Repr

namespace Reading

def start : Reading := ⟨[], [], none⟩

def addEntry (reading : Reading) (name value : List Char) : Reading :=
  { reading with entries := ⟨String.ofList name, String.ofList value⟩ :: reading.entries }

/-- After one more line. Inside a block every line that is no mark belongs to it. -/
def step (reading : Reading) (line : List Char) : Reading :=
  match LineKind.ofLine line with
  | .debug => reading
  | .blockStart name => { reading with block := some ⟨name, []⟩ }
  | .blockEnd =>
    match reading.block with
    | some block =>
      { reading.addEntry block.name (Text.joinLines block.lines.reverse) with block := none }
    | none => reading
  | kind =>
    match reading.block with
    | some block => { reading with block := some { block with lines := line :: block.lines } }
    | none =>
      match kind with
      | .value (some (name, value)) => reading.addEntry name value
      | .value none => reading
      | _ => { reading with kept := line :: reading.kept }

/-- A text with one more line behind it; an empty text takes the line as it is. -/
def appendLine (text line : List Char) : List Char :=
  if text = [] then line else text ++ '\n' :: line

def transcript (reading : Reading) : List Char :=
  let kept := Text.joinLines reading.kept.reverse
  match reading.block with
  | none => kept
  | some block => block.lines.reverse.foldl appendLine kept

def finish (reading : Reading) : Trace :=
  ⟨reading.entries.reverse, String.ofList reading.transcript⟩

end Reading

def read (text : String) : Trace :=
  ((Text.lines text.toList).foldl Reading.step Reading.start).finish

/-- The text to read a trace from: the trace file if it can be read and holds anything, else the
diagnostics. -/
def source (tree : FileTree) (traceFile : Option Path) (diagnostics : String) : String :=
  match traceFile with
  | none => diagnostics
  | some file =>
    match tree.read file with
    | .ok bytes => if bytes = [] then diagnostics else String.ofList (Text.Utf8.decodeLossy bytes)
    | .error _ => diagnostics

def toValue (trace : Trace) : Json.Value :=
  .object [("entries", .list (trace.entries.map TraceEntry.toValue)),
    ("transcript", .text trace.transcript)]

end Trace

end StylesheetRunner
