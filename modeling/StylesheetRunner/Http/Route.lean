import StylesheetRunner.Json.Scan
import StylesheetRunner.Text.Lines
import StylesheetRunner.Text.Numeral
import StylesheetRunner.Text.Utf8

/-!
The places of the service: which path leads where, which methods a place has, and how an identifier
is read from a path.
-/

namespace StylesheetRunner.Http

inductive Route where
  | health
  | transform
  | history
  | historyRow (segment : List Char)
deriving DecidableEq, Repr

namespace Route

/-- The place that a path leads to. The places of the history exist only when it is enabled. -/
def ofPath? (historyEnabled : Bool) (path : List Char) : Option Route :=
  if path = "/".toList then some .health
  else if path = "/transform".toList then some .transform
  else if !historyEnabled then none
  else if path = "/history".toList then some .history
  else
    match Text.withoutOpening? "/history/".toList path with
    | some segment =>
      if segment = [] ∨ '/' ∈ segment then none else some (.historyRow segment)
    | none => none

def methods : Route → List String
  | .health => ["GET", "HEAD"]
  | .transform => ["POST"]
  | .history => ["GET", "HEAD", "POST"]
  | .historyRow _ => ["DELETE"]

def allow (route : Route) : String :=
  ",".intercalate route.methods

def isHistory : Route → Bool
  | .history => true
  | .historyRow _ => true
  | _ => false

end Route

/-- The bytes of a path segment in which bytes may be written as a percent sign and two hexadecimal
digits. A percent sign without them stands for itself. -/
def percentDecode : List UInt8 → List UInt8
  | [] => []
  | 0x25 :: first :: second :: rest =>
    match Json.hexDigit? first, Json.hexDigit? second with
    | some high, some low => UInt8.ofNat (high * 16 + low) :: percentDecode rest
    | _, _ => 0x25 :: percentDecode (first :: second :: rest)
  | byte :: rest => byte :: percentDecode rest

inductive SegmentFault where
  | notUtf8
  | notNumeral (text : String)
deriving DecidableEq, Repr

def SegmentFault.message : SegmentFault → String
  | .notUtf8 => "Invalid URL: Invalid UTF-8 in `id`"
  | .notNumeral text => s!"Invalid URL: Cannot parse `{text}` to a `u64`"

def identifier (segment : List Char) : Except SegmentFault UInt64 :=
  match Text.Utf8.decode? (percentDecode (Text.Utf8.encode segment)) with
  | none => .error .notUtf8
  | some text =>
    match Text.readNatural Text.wordLimit text with
    | .ok value => .ok (UInt64.ofNat value)
    | .error _ => .error (.notNumeral (String.ofList text))

end StylesheetRunner.Http
