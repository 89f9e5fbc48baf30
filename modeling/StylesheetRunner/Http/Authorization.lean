import StylesheetRunner.Http.Message
import StylesheetRunner.Text.Blank
import StylesheetRunner.Text.Lines
import StylesheetRunner.TextMap

/-!
Who sends a request: the token of its authorization header, and the user that the token leads to.
-/

namespace StylesheetRunner.Http

def isHeaderByte (byte : UInt8) : Bool :=
  (0x20 ≤ byte && byte < 0x7F) || byte = 0x09

def headerText? (bytes : List UInt8) : Option (List Char) :=
  if bytes.all isHeaderByte then some (bytes.map fun byte => Char.ofNat byte.toNat) else none

/-- The opening of an authorization header that need not be there. -/
def bearerMark : List Char := "Bearer ".toList

def Request.token? (request : Request) : Option String :=
  match request.header? "authorization" with
  | none => none
  | some bytes =>
    match headerText? bytes with
    | none => none
    | some [] => none
    | some value =>
      some (String.ofList (Text.trim ((Text.withoutOpening? bearerMark value).getD value)))

/-- The user that a token leads to. Every entry is looked at, and the last that matches counts. -/
def userOfToken? (tokens : TextMap) (token : String) : Option String :=
  tokens.entries.foldl (fun found entry => if entry.1 = token then some entry.2 else found) none

end StylesheetRunner.Http
