import StylesheetRunner.Json.Printer
import StylesheetRunner.Text.Utf8

/-!
Requests to the service and its responses.
-/

namespace StylesheetRunner.Http

/-- A request. Names of headers may be in capital or small letters. -/
structure Request where
  method : String
  target : String
  headers : List (String × List UInt8)
  body : List UInt8
deriving DecidableEq, Repr

/-- A response. Names of headers are in small letters. -/
structure Response where
  status : Nat
  headers : List (String × String)
  body : List UInt8
deriving DecidableEq, Repr

def Request.header? (request : Request) (name : String) : Option (List UInt8) :=
  (request.headers.find? fun header => header.1.toLower = name).map Prod.snd

def endsPath (character : Char) : Bool :=
  character = '?' || character = '#'

/-- The part of a target behind its scheme, when it opens with one. -/
def behindScheme? : List Char → Option (List Char)
  | [] => none
  | ':' :: '/' :: '/' :: rest => some rest
  | character :: rest =>
    if character = '/' || endsPath character then none else behindScheme? rest

/-- The path of a request's target, without the query. A target that names a host has its path
behind the host, which is the root where none is written. -/
def Request.path (request : Request) : List Char :=
  let target := request.target.toList
  match behindScheme? target with
  | none => target.takeWhile fun character => !endsPath character
  | some place =>
    let written := place.dropWhile fun character => character ≠ '/' && !endsPath character
    match written.takeWhile fun character => !endsPath character with
    | [] => ['/']
    | path => path

namespace Response

def bare (status : Nat) : Response := ⟨status, [], []⟩

def ofValue (status : Nat) (value : Json.Value) : Response :=
  ⟨status, [("content-type", "application/json")], Text.Utf8.encode value.compact⟩

def error (status : Nat) (message : String) : Response :=
  ofValue status (.object [("error", .text message)])

def plain (status : Nat) (text : String) : Response :=
  ⟨status, [("content-type", "text/plain; charset=utf-8")], Text.Utf8.encode text.toList⟩

def withHeader (response : Response) (name value : String) : Response :=
  { response with
    headers := (response.headers.filter fun header => header.1 ≠ name) ++ [(name, value)] }

def withoutBody (response : Response) : Response :=
  { response with body := [] }

end Response

end StylesheetRunner.Http
