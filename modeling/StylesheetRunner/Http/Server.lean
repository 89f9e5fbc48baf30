import StylesheetRunner.History
import StylesheetRunner.Http.Authorization
import StylesheetRunner.Http.Route
import StylesheetRunner.Transformation

/-!
The service: it transforms on request and keeps the history of users who show a token. Requests are
answered one after the other, each in the state that the one before left.
-/

namespace StylesheetRunner.Http

inductive HistoryBackend where
  | memory (store : HistoryStore)
  /-- A store that refuses every call. -/
  | unavailable
deriving DecidableEq, Repr

namespace HistoryBackend

def list (user : String) : HistoryBackend → Except HistoryError (List HistoryRow)
  | .memory store => .ok (store.list user)
  | .unavailable => .error .unavailable

def create (user : String) (record : HistoryRecord) (now : Instant) :
    HistoryBackend → Except HistoryError (HistoryRow × HistoryBackend)
  | .memory store => (store.create user record now).map fun made => (made.1, .memory made.2)
  | .unavailable => .error .unavailable

def delete (user : String) (id : UInt64) :
    HistoryBackend → Except HistoryError (Bool × HistoryBackend)
  | .memory store =>
    let (found, store) := store.delete user id
    .ok (found, .memory store)
  | .unavailable => .error .unavailable

end HistoryBackend

/-- The history of a service: its rows and the tokens of its users. -/
structure HistoryService where
  backend : HistoryBackend
  tokens : TextMap

structure Settings where
  transformer : Transformer
  bodyLimit : Nat

structure State where
  history : Option HistoryService
  files : FileTree

/-- What a request meets: the place and the preparation of a workspace, and the time. -/
structure Moment where
  circumstances : Circumstances
  now : Instant

structure Reply where
  response : Response
  state : State
  launches : List Launch

namespace Settings

def ofConfiguration (configuration : Configuration) (runner : Runner) : Settings :=
  ⟨.ofConfiguration configuration runner, configuration.bodyLimit.toNat⟩

end Settings

namespace State

def ofConfiguration (configuration : Configuration) (files : FileTree) : State where
  history :=
    if configuration.history.enabled then
      some ⟨.memory .empty, configuration.history.tokens⟩
    else none
  files := files

def withBackend (state : State) (backend : HistoryBackend) : State :=
  { state with history := state.history.map fun service => { service with backend := backend } }

end State

def Reply.only (state : State) (response : Response) : Reply := ⟨response, state, []⟩

def failureResponse (failure : Failure) : Response :=
  let status :=
    match failure with
    | .file .. => 500
    | .invalidParameter _ => 400
    | .process _ => 400
    | .timeout _ => 408
  .error status failure.publicMessage

def tooLarge : Response := .error 413 "payload too large"

def historyFailure : Response := .error 500 "db error"

def Request.declaredLength? (request : Request) : Option Nat :=
  match request.header? "content-length" with
  | none => none
  | some bytes =>
    match headerText? bytes with
    | none => none
    | some text => (Text.readNatural Text.wordLimit text).toOption

def Request.declaresTooMuch (request : Request) (limit : Nat) : Bool :=
  match request.declaredLength? with
  | some length => limit < length
  | none => false

/-- Whether a body is larger than the limit or than its declared length. -/
def Request.holdsTooMuch (request : Request) (limit : Nat) : Bool :=
  min limit (request.declaredLength?.getD limit) < request.body.length

def answerTransform (settings : Settings) (moment : Moment) (request : Request) (state : State) :
    Reply :=
  if request.holdsTooMuch settings.bodyLimit then .only state tooLarge
  else
    match StylesheetRunner.Request.read request.body with
    | .error fault => .only state (.error 400 (fault.message request.body))
    | .ok asked =>
      let done := settings.transformer.transform moment.circumstances asked state.files
      let response :=
        match done.ending with
        | .broken => .error 500 "internal server error"
        | .answered (.ok result) => .ofValue 200 result.toValue
        | .answered (.error failure) => failureResponse failure
      ⟨response, { state with files := done.files }, done.launches⟩

def answerList (service : HistoryService) (user : String) (state : State) : Reply :=
  match service.backend.list user with
  | .ok rows => .only state (.ofValue 200 (.list (rows.map HistoryRow.toValue)))
  | .error _ => .only state historyFailure

def answerCreate (settings : Settings) (service : HistoryService) (user : String) (now : Instant)
    (request : Request) (state : State) : Reply :=
  if request.holdsTooMuch settings.bodyLimit then .only state tooLarge
  else
    match HistoryRecord.read request.body with
    | .error fault => .only state (.error 400 (fault.message request.body))
    | .ok record =>
      match service.backend.create user record now with
      | .ok (row, backend) => .only (state.withBackend backend) (.ofValue 200 row.toValue)
      | .error _ => .only state historyFailure

def answerDelete (service : HistoryService) (user : String) (segment : List Char)
    (state : State) : Reply :=
  match identifier segment with
  | .error fault => .only state (.plain 400 fault.message)
  | .ok id =>
    match service.backend.delete user id with
    | .ok (true, backend) => .only (state.withBackend backend) (.bare 204)
    | .ok (false, backend) => .only (state.withBackend backend) (.error 404 "not found")
    | .error _ => .only state historyFailure

def authenticate (service : HistoryService) (request : Request) : Except Response String :=
  match request.token? with
  | none => .error (.error 401 "missing authorization")
  | some token =>
    match userOfToken? service.tokens token with
    | none => .error (.error 401 "invalid token")
    | some user => .ok user

def answerHistory (settings : Settings) (service : HistoryService) (moment : Moment)
    (route : Route) (request : Request) (state : State) : Reply :=
  match authenticate service request with
  | .error response => .only state response
  | .ok user =>
    match route, request.method with
    | .history, "GET" => answerList service user state
    | .history, "HEAD" => answerList service user state
    | .history, "POST" => answerCreate settings service user moment.now request state
    | .historyRow segment, "DELETE" => answerDelete service user segment state
    | _, _ => .only state (.bare 405)

def answerRoute (settings : Settings) (moment : Moment) (route : Route) (request : Request)
    (state : State) : Reply :=
  if request.declaresTooMuch settings.bodyLimit then .only state tooLarge
  else
    match route.isHistory, state.history with
    | true, some service => answerHistory settings service moment route request state
    | true, none => .only state (.bare 404)
    | false, _ =>
      match route, request.method with
      | .health, "GET" => .only state (.ofValue 200 (.object [("status", .text "ok")]))
      | .health, "HEAD" => .only state (.ofValue 200 (.object [("status", .text "ok")]))
      | .transform, "POST" => answerTransform settings moment request state
      | _, _ => .only state (.bare 405)

/-- Answers a request at its place, if it has one, and names the methods of the place to a request
with another method. -/
def answerPlaced (settings : Settings) (moment : Moment) (request : Request) (state : State) :
    Reply :=
  match Route.ofPath? state.history.isSome request.path with
  | none =>
    .only state (if request.declaresTooMuch settings.bodyLimit then tooLarge else .bare 404)
  | some route =>
    let reply := answerRoute settings moment route request state
    if request.method ∈ route.methods then reply
    else { reply with response := reply.response.withHeader "allow" route.allow }

def answerOptions (request : Request) (state : State) : Response :=
  let bare := (Response.bare 200)
    |>.withHeader "access-control-allow-methods" "GET,POST,PUT,DELETE,OPTIONS"
    |>.withHeader "access-control-allow-headers" "authorization,content-type"
  match Route.ofPath? state.history.isSome request.path with
  | none => bare
  | some route => bare.withHeader "allow" route.allow

def openToAll (response : Response) : Response :=
  response.withHeader "access-control-allow-origin" "*"
    |>.withHeader "vary" "origin, access-control-request-method, access-control-request-headers"

def answer (settings : Settings) (moment : Moment) (request : Request) (state : State) : Reply :=
  let reply :=
    if request.method = "OPTIONS" then .only state (answerOptions request state)
    else answerPlaced settings moment request state
  let response := openToAll reply.response
  { reply with response := if request.method = "HEAD" then response.withoutBody else response }

end StylesheetRunner.Http
