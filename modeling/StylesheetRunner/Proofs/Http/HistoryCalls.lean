import StylesheetRunner.Http.Service
import StylesheetRunner.Proofs.History.Calls

/-!
How a request becomes a call of the history. At a place of the history a request of a user either
makes one call, whose answer is the response, or is refused before, and then the response does not
depend on what the history holds. Every other request leaves the history alone.
-/

namespace StylesheetRunner.Http

def Request.user? (request : Request) (tokens : TextMap) : Option String :=
  request.token?.bind (userOfToken? tokens)

def Request.route? (request : Request) : Option Route :=
  Route.ofPath? true request.path

/-- The creation that the body of a user's request asks for, or the response to a body that asks
for none. -/
def asksCreation (limit : Nat) (user : String) (now : Instant) (request : Request) :
    Except Response HistoryCall :=
  if request.holdsTooMuch limit then .error tooLarge
  else
    match HistoryRecord.read request.body with
    | .error fault => .error (.error 400 (fault.message request.body))
    | .ok record => .ok (.create user record now)

def asksDeletion (user : String) (segment : List Char) : Except Response HistoryCall :=
  match identifier segment with
  | .error fault => .error (.plain 400 fault.message)
  | .ok id => .ok (.delete user id)

/-- What a user's request asks at a place of the history: a call, or the response to a request that
is refused before it makes one. -/
def asks (limit : Nat) (user : String) (now : Instant) (route : Route) (request : Request) :
    Except Response HistoryCall :=
  if request.declaresTooMuch limit then .error tooLarge
  else
    match route, request.method with
    | .history, "GET" => .ok (.list user)
    | .history, "HEAD" => .ok (.list user)
    | .history, "POST" => asksCreation limit user now request
    | .historyRow segment, "DELETE" => asksDeletion user segment
    | _, _ => .error (.bare 405)

def call? (limit : Nat) (tokens : TextMap) (now : Instant) (request : Request) :
    Option HistoryCall :=
  match request.route?, request.user? tokens with
  | some route, some user => (asks limit user now route request).toOption
  | _, _ => none

def respond : HistoryAnswer → Response
  | .listed rows => .ofValue 200 (.list (rows.map HistoryRow.toValue))
  | .created row => .ofValue 200 row.toValue
  | .refused _ => historyFailure
  | .deleted true => .bare 204
  | .deleted false => .error 404 "not found"

def finished (request : Request) (response : Response) : Response :=
  if request.method = "HEAD" then (openToAll response).withoutBody else openToAll response

def allowing (route : Route) (request : Request) (response : Response) : Response :=
  if request.method ∈ route.methods then response else response.withHeader "allow" route.allow

/-- The service keeps the rows of a store for the users of some tokens. -/
def State.Keeps (state : State) (tokens : TextMap) (store : HistoryStore) : Prop :=
  state.history = some ⟨.memory store, tokens⟩

section

variable {settings : Settings} {moment : Moment} {route : Route} {request : Request}
  {state : State} {tokens : TextMap} {store : HistoryStore} {user : String}

theorem authenticate_eq_ok (authentic : request.user? tokens = some user)
    (backend : HistoryBackend) :
    authenticate ⟨backend, tokens⟩ request = .ok user := by
  unfold Request.user? at authentic
  obtain ⟨token, shown, led⟩ := Option.bind_eq_some_iff.mp authentic
  simp only [authenticate, shown, led]

theorem authenticate_eq_error (foreign : request.user? tokens = none) (backend : HistoryBackend) :
    ∃ response, authenticate ⟨backend, tokens⟩ request = .error response := by
  unfold Request.user? at foreign
  cases shown : request.token? with
  | none => exact ⟨_, by simp only [authenticate, shown]; rfl⟩
  | some token =>
    have led : userOfToken? tokens token = none := by simpa [shown] using foreign
    exact ⟨_, by simp only [authenticate, shown, led]; rfl⟩

theorem State.Keeps.withBackend (keeps : state.Keeps tokens store) (next : HistoryStore) :
    (state.withBackend (.memory next)).Keeps tokens next := by
  unfold State.Keeps State.withBackend
  rw [keeps]
  rfl

theorem State.Keeps.withBackend_self (keeps : state.Keeps tokens store) :
    state.withBackend (.memory store) = state := by
  unfold State.Keeps at keeps
  cases state
  simp_all [State.withBackend]

def replyTo (state : State) (store : HistoryStore) (call : HistoryCall) : Reply :=
  .only (state.withBackend (.memory (store.perform call).2)) (respond (store.perform call).1)

theorem answerList_eq (keeps : state.Keeps tokens store) :
    answerList ⟨.memory store, tokens⟩ user state = replyTo state store (.list user) := by
  simp only [replyTo, HistoryStore.perform, keeps.withBackend_self]
  rfl

theorem answerCreate_eq (keeps : state.Keeps tokens store) (now : Instant) :
    answerCreate settings ⟨.memory store, tokens⟩ user now request state =
      match asksCreation settings.bodyLimit user now request with
      | .error response => .only state response
      | .ok call => replyTo state store call := by
  unfold answerCreate asksCreation
  split
  · rfl
  · cases HistoryRecord.read request.body with
    | error fault => rfl
    | ok record =>
      simp only [replyTo, HistoryStore.perform, HistoryBackend.create]
      cases store.create user record now with
      | ok made => rfl
      | error error =>
        simp only [keeps.withBackend_self]
        rfl

theorem answerDelete_eq (segment : List Char) :
    answerDelete ⟨.memory store, tokens⟩ user segment state =
      match asksDeletion user segment with
      | .error response => .only state response
      | .ok call => replyTo state store call := by
  unfold answerDelete asksDeletion
  cases identifier segment with
  | error fault => rfl
  | ok id =>
    simp only [replyTo, HistoryStore.perform, HistoryBackend.delete]
    cases (store.delete user id).1 <;> rfl

theorem answerRoute_eq (keeps : state.Keeps tokens store) (history : route.isHistory = true)
    (authentic : request.user? tokens = some user) :
    answerRoute settings moment route request state =
      match asks settings.bodyLimit user moment.now route request with
      | .error response => .only state response
      | .ok call => replyTo state store call := by
  unfold answerRoute asks
  by_cases large : request.declaresTooMuch settings.bodyLimit
  · rw [if_pos large, if_pos large]
  · have held : state.history = some ⟨.memory store, tokens⟩ := keeps
    rw [if_neg large, if_neg large]
    -- Place and method are now split once for both sides.
    simp only [history, held, answerHistory, authenticate_eq_ok authentic]
    generalize request.method = method
    split
    · exact answerList_eq keeps
    · exact answerList_eq keeps
    · exact answerCreate_eq keeps moment.now
    · exact answerDelete_eq _
    next noGet noHead noPost noDelete => simp only

theorem asks_at (limit : Nat) (user : String) (now now' : Instant) (route : Route)
    (request : Request) :
    asks limit user now' route request =
      (asks limit user now route request).map (HistoryCall.at now') := by
  unfold asks
  split
  · rfl
  · split
    next => rfl
    next => rfl
    next =>
      unfold asksCreation
      split
      · rfl
      · cases HistoryRecord.read request.body <;> rfl
    next segment _ =>
      unfold asksDeletion
      cases identifier segment <;> rfl
    next => rfl

theorem call?_at (limit : Nat) (tokens : TextMap) (now now' : Instant) (request : Request) :
    call? limit tokens now' request =
      (call? limit tokens now request).map (HistoryCall.at now') := by
  unfold call?
  cases request.route? with
  | none => rfl
  | some route =>
    cases request.user? tokens with
    | none => rfl
    | some user =>
      simp only [asks_at limit user now now' route request]
      cases asks limit user now route request <;> rfl

theorem call?_eq_some_iff {limit : Nat} {now : Instant} {call : HistoryCall} :
    call? limit tokens now request = some call ↔ ∃ route user, request.route? = some route ∧
      request.user? tokens = some user ∧ asks limit user now route request = .ok call := by
  unfold call?
  cases request.route? with
  | none => simp
  | some route =>
    cases request.user? tokens with
    | none => simp
    | some user =>
      cases asked : asks limit user now route request <;> simp [asked, Except.toOption]

theorem asks_cases {limit : Nat} {now : Instant} {call : HistoryCall}
    (asked : asks limit user now route request = .ok call) :
    (route = .history ∧ (request.method = "GET" ∨ request.method = "HEAD") ∧ call = .list user) ∨
    (route = .history ∧ request.method = "POST" ∧ ∃ record, call = .create user record now) ∨
    (∃ segment id, route = .historyRow segment ∧ request.method = "DELETE" ∧
      identifier segment = .ok id ∧ call = .delete user id) := by
  unfold asks at asked
  split at asked
  · exact nomatch asked
  · split at asked
    next get => exact .inl ⟨rfl, .inl get, (Except.ok.inj asked).symm⟩
    next head => exact .inl ⟨rfl, .inr head, (Except.ok.inj asked).symm⟩
    next post =>
      refine .inr (.inl ⟨rfl, post, ?_⟩)
      unfold asksCreation at asked
      split at asked
      · exact nomatch asked
      · cases content : HistoryRecord.read request.body with
        | error fault => simp [content] at asked
        | ok record => exact ⟨record, by simpa [content, eq_comm] using asked⟩
    next segment delete =>
      refine .inr (.inr ⟨segment, ?_⟩)
      unfold asksDeletion at asked
      cases named : identifier segment with
      | error fault => simp [named] at asked
      | ok id => exact ⟨id, rfl, delete, rfl, by simpa [named, eq_comm] using asked⟩
    next => exact nomatch asked

/-- A request is refused before a call in one of four ways: for a body that is too large or holds no
record, for a path that names no row, or for a method that the place does not have. -/
theorem asks_eq_error {limit : Nat} {now : Instant} {response : Response}
    (refused : asks limit user now route request = .error response) :
    response = tooLarge ∨
    (route = .history ∧ request.method = "POST" ∧
      ∃ fault : Json.Fault, response = .error 400 (fault.message request.body)) ∨
    (∃ segment fault, route = .historyRow segment ∧ identifier segment = .error fault ∧
      request.declaresTooMuch limit = false ∧ response = .plain 400 fault.message) ∨
    ((route.isHistory = true → request.method ∉ route.methods) ∧ response = .bare 405) := by
  unfold asks at refused
  split at refused
  · exact .inl (Except.error.inj refused).symm
  next fits =>
    split at refused
    next => cases refused
    next => cases refused
    next post =>
      unfold asksCreation at refused
      split at refused
      · exact .inl (Except.error.inj refused).symm
      · cases content : HistoryRecord.read request.body with
        | error fault =>
          exact .inr (.inl ⟨rfl, post, fault, by simpa [content, eq_comm] using refused⟩)
        | ok record => simp [content] at refused
    next segment delete =>
      unfold asksDeletion at refused
      cases named : identifier segment with
      | error fault =>
        exact .inr (.inr (.inl ⟨segment, fault, rfl, named, by simpa using fits,
          by simpa [named, eq_comm] using refused⟩))
      | ok id => simp [named] at refused
    next route _ _ no_get no_head no_post no_delete =>
      refine .inr (.inr (.inr ⟨fun history known => ?_, (Except.error.inj refused).symm⟩))
      cases route with
      | health => cases history
      | transform => cases history
      | history =>
        simp only [Route.methods, List.mem_cons, List.not_mem_nil, or_false] at known
        rcases known with get | head | post
        · exact no_get rfl get
        · exact no_head rfl head
        · exact no_post rfl post
      | historyRow segment => exact no_delete segment rfl (List.mem_singleton.mp known)

theorem status_of_asks_eq_error {limit : Nat} {now : Instant} {response : Response}
    (refused : asks limit user now route request = .error response) : response.status ≠ 200 := by
  rcases asks_eq_error refused with rfl | ⟨-, -, fault, rfl⟩ | ⟨_, fault, -, -, -, rfl⟩ | ⟨-, rfl⟩
  · exact (by decide : (413 : Nat) ≠ 200)
  · exact (by decide : (400 : Nat) ≠ 200)
  · exact (by decide : (400 : Nat) ≠ 200)
  · exact (by decide : (405 : Nat) ≠ 200)

theorem answer_of_options (options : request.method = "OPTIONS") :
    answer settings moment request state =
      .only state (finished request (answerOptions request state)) := by
  simp only [answer, finished, options, if_true]
  rfl

theorem answer_of_enabled (enabled : state.history.isSome = true)
    (placed : request.route? = some route) (other : request.method ≠ "OPTIONS") :
    answer settings moment request state =
      let reply := answerRoute settings moment route request state
      { reply with response := finished request (allowing route request reply.response) } := by
  have found : Route.ofPath? state.history.isSome request.path = some route := by
    rw [enabled]
    exact placed
  simp only [answer, if_neg other, answerPlaced, found, finished, allowing]
  by_cases known : request.method ∈ route.methods
  · simp only [if_pos known]
  · simp only [if_neg known]

/-- A request with a method of its place is answered there, and the response opened to all. -/
theorem answer_of_method (placed : Route.ofPath? state.history.isSome request.path = some route)
    (known : request.method ∈ route.methods) (no_options : request.method ≠ "OPTIONS")
    (no_head : request.method ≠ "HEAD") :
    answer settings moment request state =
      let reply := answerRoute settings moment route request state
      { reply with response := openToAll reply.response } := by
  simp only [answer, if_neg no_options, if_neg no_head, answerPlaced, placed, if_pos known]

theorem answer_of_place (keeps : state.Keeps tokens store) (placed : request.route? = some route)
    (other : request.method ≠ "OPTIONS") :
    answer settings moment request state =
      let reply := answerRoute settings moment route request state
      { reply with response := finished request (allowing route request reply.response) } := by
  have held : state.history = some ⟨.memory store, tokens⟩ := keeps
  exact answer_of_enabled (by rw [held]; rfl) placed other

/-- Every call is made by the user of the request, at the history and with a method that the place
has. -/
theorem asks_eq_ok {limit : Nat} {now : Instant} {call : HistoryCall}
    (asked : asks limit user now route request = .ok call) :
    route.isHistory = true ∧ request.method ∈ route.methods ∧ request.method ≠ "OPTIONS" ∧
      call.user = user := by
  rcases asks_cases asked with ⟨rfl, get | head, rfl⟩ | ⟨rfl, post, record, rfl⟩ |
    ⟨segment, id, rfl, delete, -, rfl⟩
  · simp [Route.isHistory, Route.methods, get, HistoryCall.user]
  · simp [Route.isHistory, Route.methods, head, HistoryCall.user]
  · simp [Route.isHistory, Route.methods, post, HistoryCall.user]
  · simp [Route.isHistory, Route.methods, delete, HistoryCall.user]

theorem answer_of_call (keeps : state.Keeps tokens store) {call : HistoryCall}
    (called : call? settings.bodyLimit tokens moment.now request = some call) :
    answer settings moment request state =
      .only (state.withBackend (.memory (store.perform call).2))
        (finished request (respond (store.perform call).1)) := by
  obtain ⟨route, user, placed, authentic, asked⟩ := call?_eq_some_iff.mp called
  obtain ⟨history, known, other, -⟩ := asks_eq_ok asked
  rw [answer_of_place keeps placed other, answerRoute_eq keeps history authentic, asked]
  simp only [replyTo, Reply.only, allowing, if_pos known]

/-- A request of a user that is refused before it makes a call is answered without regard to what
the history holds. -/
theorem answer_of_refused (keeps : state.Keeps tokens store) (placed : request.route? = some route)
    (history : route.isHistory = true) (authentic : request.user? tokens = some user)
    (other : request.method ≠ "OPTIONS") {response : Response}
    (refused : asks settings.bodyLimit user moment.now route request = .error response) :
    answer settings moment request state =
      .only state (finished request (allowing route request response)) := by
  rw [answer_of_place keeps placed other, answerRoute_eq keeps history authentic, refused]
  rfl

theorem state_answerRoute_of_foreign (keeps : state.Keeps tokens store)
    (history : route.isHistory = true) (foreign : request.user? tokens = none) :
    (answerRoute settings moment route request state).state = state := by
  have held : state.history = some ⟨.memory store, tokens⟩ := keeps
  obtain ⟨response, unknown⟩ := authenticate_eq_error foreign (.memory store)
  unfold answerRoute
  split
  · rfl
  · simp only [history, held, answerHistory, unknown]
    rfl

theorem history_answerRoute_of_elsewhere (elsewhere : route.isHistory = false) :
    (answerRoute settings moment route request state).state.history = state.history := by
  unfold answerRoute
  split
  · rfl
  · simp only [elsewhere]
    split
    · rfl
    · rfl
    · unfold answerTransform
      split
      · rfl
      · split <;> rfl
    · rfl

/-- What the history holds after a request: what the call of the request left, if it made one. -/
theorem keeps_answer (keeps : state.Keeps tokens store) :
    (answer settings moment request state).state.Keeps tokens
      (store.after (call? settings.bodyLimit tokens moment.now request)) := by
  cases called : call? settings.bodyLimit tokens moment.now request with
  | some call =>
    rw [answer_of_call keeps called]
    exact keeps.withBackend _
  | none =>
    -- Each way to make no call leaves the state as it is, or at least its history: a question for
    -- options, no such place, a place elsewhere, no user, or a refusal before the call.
    by_cases options : request.method = "OPTIONS"
    · rw [answer_of_options options]
      exact keeps
    · cases placed : request.route? with
      | none =>
        have nowhere : Route.ofPath? state.history.isSome request.path = none := by
          have held : state.history = some ⟨.memory store, tokens⟩ := keeps
          rw [held]
          exact placed
        simp only [answer, if_neg options, answerPlaced, nowhere]
        exact keeps
      | some route =>
        rw [answer_of_place keeps placed options]
        cases history : route.isHistory with
        | false => exact (history_answerRoute_of_elsewhere history).trans keeps
        | true =>
          cases authentic : request.user? tokens with
          | none =>
            rw [state_answerRoute_of_foreign keeps history authentic]
            exact keeps
          | some user =>
            cases asked : asks settings.bodyLimit user moment.now route request with
            | error response =>
              rw [answerRoute_eq keeps history authentic, asked]
              exact keeps
            | ok call =>
              exact absurd (call?_eq_some_iff.mpr ⟨route, user, placed, authentic, asked⟩)
                (by simp [called])

end

end StylesheetRunner.Http
