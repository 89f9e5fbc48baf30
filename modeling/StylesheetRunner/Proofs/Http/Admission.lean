import StylesheetRunner.Proofs.Http.Answers
import StylesheetRunner.Proofs.Http.RowPaths
import StylesheetRunner.Proofs.Http.Tokens
import StylesheetRunner.Proofs.Records.Bodies

/-!
The gate before the history. Only a request that shows a key of the table gets as far as a call, and
the call is made for the user of that key. Any other request is answered without a look at the rows,
which shows in that its response is the same whatever the history holds.
-/

namespace StylesheetRunner.Http

def HistoryBackend.perform (backend : HistoryBackend) (call : HistoryCall) :
    HistoryAnswer × HistoryBackend :=
  match backend with
  | .memory store => ((store.perform call).1, .memory (store.perform call).2)
  | .unavailable => (.refused .unavailable, .unavailable)

/-- The calls that a request makes for a user. Place and method ask for one; a creation needs a body
that can be read and says a record, a deletion needs a path that names an identifier. -/
inductive Request.Makes (request : Request) (limit : Nat) (now : Instant) (user : String) :
    HistoryCall → Prop
  | list (fits : request.declaresTooMuch limit = false) (place : request.route? = some .history)
      (method : request.method = "GET" ∨ request.method = "HEAD") :
      Makes request limit now user (.list user)
  | create {record : HistoryRecord} (fits : request.declaresTooMuch limit = false)
      (place : request.route? = some .history) (method : request.method = "POST")
      (readable : request.holdsTooMuch limit = false)
      (content : HistoryRecord.WrittenIn request.body record) :
      Makes request limit now user (.create user record now)
  | delete {segment : List Char} {id : UInt64} (fits : request.declaresTooMuch limit = false)
      (place : request.route? = some (.historyRow segment)) (method : request.method = "DELETE")
      (named : NamesRow segment id) :
      Makes request limit now user (.delete user id)

inductive Request.Refused (request : Request) (limit : Nat) : Response → Prop
  | large (declared : request.declaresTooMuch limit = true) : Refused request limit tooLarge
  | missing (fits : request.declaresTooMuch limit = false) (nothing : request.ShowsNothing) :
      Refused request limit (.error 401 "missing authorization")
  | invalid (fits : request.declaresTooMuch limit = false) (something : ¬ request.ShowsNothing) :
      Refused request limit (.error 401 "invalid token")

/-- Whatever the history holds, the request gets the same response and the rows stay. -/
def LeavesAlone (settings : Settings) (moment : Moment) (request : Request) (state : State)
    (response : Response) : Prop :=
  ∀ backend : HistoryBackend, answer settings moment request (state.withBackend backend) =
    .only (state.withBackend backend) (finished request response)

section

variable {settings : Settings} {moment : Moment} {route : Route} {request : Request}
  {state : State} {tokens : TextMap} {backend : HistoryBackend} {user : String}

theorem Request.isFrom_iff : request.IsFrom tokens user ↔ request.user? tokens = some user := by
  unfold Request.IsFrom Request.user?
  rw [Option.bind_eq_some_iff]
  simp only [token?_eq_some_iff, userOfToken?_eq_find?]

theorem withBackend_of_enabled (enabled : state.history = some ⟨backend, tokens⟩) :
    state.withBackend backend = state := by
  cases state
  simp_all [State.withBackend]

theorem enabled_withBackend (enabled : state.history = some ⟨backend, tokens⟩)
    (other : HistoryBackend) :
    (state.withBackend other).history = some ⟨other, tokens⟩ := by
  unfold State.withBackend
  rw [enabled]
  rfl

theorem answerCreate_of_unavailable (now : Instant) :
    answerCreate settings ⟨.unavailable, tokens⟩ user now request state =
      match asksCreation settings.bodyLimit user now request with
      | .error response => .only state response
      | .ok _ => .only state historyFailure := by
  unfold answerCreate asksCreation
  split
  · rfl
  · cases HistoryRecord.read request.body <;> rfl

theorem answerDelete_of_unavailable (segment : List Char) :
    answerDelete ⟨.unavailable, tokens⟩ user segment state =
      match asksDeletion user segment with
      | .error response => .only state response
      | .ok _ => .only state historyFailure := by
  unfold answerDelete asksDeletion
  cases identifier segment <;> rfl

/-- A store that refuses every call is asked as any other, and each answer tells of a failure. -/
theorem answerRoute_of_unavailable (enabled : state.history = some ⟨.unavailable, tokens⟩)
    (history : route.isHistory = true) (authentic : request.user? tokens = some user) :
    answerRoute settings moment route request state =
      match asks settings.bodyLimit user moment.now route request with
      | .error response => .only state response
      | .ok _ => .only state historyFailure := by
  unfold answerRoute asks
  split
  · rfl
  · simp only [history, enabled, answerHistory, authenticate_eq_ok authentic]
    generalize request.method = method
    split
    · rfl
    · rfl
    · exact answerCreate_of_unavailable moment.now
    · exact answerDelete_of_unavailable _
    next => simp only

theorem answerRoute_of_user (settings : Settings) (moment : Moment)
    (enabled : state.history = some ⟨backend, tokens⟩) (history : route.isHistory = true)
    (authentic : request.user? tokens = some user) :
    answerRoute settings moment route request state =
      match asks settings.bodyLimit user moment.now route request with
      | .error response => .only state response
      | .ok call =>
        .only (state.withBackend (backend.perform call).2) (respond (backend.perform call).1) := by
  cases backend with
  | memory store => exact answerRoute_eq enabled history authentic
  | unavailable =>
    rw [answerRoute_of_unavailable enabled history authentic]
    cases asks settings.bodyLimit user moment.now route request with
    | error response => rfl
    | ok call =>
      simp only [HistoryBackend.perform, withBackend_of_enabled enabled]
      rfl

theorem answerRoute_of_stranger (enabled : state.history = some ⟨backend, tokens⟩)
    (history : route.isHistory = true) (stranger : request.user? tokens = none)
    {response : Response} (refused : request.Refused settings.bodyLimit response) :
    answerRoute settings moment route request state = .only state response := by
  unfold answerRoute
  unfold Request.user? at stranger
  cases refused with
  | large declared => rw [if_pos declared]
  | missing fits nothing =>
    have silent : request.token? = none := token?_eq_none_iff.mpr nothing
    rw [if_neg (by simp [fits])]
    simp only [history, enabled, answerHistory, authenticate, silent]
  | invalid fits something =>
    rw [if_neg (by simp [fits])]
    cases shown : request.token? with
    | none => exact absurd (token?_eq_none_iff.mp shown) something
    | some key =>
      rw [shown, Option.bind_some] at stranger
      simp only [history, enabled, answerHistory, authenticate, shown, stranger]

theorem exists_refused (request : Request) (limit : Nat) :
    ∃ response, request.Refused limit response := by
  cases declared : request.declaresTooMuch limit with
  | true => exact ⟨_, .large declared⟩
  | false =>
    by_cases nothing : request.ShowsNothing
    · exact ⟨_, .missing declared nothing⟩
    · exact ⟨_, .invalid declared nothing⟩

theorem makes_iff {limit : Nat} {now : Instant} {call : HistoryCall}
    (placed : request.route? = some route) :
    request.Makes limit now user call ↔ asks limit user now route request = .ok call := by
  constructor
  · intro makes
    cases makes with
    | list fits place method =>
      obtain rfl := Option.some.inj (placed.symm.trans place)
      rcases method with get | head
      · simp [asks, fits, get]
      · simp [asks, fits, head]
    | create fits place method readable content =>
      obtain rfl := Option.some.inj (placed.symm.trans place)
      simp [asks, asksCreation, fits, method, readable, HistoryRecord.read_eq_ok_iff.mpr content]
    | delete fits place method named =>
      obtain rfl := Option.some.inj (placed.symm.trans place)
      simp [asks, asksDeletion, fits, method, identifier_eq_ok_iff.mpr named]
  · intro asked
    have fits : request.declaresTooMuch limit = false := by
      by_contra large
      unfold asks at asked
      rw [if_pos (by simpa using large)] at asked
      cases asked
    rcases asks_cases asked with ⟨rfl, method, rfl⟩ | ⟨rfl, post, record, rfl⟩ |
      ⟨segment, id, rfl, delete, named, rfl⟩
    · exact .list fits placed method
    · simp only [asks, fits, post, asksCreation] at asked
      cases readable : request.holdsTooMuch limit with
      | true => simp [readable] at asked
      | false =>
        cases content : HistoryRecord.read request.body with
        | error fault => simp [readable, content] at asked
        | ok found =>
          obtain rfl : found = record := by simpa [readable, content] using asked
          exact .create fits placed post readable (HistoryRecord.read_eq_ok_iff.mp content)
    · exact .delete fits placed delete (identifier_eq_ok_iff.mp named)

theorem method_cases (history : route.isHistory = true) (known : request.method ∈ route.methods) :
    (route = .history ∧
      (request.method = "GET" ∨ request.method = "HEAD" ∨ request.method = "POST")) ∨
    ∃ segment, route = .historyRow segment ∧ request.method = "DELETE" := by
  cases route with
  | history => exact .inl ⟨rfl, by simpa [Route.methods] using known⟩
  | historyRow segment => exact .inr ⟨segment, rfl, by simpa [Route.methods] using known⟩
  | health => cases history
  | transform => cases history

theorem ne_options_of_known (history : route.isHistory = true)
    (known : request.method ∈ route.methods) : request.method ≠ "OPTIONS" := by
  rcases method_cases history known with ⟨rfl, get | head | post⟩ | ⟨segment, rfl, delete⟩
  · simp [get]
  · simp [head]
  · simp [post]
  · simp [delete]

/-- What is refused before a call: a body that is too large, or a body or path that is malformed. -/
theorem status_of_refused {limit : Nat} {now : Instant} {response : Response}
    (history : route.isHistory = true) (known : request.method ∈ route.methods)
    (refused : asks limit user now route request = .error response) :
    response.status = 400 ∨ response.status = 413 := by
  rcases asks_eq_error refused with rfl | ⟨-, -, fault, rfl⟩ | ⟨_, fault, -, -, -, rfl⟩ |
    ⟨unknown, -⟩
  · exact .inr rfl
  · exact .inl rfl
  · exact .inl rfl
  · exact absurd known (unknown history)

/-- The response to a request with a method of its place is the one that is made there. -/
theorem answer_at_history (enabled : state.history = some ⟨backend, tokens⟩)
    (placed : request.route? = some route) (history : route.isHistory = true)
    (known : request.method ∈ route.methods) {other : Reply}
    (made : answerRoute settings moment route request state = other) :
    answer settings moment request state =
      { other with response := finished request other.response } := by
  rw [answer_of_enabled (by rw [enabled]; rfl) placed (ne_options_of_known history known), made]
  simp only [allowing, if_pos known]

/-- **The gate of the history.** At its places, and with a method that they have, a request of a
user makes the call that it asks for, once and for that user, and is told what the history answers;
where it asks for none, it is refused before. A request that is from no user is refused for what its
header lacks. Whatever is refused is refused without a look at the rows. -/
theorem history_gate (settings : Settings) (moment : Moment)
    (enabled : state.history = some ⟨backend, tokens⟩) (placed : request.route? = some route)
    (history : route.isHistory = true) (known : request.method ∈ route.methods) :
    (∀ key, userOfToken? tokens key = tokens.find? key) ∧
    (∀ user, request.IsFrom tokens user →
      (∀ other, request.IsFrom tokens other → other = user) ∧
      (∀ call, request.Makes settings.bodyLimit moment.now user call →
        call.user = user ∧
        ∃ told, Reports told (backend.perform call).1 ∧
          answer settings moment request state = .only (state.withBackend (backend.perform call).2)
            (if request.method = "HEAD" then told.withoutBody else told)) ∧
      ((∀ call, ¬ request.Makes settings.bodyLimit moment.now user call) →
        ∃ response, (response.status = 400 ∨ response.status = 413) ∧
          LeavesAlone settings moment request state response)) ∧
    ((∀ user, ¬ request.IsFrom tokens user) →
      ∃ response, request.Refused settings.bodyLimit response ∧
        LeavesAlone settings moment request state response) := by
  refine ⟨userOfToken?_eq_find? tokens, fun user from_user => ⟨?_, ?_, ?_⟩, fun from_none => ?_⟩
  · intro other from_other
    rw [Request.isFrom_iff] at from_user from_other
    exact Option.some.inj (from_other.symm.trans from_user)
  · intro call makes
    have asked := (makes_iff placed).mp makes
    have made := answerRoute_of_user settings moment enabled history
      (Request.isFrom_iff.mp from_user)
    rw [asked] at made
    exact ⟨(asks_eq_ok asked).2.2.2, openToAll (respond (backend.perform call).1),
      reports_respond _, answer_at_history enabled placed history known made⟩
  · intro makes_none
    cases asked : asks settings.bodyLimit user moment.now route request with
    | ok call => exact absurd ((makes_iff placed).mpr asked) (makes_none call)
    | error response =>
      refine ⟨response, status_of_refused history known asked, fun other => ?_⟩
      have enabled_other := enabled_withBackend enabled other
      have made := answerRoute_of_user settings moment enabled_other history
        (Request.isFrom_iff.mp from_user)
      rw [asked] at made
      exact answer_at_history enabled_other placed history known made
  · have stranger : request.user? tokens = none := by
      rw [Option.eq_none_iff_forall_ne_some]
      intro user found
      exact from_none user (Request.isFrom_iff.mpr found)
    obtain ⟨response, refused⟩ := exists_refused request settings.bodyLimit
    refine ⟨response, refused, fun other => ?_⟩
    have enabled_other := enabled_withBackend enabled other
    exact answer_at_history enabled_other placed history known
      (answerRoute_of_stranger enabled_other history stranger refused)

/-- One user lists the row that is there, another posts a record and cannot delete the first user's
row, and a key of no one is refused. -/
theorem history_gate_of_two_users :
    let tokens : TextMap := .ofList [("alpha", "alice"), ("beta", "bob")]
    let record : HistoryRecord := ⟨"<ö/>", .ofList [("p", "say \"no\"")], "first"⟩
    let row : HistoryRow := ⟨1, "alice", record, ⟨1700000000123000000⟩⟩
    let state : State := ⟨some ⟨.memory ⟨1, [row]⟩, tokens⟩, .empty⟩
    let runner : Runner := fun _ _ files => (.broken, files)
    let settings : Settings := .ofConfiguration .default runner
    let moment : Moment := ⟨⟨["tmp"], ⟨0⟩⟩, ⟨1800000000000000000⟩⟩
    let sent (method target header body : String) : Request :=
      ⟨method, target, [("Authorization", Text.Utf8.encode header.toList)],
        Text.Utf8.encode body.toList⟩
    let body := "\x7b\"note\":\"first\",\"more\":[1.5],\"xslt\":\"<\\u00f6/>\", " ++
      "\"parameters\":\x7b\"p\":\"say \\\"no\\\"\"\x7d\x7d"
    let reply (request : Request) : Reply := answer settings moment request state
    let made : HistoryRow := ⟨2, "bob", record, moment.now⟩
    let listing := sent "GET" "/history" "Bearer  alpha" ""
    let creation := sent "POST" "/history" "beta" body
    let deletion := sent "DELETE" "/history/1" "beta" ""
    let unknown := sent "DELETE" "/history/1" "Bearer gamma" ""
    Reports (reply listing).response (.listed [row]) ∧
      Reports (reply creation).response (.created made) ∧
      (reply creation).state = state.withBackend (.memory ⟨2, [row, made]⟩) ∧
      Refuses (reply deletion).response 404 "not found" ∧
      LeavesAlone settings moment unknown state (.error 401 "invalid token") := by
  intro tokens record row state runner settings moment sent body reply made listing creation
    deletion unknown
  have enabled : state.history = some ⟨.memory ⟨1, [row]⟩, tokens⟩ := rfl
  have answered {request : Request} {route : Route} {user : String} {call : HistoryCall}
      (placed : request.route? = some route) (history : route.isHistory = true)
      (known : request.method ∈ route.methods) (no_head : request.method ≠ "HEAD")
      (shown : request.user? tokens = some user)
      (makes : request.Makes settings.bodyLimit moment.now user call) :
      Reports (reply request).response ((HistoryStore.mk 1 [row]).perform call).1 ∧
        (reply request).state =
          state.withBackend (.memory ((HistoryStore.mk 1 [row]).perform call).2) := by
    obtain ⟨-, for_users, -⟩ := history_gate settings moment enabled placed history known
    obtain ⟨-, told, reports, made⟩ :=
      (for_users user (Request.isFrom_iff.mpr shown)).2.1 call makes
    rw [if_neg no_head] at made
    simp only [reply, made]
    exact ⟨reports, rfl⟩
  have written : HistoryRecord.WrittenIn (Text.Utf8.encode body.toList) record :=
    HistoryRecord.read_eq_ok_iff.mp (eq_ok_of_toOption (by decide +kernel))
  have place_listing : listing.route? = some .history := by decide
  have lists : listing.Makes settings.bodyLimit moment.now "alice" (.list "alice") :=
    .list (by decide +kernel) place_listing (.inl rfl)
  have place_creation : creation.route? = some .history := by decide
  have creates : creation.Makes settings.bodyLimit moment.now "bob"
      (.create "bob" record moment.now) :=
    .create (by decide +kernel) place_creation rfl (by decide +kernel) written
  have place_deletion : deletion.route? = some (.historyRow ['1']) := by decide
  have deletes : deletion.Makes settings.bodyLimit moment.now "bob" (.delete "bob" 1) :=
    .delete (by decide +kernel) place_deletion rfl
      (identifier_eq_ok_iff.mp (identifier_naturalText 1))
  obtain ⟨listed, -⟩ := answered place_listing rfl (by decide) (by decide) (by decide +kernel) lists
  obtain ⟨created, kept⟩ :=
    answered place_creation rfl (by decide) (by decide) (by decide +kernel) creates
  obtain ⟨refused, -⟩ :=
    answered place_deletion rfl (by decide) (by decide) (by decide +kernel) deletes
  have rows_listed : (HistoryStore.mk 1 [row]).perform (.list "alice") =
      (.listed [row], ⟨1, [row]⟩) := by
    simp [HistoryStore.perform, HistoryStore.list, row]
  rw [rows_listed] at listed
  refine ⟨listed, created, kept, refused, ?_⟩
  have place : unknown.route? = some (.historyRow ['1']) := by decide
  have from_none : ∀ user, ¬ unknown.IsFrom tokens user := by
    intro user from_user
    have found := Request.isFrom_iff.mp from_user
    rw [show unknown.user? tokens = none by decide +kernel] at found
    cases found
  obtain ⟨-, -, for_strangers⟩ :=
    history_gate settings moment enabled place rfl List.mem_cons_self
  obtain ⟨response, refused, alone⟩ := for_strangers from_none
  -- The header is there and the body is short, so the key is what is wrong.
  cases refused with
  | large declared => exact absurd declared (by decide +kernel)
  | missing fits nothing =>
    have shown : unknown.token? = some "gamma" := by decide +kernel
    rw [token?_eq_none_iff.mpr nothing] at shown
    cases shown
  | invalid fits something => exact alone

end

end StylesheetRunner.Http
