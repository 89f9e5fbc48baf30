import StylesheetRunner.Proofs.Http.Admission
import StylesheetRunner.Proofs.Http.RowPaths
import StylesheetRunner.Proofs.Json.Written

/-!
What a client finds in the body of an error. Every place answers an error with a value that has the
message as its only member, whatever went wrong, but for one: a deletion whose path names no row is
refused before it is read as a call, with the message as plain text.
-/

namespace StylesheetRunner.Http

inductive Request.IsDeclared (request : Request) (state : State) : Prop
  | health (get : request.method = "GET") (place : request.path = "/".toList)
  | transformation (post : request.method = "POST") (place : request.path = "/transform".toList)
  | list (enabled : state.history.isSome = true) (get : request.method = "GET")
      (place : request.path = "/history".toList)
  | creation (enabled : state.history.isSome = true) (post : request.method = "POST")
      (place : request.path = "/history".toList)
  | deletion {segment : List Char} (enabled : state.history.isSome = true)
      (delete : request.method = "DELETE") (place : request.path = "/history/".toList ++ segment)
      (nonempty : segment ≠ []) (no_slash : '/' ∉ segment)

def Response.TellsError (response : Response) : Prop :=
  ∃ message text, Json.Written (.object [("error", .text message)]) text ∧
    response.body = Text.Utf8.encode text

def Response.IsExplained (response : Response) : Prop :=
  400 ≤ response.status → response.TellsError

/-- The deletions of users that are let in and come with a path segment that names no row. -/
structure Request.Misnames (request : Request) (state : State) (limit : Nat) : Prop where
  fits : request.declaresTooMuch limit = false
  owner : ∃ backend tokens user, state.history = some ⟨backend, tokens⟩ ∧
    request.IsFrom tokens user
  delete : request.method = "DELETE"
  unnamed : ∃ segment, request.path = "/history/".toList ++ segment ∧
    ∀ id, ¬ NamesRow segment id

/-! Which responses are explained. -/

theorem isExplained_of_success {response : Response} (success : response.status < 400) :
    response.IsExplained :=
  fun error => absurd error (Nat.not_le_of_lt success)

theorem isExplained_error (status : Nat) (message : String) :
    (Response.error status message).IsExplained :=
  fun _ => ⟨message, _, Json.written_compact _, rfl⟩

theorem isExplained_openToAll {response : Response} :
    (openToAll response).IsExplained ↔ response.IsExplained :=
  Iff.rfl

theorem isExplained_failureResponse (failure : Failure) :
    (failureResponse failure).IsExplained :=
  isExplained_error _ _

theorem isExplained_respond (told : HistoryAnswer) : (respond told).IsExplained := by
  cases told with
  | listed rows => exact isExplained_of_success (by decide : 200 < 400)
  | created row => exact isExplained_of_success (by decide : 200 < 400)
  | refused error => exact isExplained_error _ _
  | deleted found =>
    cases found with
    | true => exact isExplained_of_success (by decide : 204 < 400)
    | false => exact isExplained_error _ _

theorem not_isExplained_plain {text : String} (other : text.toList.head? ≠ some '\x7b') :
    ¬ (Response.plain 400 text).IsExplained := by
  intro explained
  obtain ⟨message, written, value, body⟩ := explained (Nat.le_refl 400)
  have same : text.toList = written := by
    have decoded := congrArg Text.Utf8.decode? body
    rw [Response.plain, Text.Utf8.decode?_encode, Text.Utf8.decode?_encode] at decoded
    exact Option.some.inj decoded
  cases value with
  | object inside =>
    rw [same] at other
    exact other rfl

theorem head?_message (fault : SegmentFault) : fault.message.toList.head? = some 'I' := by
  cases fault with
  | notUtf8 => rfl
  | notNumeral text =>
    unfold SegmentFault.message
    simp only [String.toList_append]
    rfl

theorem not_isExplained_fault (fault : SegmentFault) :
    ¬ (Response.plain 400 fault.message).IsExplained := by
  refine not_isExplained_plain ?_
  rw [head?_message]
  decide

section

variable {settings : Settings} {moment : Moment} {route : Route} {request : Request}
  {state : State} {tokens : TextMap} {backend : HistoryBackend} {user : String} {limit : Nat}
  {now : Instant} {response : Response}

theorem isExplained_answerTransform :
    (answerTransform settings moment request state).response.IsExplained := by
  unfold answerTransform
  split
  · exact isExplained_error _ _
  · cases StylesheetRunner.Request.read request.body with
    | error fault => exact isExplained_error _ _
    | ok asked =>
      dsimp only
      rcases (settings.transformer.transform moment.circumstances asked state.files).ending with
        (failure | result) | _
      · exact isExplained_failureResponse failure
      · exact isExplained_of_success (by decide : 200 < 400)
      · exact isExplained_error _ _

theorem isExplained_of_refused (refused : request.Refused limit response) :
    response.IsExplained := by
  cases refused with
  | large => exact isExplained_error _ _
  | missing => exact isExplained_error _ _
  | invalid => exact isExplained_error _ _

theorem isExplained_asks_of_history (known : request.method ∈ Route.history.methods)
    (refused : asks limit user now .history request = .error response) :
    response.IsExplained := by
  rcases asks_eq_error refused with rfl | ⟨-, -, fault, rfl⟩ | ⟨_, _, elsewhere, -⟩ | ⟨unknown, -⟩
  · exact isExplained_error _ _
  · exact isExplained_error _ _
  · cases elsewhere
  · exact absurd known (unknown rfl)

theorem isExplained_asks_of_row_iff {segment : List Char} (delete : request.method = "DELETE") :
    (∀ response, asks limit user now (.historyRow segment) request = .error response →
        response.IsExplained) ↔
      (request.declaresTooMuch limit = false → ∃ id, NamesRow segment id) := by
  constructor
  · intro explained fits
    cases named : identifier segment with
    | ok id => exact ⟨id, identifier_eq_ok_iff.mp named⟩
    | error fault =>
      refine absurd (explained (.plain 400 fault.message) ?_) (not_isExplained_fault fault)
      simp [asks, asksDeletion, fits, delete, named]
  · intro names response refused
    have known : request.method ∈ (Route.historyRow segment).methods := by
      simp [Route.methods, delete]
    rcases asks_eq_error refused with rfl | ⟨elsewhere, -⟩ | ⟨_, fault, same, named, fits, rfl⟩ |
      ⟨unknown, -⟩
    · exact isExplained_error _ _
    · cases elsewhere
    · cases same
      obtain ⟨id, numeral⟩ := names fits
      rw [identifier_eq_ok_iff.mpr numeral] at named
      cases named
    · exact absurd known (unknown rfl)

/-- At the places of the history a user is told the error of what the request asks, and whoever is
no user what its header lacks. -/
theorem isExplained_answerRoute_iff (enabled : state.history = some ⟨backend, tokens⟩)
    (history : route.isHistory = true) :
    (answerRoute settings moment route request state).response.IsExplained ↔
      ∀ user, request.IsFrom tokens user → ∀ response,
        asks settings.bodyLimit user moment.now route request = .error response →
          response.IsExplained := by
  cases authentic : request.user? tokens with
  | none =>
    obtain ⟨response, refused⟩ := exists_refused request settings.bodyLimit
    rw [answerRoute_of_stranger enabled history authentic refused]
    refine iff_of_true (isExplained_of_refused refused) fun user owner => ?_
    cases authentic.symm.trans (Request.isFrom_iff.mp owner)
  | some user =>
    have owner : request.IsFrom tokens user := Request.isFrom_iff.mpr authentic
    have unique (other : String) (from_other : request.IsFrom tokens other) : user = other :=
      Option.some.inj (authentic.symm.trans (Request.isFrom_iff.mp from_other))
    rw [answerRoute_of_user settings moment enabled history authentic]
    cases asked : asks settings.bodyLimit user moment.now route request with
    | ok call =>
      refine iff_of_true (isExplained_respond _) fun other from_other response refused => ?_
      obtain rfl := unique other from_other
      cases asked.symm.trans refused
    | error response =>
      constructor
      · intro explained other from_other refusal refused
        obtain rfl := unique other from_other
        cases asked.symm.trans refused
        exact explained
      · intro explained
        exact explained user owner response asked

theorem isExplained_answer_iff
    (placed : Route.ofPath? state.history.isSome request.path = some route)
    (known : request.method ∈ route.methods) (no_options : request.method ≠ "OPTIONS")
    (no_head : request.method ≠ "HEAD") :
    (answer settings moment request state).response.IsExplained ↔
      (answerRoute settings moment route request state).response.IsExplained := by
  rw [answer_of_method placed known no_options no_head]
  exact isExplained_openToAll

theorem isExplained_health (get : request.method = "GET") (place : request.path = "/".toList) :
    (answer settings moment request state).response.IsExplained := by
  have placed : Route.ofPath? state.history.isSome request.path = some .health := by
    rw [place]
    rfl
  rw [isExplained_answer_iff placed (by simp [get, Route.methods]) (by simp [get]) (by simp [get])]
  unfold answerRoute
  split
  · exact isExplained_error _ _
  · simp only [Route.isHistory, get]
    exact isExplained_of_success (by decide : 200 < 400)

theorem isExplained_transformation (post : request.method = "POST")
    (place : request.path = "/transform".toList) :
    (answer settings moment request state).response.IsExplained := by
  have placed : Route.ofPath? state.history.isSome request.path = some .transform := by
    rw [place]
    rfl
  rw [isExplained_answer_iff placed (by simp [post, Route.methods]) (by simp [post])
    (by simp [post])]
  unfold answerRoute
  split
  · exact isExplained_error _ _
  · simp only [Route.isHistory, post]
    exact isExplained_answerTransform

theorem isExplained_list_or_creation (enabled : state.history = some ⟨backend, tokens⟩)
    (method : request.method = "GET" ∨ request.method = "POST")
    (place : request.path = "/history".toList) :
    (answer settings moment request state).response.IsExplained := by
  have placed : Route.ofPath? state.history.isSome request.path = some .history := by
    rw [place, enabled]
    rfl
  have known : request.method ∈ Route.history.methods ∧ request.method ≠ "OPTIONS" ∧
      request.method ≠ "HEAD" := by
    rcases method with get | post
    · simp [Route.methods, get]
    · simp [Route.methods, post]
  rw [isExplained_answer_iff placed known.1 known.2.1 known.2.2,
    isExplained_answerRoute_iff enabled rfl]
  exact fun _ _ _ refused => isExplained_asks_of_history known.1 refused

theorem isExplained_deletion_iff {segment : List Char}
    (enabled : state.history = some ⟨backend, tokens⟩) (delete : request.method = "DELETE")
    (place : request.path = "/history/".toList ++ segment) (nonempty : segment ≠ [])
    (no_slash : '/' ∉ segment) :
    (answer settings moment request state).response.IsExplained ↔
      ¬ request.Misnames state settings.bodyLimit := by
  have placed : Route.ofPath? state.history.isSome request.path = some (.historyRow segment) := by
    rw [place, enabled]
    exact ofPath?_of_segment nonempty no_slash
  rw [isExplained_answer_iff placed (by simp [delete, Route.methods]) (by simp [delete])
    (by simp [delete]), isExplained_answerRoute_iff enabled rfl]
  simp only [isExplained_asks_of_row_iff delete]
  constructor
  · rintro named ⟨fits, ⟨_, _, user, held, owner⟩, -, other, other_place, unnamed⟩
    cases enabled.symm.trans held
    obtain rfl := List.append_cancel_left (place.symm.trans other_place)
    obtain ⟨id, names⟩ := named user owner fits
    exact unnamed id names
  · intro proper user owner fits
    by_contra unnamed
    exact proper ⟨fits, ⟨backend, tokens, user, enabled, owner⟩, delete, segment, place,
      not_exists.mp unnamed⟩

/-- **The bodies of errors.** A declared request that is answered with an error finds the message in
the body as a value, unless it is a user's deletion that names no row. -/
theorem errors_are_explained_iff (settings : Settings) (moment : Moment)
    (declared : request.IsDeclared state) :
    let response := (answer settings moment request state).response
    (400 ≤ response.status → response.TellsError) ↔
      ¬ request.Misnames state settings.bodyLimit := by
  intro response
  change response.IsExplained ↔ _
  have proper (other : request.method ≠ "DELETE") :
      ¬ request.Misnames state settings.bodyLimit := fun misnames => other misnames.delete
  cases declared with
  | health get place =>
    exact iff_of_true (isExplained_health get place) (proper (by simp [get]))
  | transformation post place =>
    exact iff_of_true (isExplained_transformation post place) (proper (by simp [post]))
  | list enabled get place =>
    obtain ⟨service, held⟩ := Option.isSome_iff_exists.mp enabled
    exact iff_of_true (isExplained_list_or_creation held (.inl get) place)
      (proper (by simp [get]))
  | creation enabled post place =>
    obtain ⟨service, held⟩ := Option.isSome_iff_exists.mp enabled
    exact iff_of_true (isExplained_list_or_creation held (.inr post) place)
      (proper (by simp [post]))
  | deletion enabled delete place nonempty no_slash =>
    obtain ⟨service, held⟩ := Option.isSome_iff_exists.mp enabled
    exact isExplained_deletion_iff held delete place nonempty no_slash

/-- A user's deletion of a row that is not there, with the identifier written in percent signs. -/
theorem errors_are_explained_of_missing_row :
    let configuration : Configuration :=
      { Configuration.default with history := ⟨true, .ofList [("alpha", "alice")]⟩ }
    let settings : Settings := .ofConfiguration configuration fun _ _ files => (.broken, files)
    let state : State := .ofConfiguration configuration .empty
    let moment : Moment := ⟨⟨["tmp"], ⟨0⟩⟩, ⟨0⟩⟩
    let request : Request :=
      ⟨"DELETE", "/history/%37", [("Authorization", Text.Utf8.encode "Bearer alpha".toList)], []⟩
    let response := (answer settings moment request state).response
    request.IsDeclared state ∧ response.status = 404 ∧ response.TellsError := by
  intro configuration settings state moment request response
  have place : request.path = "/history/".toList ++ "%37".toList := by decide
  have declared : request.IsDeclared state := .deletion rfl rfl place (by decide) (by decide)
  have named : NamesRow "%37".toList 7 := identifier_eq_ok_iff.mp (by decide)
  have proper : ¬ request.Misnames state settings.bodyLimit := by
    rintro ⟨-, -, -, segment, other_place, unnamed⟩
    obtain rfl := List.append_cancel_left (place.symm.trans other_place)
    exact unnamed 7 named
  have status : response.status = 404 := by decide +kernel
  exact ⟨declared, status, (errors_are_explained_iff settings moment declared).mpr proper
    (by rw [status]; decide)⟩

/-- A user's deletion is answered in plain text when its path holds no number, or one that is too
large for an identifier. -/
theorem misnamed_deletions_are_not_explained :
    let configuration : Configuration :=
      { Configuration.default with history := ⟨true, .ofList [("alpha", "alice")]⟩ }
    let settings : Settings := .ofConfiguration configuration fun _ _ files => (.broken, files)
    let state : State := .ofConfiguration configuration .empty
    let moment : Moment := ⟨⟨["tmp"], ⟨0⟩⟩, ⟨0⟩⟩
    let deletion (target : String) : Request :=
      ⟨"DELETE", target, [("Authorization", Text.Utf8.encode "Bearer alpha".toList)], []⟩
    let misnamed := deletion "/history/abc"
    let excessive := deletion "/history/18446744073709551616"
    let response (request : Request) := (answer settings moment request state).response
    misnamed.IsDeclared state ∧ (response misnamed).status = 400 ∧
      ¬ (response misnamed).TellsError ∧
      (response misnamed).body =
        Text.Utf8.encode "Invalid URL: Cannot parse `abc` to a `u64`".toList ∧
      excessive.IsDeclared state ∧ (response excessive).status = 400 ∧
      ¬ (response excessive).TellsError := by
  intro configuration settings state moment deletion misnamed excessive response
  have told : response misnamed = openToAll (.plain 400 (SegmentFault.notNumeral "abc").message) :=
    by decide +kernel
  have told_excess : response excessive =
      openToAll (.plain 400 (SegmentFault.notNumeral "18446744073709551616").message) := by
    decide +kernel
  have declared (segment : List Char) (target : String)
      (place : (deletion target).path = "/history/".toList ++ segment) (nonempty : segment ≠ [])
      (no_slash : '/' ∉ segment) : (deletion target).IsDeclared state :=
    .deletion rfl rfl place nonempty no_slash
  refine ⟨declared "abc".toList _ (by decide) (by decide) (by decide), ?_, ?_, ?_,
    declared "18446744073709551616".toList _ (by decide) (by decide) (by decide), ?_, ?_⟩
  · rw [told]
    rfl
  · rw [told]
    exact fun tells => not_isExplained_fault _ fun _ => tells
  · rw [told]
    rfl
  · rw [told_excess]
    rfl
  · rw [told_excess]
    exact fun tells => not_isExplained_fault _ fun _ => tells

end

end StylesheetRunner.Http
