import StylesheetRunner.Proofs.History.Runs
import StylesheetRunner.Proofs.Http.Admission
import StylesheetRunner.Proofs.Http.Isolation

/-!
What a request does to the history, by its response. A request that is not served leaves the rows
and the last identifier as they were. Of those that are served a creation adds the row that its
response shows, a deletion takes out the row that its path names, and every other one changes
nothing.
-/

namespace StylesheetRunner.Http

def Response.Succeeds (response : Response) : Prop :=
  200 ≤ response.status ∧ response.status < 300

instance (response : Response) : Decidable response.Succeeds :=
  inferInstanceAs (Decidable (_ ∧ _))

def Request.AsksToCreate (request : Request) : Prop :=
  request.method = "POST" ∧ request.route? = some .history

def Request.AsksToDelete (request : Request) : Prop :=
  request.method = "DELETE" ∧ ∃ segment, request.route? = some (.historyRow segment)

/-- A request added a row and nothing else: the row holds what the body says, belongs to the user of
the request, and is read back from the response. -/
structure Request.Adds (request : Request) (tokens : TextMap) (response : Response)
    (row : HistoryRow) (before after : HistoryStore) : Prop where
  owner : request.IsFrom tokens row.user
  content : HistoryRecord.WrittenIn request.body row.record
  next : row.id.toNat = before.lastId.toNat + 1
  rows : after.rows = before.rows ++ [row]
  lastId : after.lastId = row.id
  shown : HistoryRow.read response.body = .ok row

/-- A request took out a row and nothing else: the row is the one that the path names, and belonged
to the user of the request. -/
structure Request.Removes (request : Request) (tokens : TextMap) (row : HistoryRow)
    (before after : HistoryStore) : Prop where
  owner : request.IsFrom tokens row.user
  named : ∃ segment, request.route? = some (.historyRow segment) ∧ NamesRow segment row.id
  rows : ∃ front behind, before.rows = front ++ row :: behind ∧ after.rows = front ++ behind
  lastId : after.lastId = before.lastId

structure Request.Effects (request : Request) (tokens : TextMap) (response : Response)
    (before after : HistoryStore) : Prop where
  unserved : ¬ response.Succeeds → after = before
  adds : response.Succeeds → request.AsksToCreate →
    ∃ row, request.Adds tokens response row before after
  removes : response.Succeeds → request.AsksToDelete →
    ∃ row, request.Removes tokens row before after
  elsewhere : ¬ request.AsksToCreate → ¬ request.AsksToDelete → after = before

section

variable {settings : Settings} {moment : Moment} {route : Route} {request : Request}
  {state : State} {tokens : TextMap} {store : HistoryStore} {limit : Nat} {now : Instant}
  {call : HistoryCall}

theorem finished_of_other (other : request.method ≠ "HEAD") (response : Response) :
    finished request response = openToAll response :=
  if_neg other

theorem not_succeeds_of_no_call (keeps : state.Keeps tokens store)
    (placed : request.route? = some route) (history : route.isHistory = true)
    (known : request.method ∈ route.methods)
    (silent : call? settings.bodyLimit tokens moment.now request = none) :
    ¬ (answer settings moment request state).response.Succeeds := by
  have refused_by (response : Response) (refusal : 400 ≤ response.status)
      (answered : answer settings moment request state =
        .only state (finished request (allowing route request response))) :
      ¬ (answer settings moment request state).response.Succeeds := by
    rintro ⟨-, small⟩
    rw [answered] at small
    simp only [Reply.only, status_finished] at small
    omega
  have allowed (response : Response) : allowing route request response = response := if_pos known
  cases authentic : request.user? tokens with
  | none =>
    obtain ⟨response, refused⟩ := exists_refused request settings.bodyLimit
    have made : answerRoute settings moment route request state = .only state response :=
      answerRoute_of_stranger keeps history authentic refused
    have refusal : 400 ≤ response.status := by cases refused <;> decide
    refine refused_by response refusal ?_
    rw [answer_at_history keeps placed history known made, allowed]
    rfl
  | some user =>
    cases asked : asks settings.bodyLimit user moment.now route request with
    | ok call =>
      have called := call?_eq_some_iff.mpr ⟨route, user, placed, authentic, asked⟩
      rw [silent] at called
      cases called
    | error response =>
      have refusal : 400 ≤ response.status := by
        rcases status_of_refused history known asked with bad | large
        · exact Nat.le_of_eq bad.symm
        · rw [large]
          decide
      exact refused_by response refusal (answer_of_refused keeps placed history authentic
        (ne_options_of_known history known) asked)

theorem makes_of_call? (called : call? limit tokens now request = some call) :
    ∃ user, request.IsFrom tokens user ∧ request.Makes limit now user call := by
  obtain ⟨route, user, placed, authentic, asked⟩ := call?_eq_some_iff.mp called
  exact ⟨user, Request.isFrom_iff.mpr authentic, (makes_iff placed).mpr asked⟩

/-! What each call comes to. The response is the one that its answer is told by. -/

section Calls

variable {user : String} {response : Response}

theorem effects_of_list (method : request.method = "GET" ∨ request.method = "HEAD") :
    request.Effects tokens response store store := by
  have no_creation : ¬ request.AsksToCreate := by
    rintro ⟨post, -⟩
    rcases method with get | head
    · simp [get] at post
    · simp [head] at post
  have no_deletion : ¬ request.AsksToDelete := by
    rintro ⟨delete, -⟩
    rcases method with get | head
    · simp [get] at delete
    · simp [head] at delete
  exact ⟨fun _ => rfl, fun _ asks => absurd asks no_creation,
    fun _ asks => absurd asks no_deletion, fun _ _ => rfl⟩

theorem effects_of_create {record : HistoryRecord} (owner : request.IsFrom tokens user)
    (place : request.route? = some .history) (post : request.method = "POST")
    (content : HistoryRecord.WrittenIn request.body record) (now : Instant) :
    let made := store.perform (.create user record now)
    request.Effects tokens (openToAll (respond made.1)) store made.2 := by
  have creates : request.AsksToCreate := ⟨post, place⟩
  have no_deletion : ¬ request.AsksToDelete := by
    rintro ⟨delete, -⟩
    simp [post] at delete
  by_cases full : store.lastId.toNat = Text.wordLimit
  · rw [HistoryStore.perform_create_of_exhausted full]
    have failed : ¬ (openToAll (respond (.refused .idsExhausted))).Succeeds :=
      fun succeeds => absurd succeeds.2 (by decide)
    exact ⟨fun _ => rfl, fun succeeds => absurd succeeds failed,
      fun succeeds => absurd succeeds failed, fun _ _ => rfl⟩
  · rw [HistoryStore.perform_create_of_room full]
    let row : HistoryRow := ⟨store.lastId + 1, user, record, now⟩
    have succeeds : (openToAll (respond (.created row))).Succeeds :=
      ⟨Nat.le_refl 200, (by decide : 200 < 300)⟩
    refine ⟨fun failed => absurd succeeds failed, fun _ _ => ⟨row, ?_⟩,
      fun _ asks => absurd asks no_deletion, fun other => absurd creates other⟩
    exact ⟨owner, content, HistoryStore.toNat_lastId_add_one full, rfl, rfl,
      HistoryRow.read_compact row⟩

theorem effects_of_delete (numbered : HistoryStore.Numbered store.rows) {segment : List Char}
    {id : UInt64} (owner : request.IsFrom tokens user)
    (place : request.route? = some (.historyRow segment)) (delete : request.method = "DELETE")
    (named : NamesRow segment id) :
    let made := store.perform (.delete user id)
    request.Effects tokens (openToAll (respond made.1)) store made.2 := by
  have deletes : request.AsksToDelete := ⟨delete, segment, place⟩
  have no_creation : ¬ request.AsksToCreate := by
    rintro ⟨post, -⟩
    simp [delete] at post
  rw [HistoryStore.perform]
  rcases HistoryStore.delete_cases numbered user id with
    ⟨front, row, behind, held, rfl, rfl, done⟩ | ⟨-, done⟩
  · rw [done]
    have succeeds : (openToAll (respond (.deleted true))).Succeeds := by decide
    refine ⟨fun failed => absurd succeeds failed, fun _ asks => absurd asks no_creation,
      fun _ _ => ⟨row, ?_⟩, fun _ other => absurd deletes other⟩
    exact ⟨owner, ⟨segment, place, named⟩, ⟨front, behind, held, rfl⟩, rfl⟩
  · rw [done]
    have failed : ¬ (openToAll (respond (.deleted false))).Succeeds := by decide
    exact ⟨fun _ => rfl, fun succeeds => absurd succeeds failed,
      fun succeeds => absurd succeeds failed, fun _ _ => rfl⟩

end Calls

theorem effects_of_answer (settings : Settings) (moment : Moment)
    (numbered : HistoryStore.Numbered store.rows) (keeps : state.Keeps tokens store)
    (request : Request) :
    request.Effects tokens (answer settings moment request state).response store
      (store.after (call? settings.bodyLimit tokens moment.now request)) := by
  cases called : call? settings.bodyLimit tokens moment.now request with
  | none =>
    have unserved {route : Route} (placed : request.route? = some route)
        (history : route.isHistory = true) (known : request.method ∈ route.methods) :
        ¬ (answer settings moment request state).response.Succeeds :=
      not_succeeds_of_no_call keeps placed history known called
    refine ⟨fun _ => rfl, fun succeeds asks => ?_, fun succeeds asks => ?_, fun _ _ => rfl⟩
    · obtain ⟨post, placed⟩ := asks
      exact absurd succeeds (unserved placed rfl (by simp [post, Route.methods]))
    · obtain ⟨delete, segment, placed⟩ := asks
      exact absurd succeeds (unserved placed rfl (by simp [delete, Route.methods]))
  | some call =>
    rw [answer_of_call keeps called]
    obtain ⟨user, owner, makes⟩ := makes_of_call? called
    cases makes with
    | list fits place method => exact effects_of_list method
    | create fits place post readable content =>
      rw [Reply.only, finished_of_other (by simp [post])]
      exact effects_of_create owner place post content moment.now
    | delete fits place delete named =>
      rw [Reply.only, finished_of_other (by simp [delete])]
      exact effects_of_delete numbered owner place delete named

end

namespace Service

variable {service : Service} {tokens : TextMap} {store : HistoryStore}

theorem exists_represents_run {log : List HistoryExchange}
    (keeps : service.state.Keeps tokens store) (represents : HistoryStore.Represents log store)
    (arrivals : List Arrival) :
    ∃ further, HistoryStore.Represents further (service.run arrivals).2.store := by
  induction arrivals generalizing service store log with
  | nil =>
    rw [run, store_of_keeps keeps]
    exact ⟨log, represents⟩
  | cons arrival rest ih =>
    have next := keeps_serve keeps arrival
    rw [run_cons]
    cases called : arrival.call? service.settings.bodyLimit tokens with
    | none =>
      rw [called] at next
      exact ih next represents
    | some call =>
      rw [called] at next
      exact ih next (represents.perform call)

/-- **What requests do to the history.** After any requests to a service with a new history, a
request that is not served leaves the history as it was; a creation that is served adds one row, the
one in its response, with what was posted and for the user of the request; a deletion that is served
takes out one row, the one that it names, which was the user's; and nothing else changes rows. -/
theorem history_changes_as_told (fresh : service.state.Keeps tokens .empty)
    (arrivals : List Arrival) (arrival : Arrival) :
    let reached := (service.run arrivals).2
    arrival.request.Effects tokens (reached.serve arrival).1.response reached.store
      (reached.serve arrival).2.store := by
  intro reached
  have keeps : reached.state.Keeps tokens reached.store := keeps_run fresh arrivals
  obtain ⟨log, represents⟩ := exists_represents_run fresh .empty arrivals
  rw [store_of_keeps (keeps_serve keeps arrival)]
  exact effects_of_answer reached.settings arrival.moment represents.numbered_rows keeps
    arrival.request

/-- What one user posts is a row, as posted; another user cannot take it out, and its owner can. -/
theorem history_changes_as_told_of_two_users :
    let configuration : Configuration :=
      { Configuration.default with
        history := ⟨true, .ofList [("alpha", "alice"), ("beta", "bob")]⟩ }
    let runner : Runner := fun _ _ files => (.broken, files)
    let service : Service :=
      ⟨8080, .ofConfiguration configuration runner, .ofConfiguration configuration .empty⟩
    let tokens := configuration.history.tokens
    let sent (token method target body : String) : Arrival :=
      ⟨⟨⟨["tmp"], ⟨0⟩⟩, ⟨1700000000000000000⟩⟩,
        ⟨method, target, [("authorization", Text.Utf8.encode token.toList)],
          Text.Utf8.encode body.toList⟩⟩
    let body := "\x7b\"note\":\"first\",\"more\":[1.5],\"xslt\":\"<\\u00f6/>\", " ++
      "\"parameters\":\x7b\"p\":\"say \\\"no\\\"\"\x7d\x7d"
    let posted := sent "alpha" "POST" "/history" body
    let row : HistoryRow :=
      ⟨1, "alice", ⟨"<ö/>", .ofList [("p", "say \"no\"")], "first"⟩, ⟨1700000000000000000⟩⟩
    let reached := (service.serve posted).2
    let foreign := sent "beta" "DELETE" "/history/1" ""
    let own := sent "alpha" "DELETE" "/history/1" ""
    service.state.Keeps tokens .empty ∧
      posted.request.Adds tokens (service.serve posted).1.response row .empty reached.store ∧
      (reached.serve foreign).2.store = reached.store ∧
      own.request.Removes tokens row reached.store (reached.serve own).2.store := by
  intro configuration runner service tokens sent body posted row reached foreign own
  have started : Service.start configuration runner .empty (fun _ => none) = .ok service := rfl
  have fresh : service.state.Keeps tokens .empty := keeps_of_start started rfl
  have kept : reached.store = ⟨1, [row]⟩ := by decide +kernel
  refine ⟨fresh, ?_, ?_, ?_⟩
  · have creates : posted.request.AsksToCreate := ⟨rfl, by decide +kernel⟩
    have served : (service.serve posted).1.response.Succeeds := by decide +kernel
    obtain ⟨made, adds⟩ := (history_changes_as_told fresh [] posted).adds served creates
    have rows : reached.store.rows = [made] := adds.rows
    rw [kept] at rows
    obtain rfl : row = made := List.singleton_inj.mp rows
    exact adds
  · have refused : ¬ (reached.serve foreign).1.response.Succeeds := by decide +kernel
    exact (history_changes_as_told fresh [posted] foreign).unserved refused
  · have deletes : own.request.AsksToDelete := ⟨rfl, "1".toList, by decide +kernel⟩
    have served : (reached.serve own).1.response.Succeeds := by decide +kernel
    obtain ⟨taken, removes⟩ := (history_changes_as_told fresh [posted] own).removes served deletes
    obtain ⟨front, behind, rows, -⟩ := removes.rows
    have mem : taken ∈ reached.store.rows := by
      change reached.store.rows = front ++ taken :: behind at rows
      rw [rows]
      exact List.mem_append_right front List.mem_cons_self
    rw [kept] at mem
    obtain rfl := List.mem_singleton.mp mem
    exact removes

end Service

end StylesheetRunner.Http
