import StylesheetRunner.Proofs.History.Views
import StylesheetRunner.Proofs.Http.RowPaths
import StylesheetRunner.Proofs.Http.Runs

/-!
Users do not see each other in the history. When the requests of everyone else are taken out of a
run, a user's responses stay the same up to the identifiers of rows, and the identifiers keep their
order.
-/

namespace StylesheetRunner.Http

/-- A request of a user in one run stands for a request in another. The two are the same but for the
identifier in a deletion: one that was given to the user stands for the one given in its place, and
any other for one that was not given. -/
inductive Request.Translates (given given' : List UInt64) : Request → Request → Prop
  | same {request : Request} (nameless : request.names? = none) :
      Translates given given' request request
  | deletion {request : Request} {target : String} {id id' : UInt64}
      (named : request.names? = some id)
      (named' : { request with target := target }.names? = some id')
      (known : ∀ place : Nat, given[place]? = some id → given'[place]? = some id')
      (unknown : id ∉ given → id' ∉ given') :
      Translates given given' request { request with target := target }

/-- An arrival in one run stands for one in another, and reads the same time if it creates a row. -/
structure Arrival.Translates (limit : Nat) (tokens : TextMap) (given given' : List UInt64)
    (arrival arrival' : Arrival) : Prop where
  request : arrival.request.Translates given given' arrival'.request
  clock : arrival.creates limit tokens = true → arrival'.moment.now = arrival.moment.now

/-- The exchanges of one run stand for those of another, each in view of the identifiers given out
so far. -/
inductive Exchange.Translate (limit : Nat) (tokens : TextMap) :
    List UInt64 → List UInt64 → List Exchange → List Exchange → Prop
  | nil (given given' : List UInt64) : Translate limit tokens given given' [] []
  | cons {given given' : List UInt64} {exchange exchange' : Exchange}
      {others others' : List Exchange}
      (first : exchange.arrival.Translates limit tokens given given' exchange'.arrival)
      (rest : Translate limit tokens (given ++ exchange.added) (given' ++ exchange'.added)
        others others') :
      Translate limit tokens given given' (exchange :: others) (exchange' :: others')

/-- Two responses are the same but for the identifiers of rows, which are renamed. -/
inductive Response.Agrees (names : Renaming) : Response → Response → Prop
  | same {response : Response} (rowless : response.status ≠ 200 ∨ response.body = []) :
      Agrees names response response
  | answered {answer answer' : HistoryAnswer} (alike : names.Answer answer answer') :
      Agrees names (openToAll (respond answer)) (openToAll (respond answer'))

def Request.isAtHistory (request : Request) : Bool :=
  request.route?.any Route.isHistory

def Exchange.Agrees (names : Renaming) (exchange exchange' : Exchange) : Prop :=
  exchange.arrival.request.isAtHistory = true →
    Response.Agrees names exchange.response exchange'.response

section

variable {settings : Settings} {limit : Nat} {now now' : Instant} {route : Route}
  {request request' : Request} {tokens : TextMap} {user : String} {names further : Renaming}
  {given given' : List UInt64}

theorem Response.Agrees.mono (more : names.pairs ⊆ further.pairs) {response response' : Response}
    (agrees : Agrees names response response') : Agrees further response response' := by
  cases agrees with
  | same rowless => exact .same rowless
  | answered alike => exact .answered (alike.mono more)

/-- Two arrivals that stand for each other make calls that stand for each other, or none. -/
theorem Arrival.Translates.call? {arrival arrival' : Arrival}
    (translates : arrival.Translates limit tokens given given' arrival') :
    Option.Rel (HistoryStore.Translates given given') (arrival.call? limit tokens)
      (arrival'.call? limit tokens) := by
  obtain ⟨moment, request⟩ := arrival
  obtain ⟨moment', request'⟩ := arrival'
  obtain ⟨requests, clock⟩ := translates
  cases requests with
  | same nameless =>
    simp only [Arrival.creates, Arrival.call?] at clock ⊢
    rw [call?_at limit tokens moment.now moment'.now request]
    cases called : Http.call? limit tokens moment.now request with
    | none => exact .none
    | some call =>
      refine .some ?_
      obtain ⟨route, user, placed, -, asked⟩ := call?_eq_some_iff.mp called
      rcases asks_cases asked with ⟨-, -, rfl⟩ | ⟨-, -, record, rfl⟩ |
        ⟨segment, id, rfl, delete, named, rfl⟩
      · exact .list user
      · have same : moment'.now = moment.now := clock (by rw [called]; rfl)
        rw [same]
        exact .create user record moment.now
      · simp [Request.names?, placed, delete, named, Except.toOption] at nameless
  | @deletion target id id' named named' known unknown =>
    -- Which user sent a request and how long its body is do not depend on its target.
    have same_user : { request with target := target }.user? tokens = request.user? tokens := rfl
    have same_length : { request with target := target }.declaresTooMuch limit =
      request.declaresTooMuch limit := rfl
    simp only [Arrival.call?, call?_of_names named, call?_of_names named', same_user, same_length]
    split
    · exact .none
    · cases request.user? tokens with
      | none => exact .none
      | some user => exact .some (.delete known unknown)

theorem Arrival.Translates.method_eq {arrival arrival' : Arrival}
    (translates : arrival.Translates limit tokens given given' arrival') :
    arrival'.request.method = arrival.request.method := by
  obtain ⟨moment, request⟩ := arrival
  obtain ⟨moment', request'⟩ := arrival'
  cases translates.request <;> rfl

theorem Request.exists_route_of_isAtHistory (history : request.isAtHistory = true) :
    ∃ route, request.route? = some route ∧ route.isHistory = true := by
  unfold Request.isAtHistory at history
  exact (Option.any_eq_true _ _).mp history

theorem status_finished (request : Request) (route : Route) (response : Response) :
    (finished request (allowing route request response)).status = response.status := by
  unfold finished allowing
  split <;> split <;> rfl

theorem answerOptions_eq {state state' : State} {store store' : HistoryStore}
    (keeps : state.Keeps tokens store) (keeps' : state'.Keeps tokens store') :
    answerOptions request state = answerOptions request state' := by
  have held : state.history = some ⟨.memory store, tokens⟩ := keeps
  have held' : state'.history = some ⟨.memory store', tokens⟩ := keeps'
  simp only [answerOptions, held, held', Option.isSome_some]

theorem body_answerOptions (state : State) : (answerOptions request state).body = [] := by
  unfold answerOptions
  cases Route.ofPath? state.history.isSome request.path <;> rfl

/-- Answers that agree make responses that agree. A request for the head alone is for a list. -/
theorem agrees_finished {answer answer' : HistoryAnswer} (alike : names.Answer answer answer')
    (same_method : request'.method = request.method)
    (listing : request.method = "HEAD" → ∃ rows, answer = .listed rows) :
    Response.Agrees names (finished request (respond answer))
      (finished request' (respond answer')) := by
  unfold finished
  rw [same_method]
  split
  next head =>
    obtain ⟨rows, rfl⟩ := listing head
    cases alike
    exact .same (.inr rfl)
  next => exact .answered alike

section

variable {state state' : State} {store store' : HistoryStore} {arrival arrival' : Arrival}

/-- A request that makes no call gets a response that carries no row and does not depend on the
history. -/
theorem agrees_of_no_call (keeps : state.Keeps tokens store) (keeps' : state'.Keeps tokens store')
    (translates : arrival.Translates settings.bodyLimit tokens given given' arrival')
    (authentic : arrival.request.user? tokens = some user)
    (history : arrival.request.isAtHistory = true)
    (called : arrival.call? settings.bodyLimit tokens = none) :
    Response.Agrees names (answer settings arrival.moment arrival.request state).response
      (answer settings arrival'.moment arrival'.request state').response := by
  obtain ⟨moment, request⟩ := arrival
  obtain ⟨moment', request'⟩ := arrival'
  obtain ⟨route, placed, at_history⟩ := Request.exists_route_of_isAtHistory history
  have refused : ∃ response,
      asks settings.bodyLimit user moment.now route request = .error response := by
    cases asked : asks settings.bodyLimit user moment.now route request with
    | error response => exact ⟨response, rfl⟩
    | ok call =>
      have some_call := call?_eq_some_iff.mpr ⟨route, user, placed, authentic, asked⟩
      exact nomatch called.symm.trans some_call
  obtain ⟨response, refused⟩ := refused
  -- What is asked does not depend on the time as long as it is no call, nor on the target of a
  -- deletion as long as the body is too large.
  have rowless := status_of_asks_eq_error refused
  cases translates.request with
  | same nameless =>
    by_cases options : request.method = "OPTIONS"
    · rw [answer_of_options options, answer_of_options options, answerOptions_eq keeps keeps']
      refine .same (.inr ?_)
      simp only [Reply.only, finished, options]
      exact body_answerOptions state'
    · have refused' := asks_at settings.bodyLimit user moment.now moment'.now route request
      rw [refused] at refused'
      rw [answer_of_refused keeps placed at_history authentic options refused,
        answer_of_refused keeps' placed at_history authentic options refused']
      exact .same (.inl (status_finished request route response ▸ rowless))
  | @deletion target id id' named named' known unknown =>
    obtain ⟨segment, placed_row, (delete : request.method = "DELETE"), asked⟩ :=
      asks_of_names named
    obtain ⟨segment', placed_row', -, asked'⟩ := asks_of_names named'
    obtain rfl := Option.some.inj (placed.symm.trans placed_row)
    have other : request.method ≠ "OPTIONS" := by simp [delete]
    have allowed : ∀ segment, request.method ∈ (Route.historyRow segment).methods := by
      simp [Route.methods, delete]
    rw [asked] at refused
    split at refused
    next large =>
      have refused' : asks settings.bodyLimit user moment'.now (.historyRow segment')
          { request with target := target } = .error tooLarge := by
        rw [asked']
        exact if_pos large
      rw [answer_of_refused keeps placed rfl authentic other (by rw [asked, if_pos large]),
        answer_of_refused keeps' placed_row' rfl authentic other refused']
      have status := status_finished request (.historyRow segment) tooLarge
      simp only [Reply.only, allowing, if_pos (allowed _)] at status ⊢
      exact .same (.inl (status ▸ by decide))
    next => cases refused

/-- In two histories that hold the same for a user, requests of the user that stand for each other
get responses that agree. -/
theorem agrees_answer (keeps : state.Keeps tokens store) (keeps' : state'.Keeps tokens store')
    (translates : arrival.Translates settings.bodyLimit tokens given given' arrival')
    (authentic : arrival.request.user? tokens = some user)
    (history : arrival.request.isAtHistory = true)
    (alike : ∀ call call', arrival.call? settings.bodyLimit tokens = some call →
      arrival'.call? settings.bodyLimit tokens = some call' →
      names.Answer (store.perform call).1 (store'.perform call').1) :
    Response.Agrees names (answer settings arrival.moment arrival.request state).response
      (answer settings arrival'.moment arrival'.request state').response := by
  have calls := translates.call?
  cases called : arrival.call? settings.bodyLimit tokens with
  | none => exact agrees_of_no_call keeps keeps' translates authentic history called
  | some call =>
    cases called' : arrival'.call? settings.bodyLimit tokens with
    | none =>
      rw [called, called'] at calls
      exact nomatch calls
    | some call' =>
      rw [answer_of_call keeps called, answer_of_call keeps' called']
      refine agrees_finished (alike call call' called called') translates.method_eq fun head => ?_
      obtain ⟨route, user, -, -, asked⟩ := call?_eq_some_iff.mp called
      rcases asks_cases asked with ⟨-, -, rfl⟩ | ⟨-, post, -⟩ | ⟨-, -, -, delete, -⟩
      · exact ⟨store.list user, rfl⟩
      · exact absurd (head.symm.trans post) (by decide)
      · exact absurd (head.symm.trans delete) (by decide)

end

end

namespace Service

variable {tokens : TextMap} {user : String} {names : Renaming} {service service' : Service}
  {store store' : HistoryStore}

theorem isBy_of_call? {limit : Nat} {arrival : Arrival} {call : HistoryCall}
    (called : arrival.call? limit tokens = some call) : arrival.isBy tokens call.user = true := by
  obtain ⟨route, owner, -, authentic, asked⟩ := call?_eq_some_iff.mp called
  obtain ⟨-, -, -, rfl⟩ := asks_eq_ok asked
  simp [Arrival.isBy, authentic]

/-- An arrival of the user and what stands for it get responses that agree, and leave histories that
hold the same for the user. -/
theorem serve_agrees (keeps : service.state.Keeps tokens store)
    (keeps' : service'.state.Keeps tokens store')
    (same_settings : service'.settings = service.settings)
    (alike : HistoryStore.Alike names user store store') {arrival arrival' : Arrival}
    (own : arrival.isBy tokens user = true)
    (translates : arrival.Translates service.settings.bodyLimit tokens (names.pairs.map Prod.fst)
      (names.pairs.map Prod.snd) arrival')
    (room : arrival.creates service.settings.bodyLimit tokens = true →
      store.lastId.toNat ≠ Text.wordLimit) :
    ∃ further : Renaming, names.pairs ⊆ further.pairs ∧
      further.pairs.map Prod.fst = names.pairs.map Prod.fst ++ (service.serve arrival).1.added ∧
      further.pairs.map Prod.snd = names.pairs.map Prod.snd ++ (service'.serve arrival').1.added ∧
      (arrival.request.isAtHistory = true → Response.Agrees further
        (service.serve arrival).1.response (service'.serve arrival').1.response) ∧
      HistoryStore.Alike further user
        (store.after (arrival.call? service.settings.bodyLimit tokens))
        (store'.after (arrival'.call? service.settings.bodyLimit tokens)) := by
  have authentic : arrival.request.user? tokens = some user := by simpa [Arrival.isBy] using own
  have owned : ∀ call, arrival.call? service.settings.bodyLimit tokens = some call →
      call.user = user := by
    intro call called
    have by_owner := isBy_of_call? called
    simp only [Arrival.isBy, decide_eq_true_iff] at by_owner own
    exact Option.some.inj (by_owner.symm.trans own)
  obtain ⟨further, more, first, second, answers, alike⟩ :=
    alike.after_own owned translates.call? room
  rw [added_serve keeps, added_serve keeps', same_settings]
  refine ⟨further, more, first, second, fun history => ?_, alike⟩
  change Response.Agrees further
    (Http.answer service.settings arrival.moment arrival.request service.state).response
    (Http.answer service'.settings arrival'.moment arrival'.request service'.state).response
  rw [same_settings]
  exact agrees_answer keeps keeps' translates authentic history answers

theorem alike_of_other {limit : Nat} (alike : HistoryStore.Alike names user store store')
    {arrival : Arrival} (other : arrival.isBy tokens user ≠ true) :
    HistoryStore.Alike names user (store.after (arrival.call? limit tokens)) store' := by
  refine alike.after_other ?_
  rintro call called rfl
  exact other (isBy_of_call? called)

theorem room_of_cons {limit : Nat} {arrival : Arrival} {rest : List Arrival}
    (room : store.lastId.toNat + (arrival :: rest).countP (Arrival.creates limit tokens) ≤
      Text.wordLimit) :
    (arrival.creates limit tokens = true → store.lastId.toNat ≠ Text.wordLimit) ∧
      (store.after (arrival.call? limit tokens)).lastId.toNat +
        rest.countP (Arrival.creates limit tokens) ≤ Text.wordLimit := by
  have used := store.toNat_lastId_after_le (arrival.call? limit tokens)
  rw [List.countP_cons, Arrival.creates] at room
  refine ⟨fun creates full => ?_, by omega⟩
  rw [Arrival.creates] at creates
  rw [if_pos creates] at room
  omega

theorem exists_translation {limit : Nat} (alike : HistoryStore.Alike names user store store')
    (arrival : Arrival) : ∃ arrival', arrival.Translates limit tokens (names.pairs.map Prod.fst)
      (names.pairs.map Prod.snd) arrival' := by
  cases named : arrival.request.names? with
  | none => exact ⟨arrival, .same named, fun _ => rfl⟩
  | some id =>
    obtain ⟨segment, -, delete, -⟩ := asks_of_names named
    by_cases given : id ∈ names.pairs.map Prod.fst
    · -- The names are one to one, so the identifier has its place in them alone.
      obtain ⟨pair, member, rfl⟩ := List.mem_map.mp given
      refine ⟨⟨arrival.moment, { arrival.request with target := rowTarget pair.2 }⟩,
        .deletion named (names?_rowTarget delete pair.2) (fun place at_place => ?_)
          (fun unknown => absurd given unknown), fun _ => rfl⟩
      rw [List.getElem?_map, Option.map_eq_some_iff] at at_place ⊢
      obtain ⟨pair', found, same⟩ := at_place
      exact ⟨pair', found, (Renaming.eq_iff (List.mem_of_getElem? found) member).mp same⟩
    · refine ⟨⟨arrival.moment, { arrival.request with target := rowTarget 0 }⟩,
        .deletion named (names?_rowTarget delete 0)
          (fun place at_place => absurd (List.mem_of_getElem? at_place) given)
          fun _ zero_given => ?_, fun _ => rfl⟩
      obtain ⟨pair, member, zero⟩ := List.mem_map.mp zero_given
      exact UInt64.ne_of_lt (alike.positive pair member) zero.symm

theorem exists_translated_run (keeps : service.state.Keeps tokens store)
    (keeps' : service'.state.Keeps tokens store')
    (same_settings : service'.settings = service.settings)
    (alike : HistoryStore.Alike names user store store') (arrivals : List Arrival)
    (room : store.lastId.toNat +
      arrivals.countP (Arrival.creates service.settings.bodyLimit tokens) ≤ Text.wordLimit) :
    ∃ arrivals', Exchange.Translate service.settings.bodyLimit tokens (names.pairs.map Prod.fst)
      (names.pairs.map Prod.snd) ((service.run arrivals).1.filter (Exchange.isBy tokens user))
      (service'.run arrivals').1 := by
  induction arrivals generalizing names service service' store store' with
  | nil => exact ⟨[], .nil _ _⟩
  | cons arrival rest ih =>
    obtain ⟨room_now, room_rest⟩ := room_of_cons room
    by_cases own : arrival.isBy tokens user = true
    case neg =>
      rw [filter_run_cons_of_other own]
      exact ih (keeps_serve keeps arrival) keeps' same_settings (alike_of_other alike own) room_rest
    case pos =>
      rw [filter_run_cons_of_own own]
      obtain ⟨arrival', first⟩ := exists_translation alike arrival
      obtain ⟨mid, -, fst_eq, snd_eq, -, alike_next⟩ :=
        serve_agrees keeps keeps' same_settings alike own first room_now
      have keeps_next' := keeps_serve keeps' arrival'
      rw [same_settings] at keeps_next'
      obtain ⟨rest', translated⟩ :=
        ih (keeps_serve keeps arrival) keeps_next' same_settings alike_next room_rest
      rw [fst_eq, snd_eq] at translated
      exact ⟨arrival' :: rest', .cons first translated⟩

/-- Along two runs from histories that hold the same for a user, the user's exchanges agree, and the
identifiers of the rows that they add are the further names. -/
theorem run_agrees (keeps : service.state.Keeps tokens store)
    (keeps' : service'.state.Keeps tokens store')
    (same_settings : service'.settings = service.settings)
    (alike : HistoryStore.Alike names user store store') {arrivals arrivals' : List Arrival}
    (room : store.lastId.toNat +
      arrivals.countP (Arrival.creates service.settings.bodyLimit tokens) ≤ Text.wordLimit)
    (translated : Exchange.Translate service.settings.bodyLimit tokens (names.pairs.map Prod.fst)
      (names.pairs.map Prod.snd) ((service.run arrivals).1.filter (Exchange.isBy tokens user))
      (service'.run arrivals').1) :
    ∃ further : Renaming, names.pairs ⊆ further.pairs ∧
      further.pairs.map Prod.fst = names.pairs.map Prod.fst ++
        ((service.run arrivals).1.filter (Exchange.isBy tokens user)).flatMap Exchange.added ∧
      further.pairs.map Prod.snd = names.pairs.map Prod.snd ++
        (service'.run arrivals').1.flatMap Exchange.added ∧
      List.Forall₂ (Exchange.Agrees further)
        ((service.run arrivals).1.filter (Exchange.isBy tokens user))
        (service'.run arrivals').1 := by
  -- On the arrivals of the full run. The histories drift apart, so both vary and the names grow.
  induction arrivals generalizing names service service' store store' arrivals' with
  | nil =>
    cases arrivals' with
    | nil => exact ⟨names, List.Subset.refl _, by simp [run], by simp [run], .nil⟩
    | cons arrival' rest' => exact nomatch translated
  | cons arrival rest ih =>
    obtain ⟨room_now, room_rest⟩ := room_of_cons room
    by_cases own : arrival.isBy tokens user = true
    case neg =>
      rw [filter_run_cons_of_other own] at translated ⊢
      exact ih (keeps_serve keeps arrival) keeps' same_settings (alike_of_other alike own) room_rest
        translated
    case pos =>
      rw [filter_run_cons_of_own own] at translated ⊢
      cases arrivals' with
      | nil => exact nomatch translated
      | cons arrival' rest' =>
        simp only [run_cons] at translated ⊢
        obtain _ | @⟨_, _, _, _, _, _, (first : arrival.Translates _ _ _ _ arrival'),
          rest_translated⟩ := translated
        obtain ⟨mid, more, fst_eq, snd_eq, agrees, alike_next⟩ :=
          serve_agrees keeps keeps' same_settings alike own first room_now
        rw [← fst_eq, ← snd_eq] at rest_translated
        have keeps_next' := keeps_serve keeps' arrival'
        rw [same_settings] at keeps_next'
        obtain ⟨further, more', fst_eq', snd_eq', agree⟩ :=
          ih (keeps_serve keeps arrival) keeps_next' same_settings alike_next room_rest
            rest_translated
        refine ⟨further, List.Subset.trans more more', ?_, ?_,
          .cons (fun history => (agrees history).mono more') agree⟩
        · rw [fst_eq', fst_eq, List.flatMap_cons, List.append_assoc]
        · rw [snd_eq', snd_eq, List.flatMap_cons, List.append_assoc]

theorem keeps_run (keeps : service.state.Keeps tokens store) (arrivals : List Arrival) :
    (service.run arrivals).2.state.Keeps tokens (service.run arrivals).2.store := by
  induction arrivals generalizing service store with
  | nil =>
    rw [run, store_of_keeps keeps]
    exact keeps
  | cons arrival rest ih => exact ih (keeps_serve keeps arrival)

theorem rowsOf_run_of_others (keeps : service.state.Keeps tokens store) {arrivals : List Arrival}
    (others : ∀ arrival ∈ arrivals, arrival.isBy tokens user ≠ true) :
    (service.run arrivals).2.store.rowsOf user = store.rowsOf user := by
  induction arrivals generalizing service store with
  | nil => rw [run, store_of_keeps keeps]
  | cons arrival rest ih =>
    rw [List.forall_mem_cons] at others
    rw [run_cons, ih (keeps_serve keeps arrival) others.2]
    cases called : arrival.call? service.settings.bodyLimit tokens with
    | none => rfl
    | some call =>
      refine store.rowsOf_perform_of_other ?_
      rintro rfl
      exact others.1 (isBy_of_call? called)

/-- **Users do not see each other.** Take a run of a service with a new history, and fewer creations
than there are identifiers. Some run stands for the exchanges of one user, and in each such run the
user's responses at the history are the same up to a renaming that takes the identifiers of the
user's rows, one by one and in ascending order, to those of the other run. What other users do at
any time leaves the list of the user alone. -/
theorem run_isolates (fresh : service.state.Keeps tokens .empty) (user : String)
    (arrivals : List Arrival)
    (few : arrivals.countP (Arrival.creates service.settings.bodyLimit tokens) ≤ Text.wordLimit) :
    let own := (service.run arrivals).1.filter (Exchange.isBy tokens user)
    (∃ arrivals', Exchange.Translate service.settings.bodyLimit tokens [] [] own
      (service.run arrivals').1) ∧
    (∀ arrivals', Exchange.Translate service.settings.bodyLimit tokens [] [] own
        (service.run arrivals').1 →
      ∃ names : Renaming, names.pairs.map Prod.fst = own.flatMap Exchange.added ∧
        names.pairs.map Prod.snd = (service.run arrivals').1.flatMap Exchange.added ∧
        List.Forall₂ (Exchange.Agrees names) own (service.run arrivals').1) ∧
    ∀ others : List Arrival, (∀ arrival ∈ others, arrival.isBy tokens user ≠ true) →
      (service.run (arrivals ++ others)).2.store.list user =
        (service.run arrivals).2.store.list user := by
  have alike := HistoryStore.Alike.empty user
  have room : HistoryStore.empty.lastId.toNat +
      arrivals.countP (Arrival.creates service.settings.bodyLimit tokens) ≤ Text.wordLimit := by
    rwa [show HistoryStore.empty.lastId.toNat = 0 from rfl, Nat.zero_add]
  refine ⟨exists_translated_run fresh fresh rfl alike arrivals room, fun arrivals' translated => ?_,
    fun others foreign => ?_⟩
  · obtain ⟨names, -, fst_eq, snd_eq, agree⟩ := run_agrees fresh fresh rfl alike room translated
    exact ⟨names, fst_eq, snd_eq, agree⟩
  · rw [run_append, HistoryStore.list, HistoryStore.list]
    exact congrArg (List.mergeSort · HistoryRow.precedes)
      (rowsOf_run_of_others (keeps_run fresh arrivals) foreign)

/-- Another user's row takes the first identifier, and the own row, created and deleted, has the
second. -/
theorem run_isolates_of_two_users :
    let configuration : Configuration :=
      { Configuration.default with
        history := ⟨true, .ofList [("alpha", "alice"), ("beta", "bob")]⟩ }
    let runner : Runner := fun _ _ files => (.broken, files)
    let service : Service :=
      ⟨8080, .ofConfiguration configuration runner, .ofConfiguration configuration .empty⟩
    let tokens := configuration.history.tokens
    let sent (token method target : String) : Arrival :=
      ⟨⟨⟨["tmp"], ⟨0⟩⟩, ⟨0⟩⟩, ⟨method, target, [("authorization", Text.Utf8.encode token.toList)],
        Text.Utf8.encode "\x7b\x7d".toList⟩⟩
    let arrivals := [sent "beta" "POST" "/history", sent "alpha" "POST" "/history",
      sent "alpha" "DELETE" "/history/2"]
    let own := (service.run arrivals).1.filter (Exchange.isBy tokens "alice")
    Service.start configuration runner .empty (fun _ => none) = .ok service ∧
      service.state.Keeps tokens .empty ∧
      arrivals.countP (Arrival.creates service.settings.bodyLimit tokens) ≤ Text.wordLimit ∧
      own.flatMap Exchange.added = [2] ∧
      ∃ arrivals' names, names.pairs.map Prod.fst = own.flatMap Exchange.added ∧
        List.Forall₂ (Exchange.Agrees names) own (service.run arrivals').1 := by
  intro configuration runner service tokens sent arrivals own
  have started : Service.start configuration runner .empty (fun _ => none) = .ok service := rfl
  have fresh : service.state.Keeps tokens .empty := keeps_of_start started rfl
  have few : arrivals.countP (Arrival.creates service.settings.bodyLimit tokens) ≤ Text.wordLimit :=
    Nat.le_trans List.countP_le_length (by decide)
  obtain ⟨⟨arrivals', translated⟩, agree, -⟩ := run_isolates fresh "alice" arrivals few
  obtain ⟨names, fst_eq, -, agrees⟩ := agree arrivals' translated
  exact ⟨started, fresh, few, by decide +kernel, arrivals', names, fst_eq, agrees⟩

end Service

end StylesheetRunner.Http
