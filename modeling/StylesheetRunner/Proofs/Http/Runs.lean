import StylesheetRunner.Proofs.Http.HistoryCalls

/-!
Runs of the service: arrivals answered one after the other, and what each run does to the history.
-/

namespace StylesheetRunner.Http

structure Arrival where
  moment : Moment
  request : Request

/-- An arrival and what came of it: the response, and the identifiers of the rows it added. -/
structure Exchange where
  arrival : Arrival
  response : Response
  added : List UInt64

namespace Service

def store (service : Service) : HistoryStore :=
  match service.state.history with
  | some ⟨.memory store, _⟩ => store
  | _ => .empty

def serve (service : Service) (arrival : Arrival) : Exchange × Service :=
  let (response, next) := service.answer arrival.moment arrival.request
  (⟨arrival, response, (next.store.rows.drop service.store.rows.length).map HistoryRow.id⟩, next)

def run (service : Service) : List Arrival → List Exchange × Service
  | [] => ([], service)
  | arrival :: rest =>
    let (exchange, next) := service.serve arrival
    let (exchanges, last) := next.run rest
    (exchange :: exchanges, last)

end Service

namespace Arrival

def call? (limit : Nat) (tokens : TextMap) (arrival : Arrival) : Option HistoryCall :=
  Http.call? limit tokens arrival.moment.now arrival.request

def creates (limit : Nat) (tokens : TextMap) (arrival : Arrival) : Bool :=
  (arrival.call? limit tokens).any HistoryCall.isCreation

def isBy (tokens : TextMap) (user : String) (arrival : Arrival) : Bool :=
  arrival.request.user? tokens = some user

end Arrival

def Exchange.isBy (tokens : TextMap) (user : String) (exchange : Exchange) : Bool :=
  exchange.arrival.isBy tokens user

namespace Service

variable {service : Service} {tokens : TextMap} {store : HistoryStore}

theorem keeps_of_start {configuration : Configuration} {runner : Runner} {files : FileTree}
    {refusal? : UInt16 → Option IoError}
    (started : Service.start configuration runner files refusal? = .ok service)
    (enabled : configuration.history.enabled = true) :
    service.state.Keeps configuration.history.tokens .empty := by
  unfold Service.start at started
  split at started
  · exact nomatch started
  · obtain rfl := Except.ok.inj started
    simp [State.Keeps, State.ofConfiguration, enabled]

theorem store_of_keeps (keeps : service.state.Keeps tokens store) : service.store = store := by
  have held : service.state.history = some ⟨.memory store, tokens⟩ := keeps
  simp only [Service.store, held]

theorem keeps_serve (keeps : service.state.Keeps tokens store) (arrival : Arrival) :
    (service.serve arrival).2.state.Keeps tokens
      (store.after (arrival.call? service.settings.bodyLimit tokens)) :=
  keeps_answer keeps

theorem added_serve (keeps : service.state.Keeps tokens store) (arrival : Arrival) :
    (service.serve arrival).1.added =
      store.givenBy (arrival.call? service.settings.bodyLimit tokens) := by
  change ((service.serve arrival).2.store.rows.drop service.store.rows.length).map
    HistoryRow.id = _
  rw [store_of_keeps keeps, store_of_keeps (keeps_serve keeps arrival), store.added_eq_givenBy]

theorem run_cons (service : Service) (arrival : Arrival) (rest : List Arrival) :
    service.run (arrival :: rest) =
      ((service.serve arrival).1 :: ((service.serve arrival).2.run rest).1,
        ((service.serve arrival).2.run rest).2) :=
  rfl

theorem filter_run_cons_of_own {user : String} {arrival : Arrival}
    (own : arrival.isBy tokens user = true) (rest : List Arrival) :
    (service.run (arrival :: rest)).1.filter (Exchange.isBy tokens user) =
      (service.serve arrival).1 ::
        ((service.serve arrival).2.run rest).1.filter (Exchange.isBy tokens user) :=
  List.filter_cons_of_pos own

theorem filter_run_cons_of_other {user : String} {arrival : Arrival}
    (other : arrival.isBy tokens user ≠ true) (rest : List Arrival) :
    (service.run (arrival :: rest)).1.filter (Exchange.isBy tokens user) =
      ((service.serve arrival).2.run rest).1.filter (Exchange.isBy tokens user) :=
  List.filter_cons_of_neg other

theorem run_append (service : Service) (arrivals further : List Arrival) :
    (service.run (arrivals ++ further)).2 = ((service.run arrivals).2.run further).2 := by
  induction arrivals generalizing service with
  | nil => rfl
  | cons arrival rest ih => exact ih _

end Service

end StylesheetRunner.Http
