import StylesheetRunner.Proofs.Http.HistoryCalls
import StylesheetRunner.Proofs.Records.Rows

/-!
What a client reads of a response: the message of a refusal, and the rows of the history.
-/

namespace StylesheetRunner.Http

structure Refuses (response : Response) (status : Nat) (message : String) : Prop where
  response_eq : response = openToAll (.error status message)
  status_eq : response.status = status
  json : ("content-type", "application/json") ∈ response.headers
  reads_back : Json.readWhole Json.readTextMap response.body = .ok (.ofList [("error", message)])

theorem refuses_error (status : Nat) (message : String) :
    Refuses (openToAll (.error status message)) status message := by
  have takes : Json.readTextMap.Takes (.object [("error", .text message)])
      (.ofList [("error", message)]) := @Json.takes_textMap [("error", message)] _ (.refl _)
  exact ⟨rfl, rfl, List.mem_cons_self, Json.readWhole_of_written takes (Json.written_compact _)⟩

def Reports (response : Response) : HistoryAnswer → Prop
  | .listed rows => response.status = 200 ∧ HistoryRow.readAll response.body = .ok rows
  | .created row => response.status = 200 ∧ HistoryRow.read response.body = .ok row
  | .refused _ => Refuses response 500 "db error"
  | .deleted true => response.status = 204 ∧ response.body = []
  | .deleted false => Refuses response 404 "not found"

theorem reports_respond (answer : HistoryAnswer) :
    Reports (openToAll (respond answer)) answer := by
  cases answer with
  | listed rows => exact ⟨rfl, HistoryRow.readAll_compact rows⟩
  | created row => exact ⟨rfl, HistoryRow.read_compact row⟩
  | refused error => exact refuses_error 500 "db error"
  | deleted found =>
    cases found with
    | true => exact ⟨rfl, rfl⟩
    | false => exact refuses_error 404 "not found"

end StylesheetRunner.Http
