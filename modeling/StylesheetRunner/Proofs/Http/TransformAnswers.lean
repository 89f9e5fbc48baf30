import StylesheetRunner.Proofs.Http.Answers
import StylesheetRunner.Proofs.Records.Bodies
import StylesheetRunner.Proofs.Transformation.Cleanup
import StylesheetRunner.Proofs.Transformation.Outcome

/-!
What a client is told of a transformation. A body that is no request is answered by its fault, and
nothing happens; a request is answered by the ending of its transformation, of which a failure with
a file tells no more than which file it was. Every message comes back from its response, and the
workspace is gone.
-/

namespace StylesheetRunner

namespace Http

def Tells (response : Response) : Ending → Prop
  | .answered (.ok result) =>
    response = openToAll (.ofValue 200 result.toValue) ∧ response.status = 200 ∧
      StylesheetRunner.Result.read response.body = .ok result
  | .answered (.error (.file role _)) => Refuses response 500 role.publicMessage
  | .answered (.error (.invalidParameter name)) =>
    Refuses response 400
      s!"invalid parameter {Text.quoted name}: names and inline values cannot contain line breaks"
  | .answered (.error (.process diagnostics)) => Refuses response 400 diagnostics
  | .answered (.error (.timeout _)) => Refuses response 408 "transformation timeout"
  | .broken => Refuses response 500 "internal server error"

theorem tells_transform (done : Transformation) :
    Tells (openToAll <|
      match done.ending with
      | .broken => .error 500 "internal server error"
      | .answered (.ok result) => .ofValue 200 result.toValue
      | .answered (.error failure) => failureResponse failure) done.ending := by
  rcases done.ending with (failure | result) | _
  · cases failure <;> exact refuses_error _ _
  · have takes := Result.takes_rearranged (Result.schema.rearranged_self result.toValue)
    exact ⟨rfl, rfl, Json.readWhole_of_written takes (Json.written_compact _)⟩
  · exact refuses_error _ _

section

variable {settings : Settings} {moment : Moment} {request : Request} {state : State}

/-- A body within the limit, whose declared length is its length if it is declared, is let in. -/
theorem admits_of_honest {limit : Nat} (within : request.body.length ≤ limit)
    (honest : ∀ length, request.declaredLength? = some length → length = request.body.length) :
    request.declaresTooMuch limit = false ∧ request.holdsTooMuch limit = false := by
  unfold Request.declaresTooMuch Request.holdsTooMuch
  cases declared : request.declaredLength? with
  | none => simpa using within
  | some length =>
    obtain rfl := honest length declared
    simp only [Option.getD_some, decide_eq_false_iff_not, Nat.not_lt, Nat.le_min]
    exact ⟨within, within, Nat.le_refl _⟩

theorem answer_at_transform (post : request.method = "POST")
    (placed : request.path = "/transform".toList)
    (admitted : request.declaresTooMuch settings.bodyLimit = false) :
    answer settings moment request state =
      let reply := answerTransform settings moment request state
      { reply with response := openToAll reply.response } := by
  have found : Route.ofPath? state.history.isSome request.path = some .transform := by
    rw [placed]
    rfl
  have known : request.method ∈ Route.transform.methods := by
    rw [post]
    exact List.mem_cons_self
  have no_options : request.method ≠ "OPTIONS" := by
    rw [post]
    decide
  have no_head : request.method ≠ "HEAD" := by
    rw [post]
    decide
  have at_place : answerRoute settings moment .transform request state =
      answerTransform settings moment request state := by
    simp only [answerRoute, admitted, Bool.false_eq_true, if_false, Route.isHistory, post]
  rw [answer_of_method found known no_options no_head, at_place]

end

end Http

end StylesheetRunner
