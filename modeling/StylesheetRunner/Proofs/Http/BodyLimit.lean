import StylesheetRunner.Proofs.Http.Admission
import StylesheetRunner.Proofs.Http.TransformAnswers

/-!
The limit on bodies. A body longer than the limit is refused whether its length is declared, and
then before the request comes to its place, or only shows as the body is read. Either way the
refusal is the same, nothing is looked at in the body, and no other response looks like it.
-/

namespace StylesheetRunner.Http

def Request.DeclaresHonestly (request : Request) : Prop :=
  ∀ length, request.declaredLength? = some length → length = request.body.length

/-- The requests whose bodies are read: to transform, and to create a row for a known user. -/
inductive Request.Submits (request : Request) (state : State) : Prop
  | transformation (post : request.method = "POST") (place : request.path = "/transform".toList)
  | creation {backend : HistoryBackend} {tokens : TextMap} {user : String}
      (post : request.method = "POST") (place : request.path = "/history".toList)
      (enabled : state.history = some ⟨backend, tokens⟩) (owner : request.IsFrom tokens user)

structure Response.TellsTooLarge (response : Response) : Prop where
  status : response.status = 413
  body : response.body =
    Text.Utf8.encode "\x7b\"error\":\"payload too large\"\x7d".toList
  contentType : (response.headers.filter fun header => header.1 = "content-type") =
    [("content-type", "application/json")]

theorem tellsTooLarge_tooLarge : (openToAll tooLarge).TellsTooLarge where
  status := rfl
  body := by decide +kernel
  contentType := by decide +kernel

section

variable {settings : Settings} {moment : Moment} {route : Route} {request : Request}
  {state : State} {limit : Nat}

/-- Where the declared length is honest, reading the body meets the limit exactly when the body is
longer. -/
theorem holdsTooMuch_eq_of_honest (honest : request.DeclaresHonestly) (limit : Nat) :
    request.holdsTooMuch limit = decide (limit < request.body.length) := by
  unfold Request.holdsTooMuch
  cases declared : request.declaredLength? with
  | none => simp
  | some length =>
    obtain rfl := honest length declared
    simp only [Option.getD_some, decide_eq_decide]
    omega

theorem answer_of_post (post : request.method = "POST")
    (placed : Route.ofPath? state.history.isSome request.path = some route)
    (known : "POST" ∈ route.methods) :
    answer settings moment request state =
      let reply := answerRoute settings moment route request state
      { reply with response := openToAll reply.response } := by
  have no_options : request.method ≠ "OPTIONS" := by
    rw [post]
    decide
  have no_head : request.method ≠ "HEAD" := by
    rw [post]
    decide
  exact answer_of_method placed (post ▸ known) no_options no_head

theorem status_answerTransform (readable : request.holdsTooMuch settings.bodyLimit = false) :
    (answerTransform settings moment request state).response.status ≠ 413 := by
  unfold answerTransform
  simp only [readable, Bool.false_eq_true, if_false]
  cases StylesheetRunner.Request.read request.body with
  | error fault => exact (by decide : (400 : Nat) ≠ 413)
  | ok asked =>
    dsimp only
    rcases (settings.transformer.transform moment.circumstances asked state.files).ending with
      (failure | result) | _
    · cases failure
      · exact (by decide : (500 : Nat) ≠ 413)
      · exact (by decide : (400 : Nat) ≠ 413)
      · exact (by decide : (400 : Nat) ≠ 413)
      · exact (by decide : (408 : Nat) ≠ 413)
    · exact (by decide : (200 : Nat) ≠ 413)
    · exact (by decide : (500 : Nat) ≠ 413)

theorem status_answerCreate (readable : request.holdsTooMuch settings.bodyLimit = false)
    (service : HistoryService) (user : String) (now : Instant) :
    (answerCreate settings service user now request state).response.status ≠ 413 := by
  unfold answerCreate
  simp only [readable, Bool.false_eq_true, if_false]
  cases HistoryRecord.read request.body with
  | error fault => exact (by decide : (400 : Nat) ≠ 413)
  | ok record =>
    dsimp only
    cases service.backend.create user record now with
    | error error => exact (by decide : (500 : Nat) ≠ 413)
    | ok made => exact (by decide : (200 : Nat) ≠ 413)

/-- What becomes of a submission at its place: the limit is the only thing that decides whether the
response is the refusal of a large body. -/
theorem answer_of_submission (settings : Settings) (moment : Moment)
    (submits : request.Submits state) (honest : request.DeclaresHonestly) :
    (settings.bodyLimit < request.body.length →
      answer settings moment request state = .only state (openToAll tooLarge)) ∧
    (request.body.length ≤ settings.bodyLimit →
      (answer settings moment request state).response.status ≠ 413) := by
  have holds := holdsTooMuch_eq_of_honest honest settings.bodyLimit
  have fits (within : request.body.length ≤ settings.bodyLimit) :
      request.declaresTooMuch settings.bodyLimit = false ∧
        request.holdsTooMuch settings.bodyLimit = false :=
    admits_of_honest within honest
  cases submits with
  | transformation post place =>
    have placed : Route.ofPath? state.history.isSome request.path = some .transform := by
      rw [place]
      rfl
    rw [answer_of_post post placed (by decide)]
    constructor
    · intro long
      have met : request.holdsTooMuch settings.bodyLimit = true := by
        rw [holds, decide_eq_true long]
      -- Declared or not, the same refusal: at the gate, or by the reading of the body.
      simp only [answerRoute, Route.isHistory, post, answerTransform, met, if_true]
      split <;> rfl
    · intro within
      obtain ⟨undeclared, readable⟩ := fits within
      have at_place : answerRoute settings moment .transform request state =
          answerTransform settings moment request state := by
        simp only [answerRoute, undeclared, Bool.false_eq_true, if_false, Route.isHistory, post]
      rw [at_place]
      exact status_answerTransform readable
  | @creation backend tokens user post place enabled owner =>
    have placed : Route.ofPath? state.history.isSome request.path = some .history := by
      rw [place, enabled]
      rfl
    have authentic := authenticate_eq_ok (Request.isFrom_iff.mp owner) backend
    rw [answer_of_post post placed (by decide)]
    constructor
    · intro long
      have met : request.holdsTooMuch settings.bodyLimit = true := by
        rw [holds, decide_eq_true long]
      simp only [answerRoute, Route.isHistory, enabled, answerHistory, authentic, post,
        answerCreate, met, if_true]
      split <;> rfl
    · intro within
      obtain ⟨undeclared, readable⟩ := fits within
      have at_place : answerRoute settings moment .history request state =
          answerCreate settings ⟨backend, tokens⟩ user moment.now request state := by
        simp only [answerRoute, undeclared, Bool.false_eq_true, if_false, Route.isHistory, enabled,
          answerHistory, authentic, post]
      rw [at_place]
      exact status_answerCreate readable _ _ _

end

/-- **The limit on bodies.** Whatever the limit, a submission gets the status of a large body
exactly if its body is longer than the limit. The response then says so, and that is all that
happens: the state is as it was and nothing is launched, whatever the body holds. -/
theorem body_limit_is_exact (settings : Settings) (moment : Moment) {request : Request}
    {state : State} (submits : request.Submits state) (honest : request.DeclaresHonestly) :
    let reply := answer settings moment request state
    (reply.response.status = 413 ↔ settings.bodyLimit < request.body.length) ∧
    (settings.bodyLimit < request.body.length →
      reply.response.TellsTooLarge ∧ reply.state = state ∧ reply.launches = []) := by
  intro reply
  obtain ⟨refused, let_in⟩ := answer_of_submission settings moment submits honest
  refine ⟨⟨fun told => ?_, fun long => ?_⟩, fun long => ?_⟩
  · by_contra short
    exact let_in (Nat.not_lt.mp short) told
  · rw [show reply = _ from refused long]
    rfl
  · rw [show reply = _ from refused long]
    exact ⟨tellsTooLarge_tooLarge, rfl, rfl⟩

/-- With a limit of three million bytes a creation with a body of that length is let in, and refused
with one byte more, though no length is declared; a transformation with a byte more is refused where
its length is declared. -/
theorem body_limit_is_exact_of_megabytes :
    let configuration : Configuration :=
      { Configuration.default with
        bodyLimit := 3000000, history := ⟨true, .ofList [("alpha", "alice")]⟩ }
    let settings : Settings := .ofConfiguration configuration fun _ _ files => (.broken, files)
    let state : State := .ofConfiguration configuration .empty
    let moment : Moment := ⟨⟨["tmp"], ⟨0⟩⟩, ⟨0⟩⟩
    let sent (target name value : String) (length : Nat) : Request :=
      ⟨"POST", target, [(name, Text.Utf8.encode value.toList)], List.replicate length 0x20⟩
    let creation := sent "/history" "Authorization" "Bearer alpha"
    let transformation := sent "/transform" "Content-Length" "3000001"
    (answer settings moment (creation 3000000) state).response.status ≠ 413 ∧
      (answer settings moment (creation 3000001) state).response.TellsTooLarge ∧
      (answer settings moment (transformation 3000001) state).response.TellsTooLarge := by
  intro configuration settings state moment sent creation transformation
  have limit : settings.bodyLimit = 3000000 := by decide
  have owner (length : Nat) : (creation length).IsFrom configuration.history.tokens "alice" :=
    Request.isFrom_iff.mpr
      (by decide +kernel : (creation 0).user? configuration.history.tokens = some "alice")
  have submits (length : Nat) : (creation length).Submits state :=
    .creation rfl (by decide : (creation 0).path = "/history".toList) rfl (owner length)
  have undeclared (length : Nat) : (creation length).declaredLength? = none :=
    (by decide +kernel : (creation 0).declaredLength? = none)
  have honest (length : Nat) : (creation length).DeclaresHonestly :=
    fun declared same => nomatch (undeclared length).symm.trans same
  have declared : (transformation 3000001).declaredLength? = some 3000001 :=
    (by decide +kernel : (transformation 0).declaredLength? = some 3000001)
  have honest' : (transformation 3000001).DeclaresHonestly := by
    intro length same
    rw [← Option.some.inj (declared.symm.trans same)]
    exact List.length_replicate.symm
  have submits' : (transformation 3000001).Submits state :=
    .transformation rfl (by decide : (transformation 0).path = "/transform".toList)
  have length_creation (length : Nat) : (creation length).body.length = length :=
    List.length_replicate
  have length_transformation : (transformation 3000001).body.length = 3000001 :=
    List.length_replicate
  refine ⟨fun told => ?_, ?_, ?_⟩
  · have long := (body_limit_is_exact settings moment (submits _) (honest _)).1.mp told
    rw [limit, length_creation] at long
    exact Nat.lt_irrefl _ long
  · refine ((body_limit_is_exact settings moment (submits _) (honest _)).2 ?_).1
    rw [limit, length_creation]
    decide
  · refine ((body_limit_is_exact settings moment submits' honest').2 ?_).1
    rw [limit, length_transformation]
    decide

end StylesheetRunner.Http
