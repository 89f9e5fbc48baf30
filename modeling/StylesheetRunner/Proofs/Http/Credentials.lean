import StylesheetRunner.Configuration.Loader
import StylesheetRunner.Proofs.Http.Isolation
import StylesheetRunner.Proofs.Http.Tokens
import StylesheetRunner.Proofs.Text.Utf8

/-!
Which of the tokens in the settings let their users in. A token goes through a header, which shows
visible ASCII, spaces and tabs only, and what is shown is trimmed before the table is asked. So a
token with other characters lets no one in, and one with blanks at its ends lets in the user of the
trimmed token, if there is one.
-/

namespace StylesheetRunner

namespace TextMap

theorem find?_of_mem {map : TextMap} {key value : String} (entry : (key, value) ∈ map.entries) :
    map.find? key = some value := by
  obtain ⟨entries, ascending⟩ := map
  unfold find?
  induction entries with
  | nil => cases entry
  | cons first rest ih =>
    rw [List.lookup_cons]
    rcases List.mem_cons.mp entry with rfl | later
    · simp
    · have different : (key == first.1) = false := by
        simpa using not_mem_of_ascending ascending _ later
      rw [different]
      exact ih (List.pairwise_cons.mp ascending).2 later

end TextMap

namespace Http

def IsHeaderCharacter (character : Char) : Prop :=
  (0x20 ≤ character.toNat ∧ character.toNat ≤ 0x7E) ∨ character = '\t'

instance (character : Char) : Decidable (IsHeaderCharacter character) :=
  inferInstanceAs (Decidable (_ ∨ _))

def IsShowable (token : String) : Prop :=
  ∀ character ∈ token.toList, IsHeaderCharacter character

instance (token : String) : Decidable (IsShowable token) :=
  List.decidableBAll IsHeaderCharacter token.toList

def Request.headerValues (request : Request) (name : String) : List (List UInt8) :=
  (request.headers.filter fun header => header.1.toLower = name).map Prod.snd

/-- The request has one authorization header, and in it the token behind the opening. -/
def Request.Presents (request : Request) (token : String) : Prop :=
  request.headerValues "authorization" = [Text.Utf8.encode (bearerMark ++ token.toList)]

instance (request : Request) (token : String) : Decidable (request.Presents token) :=
  inferInstanceAs (Decidable (_ = _))

/-- The history is served, and it takes the request to be the user's. -/
def State.Admits (state : State) (request : Request) (user : String) : Prop :=
  ∃ service, state.history = some service ∧ authenticate service request = .ok user

theorem lt_of_isHeaderCharacter {character : Char} (shown : IsHeaderCharacter character) :
    character.toNat < 0x80 := by
  rcases shown with visible | rfl
  · omega
  · decide

theorem isHeaderText_encodeCharacter_iff (character : Char) :
    IsHeaderText (Text.Utf8.encodeCharacter character) ↔ IsHeaderCharacter character := by
  by_cases ascii : character.toNat < 0x80
  · have value := Text.Utf8.toNat_toUInt8_of_ascii ascii
    have space : character.toUInt8 = 0x20 ↔ character.toNat = 0x20 := by
      rw [← UInt8.toNat_inj, value]
      rfl
    have tab : character.toUInt8 = 0x09 ↔ character = '\t' := by
      rw [← UInt8.toNat_inj, value, ← Char.toNat_inj]
      rfl
    rw [Text.Utf8.encodeCharacter_of_ascii ascii, IsHeaderText, List.forall_mem_singleton, value,
      space, tab, ← or_assoc]
    exact or_congr_left (by omega)
  · refine iff_of_false (fun text => ?_) fun shown => ascii (lt_of_isHeaderCharacter shown)
    obtain ⟨byte, member⟩ :=
      List.exists_mem_of_ne_nil _ (Text.Utf8.encodeCharacter_ne_nil character)
    have large := Text.Utf8.le_toNat_of_mem_encodeCharacter (Nat.le_of_not_lt ascii) member
    rcases text byte member with visible | rfl | rfl
    · omega
    · exact absurd large (by decide)
    · exact absurd large (by decide)

theorem isHeaderText_encode_iff (text : List Char) :
    IsHeaderText (Text.Utf8.encode text) ↔ ∀ character ∈ text, IsHeaderCharacter character := by
  unfold Text.Utf8.encode IsHeaderText
  rw [List.forall_mem_flatMap]
  exact forall₂_congr fun character _ => isHeaderText_encodeCharacter_iff character

theorem charactersOf_encode {text : List Char}
    (shown : ∀ character ∈ text, IsHeaderCharacter character) :
    charactersOf (Text.Utf8.encode text) = text := by
  have ascii : ∀ character ∈ text, character.toNat < 0x80 :=
    fun character member => lt_of_isHeaderCharacter (shown character member)
  rw [Text.Utf8.encode_of_ascii ascii, charactersOf, List.map_map]
  refine List.map_congr_left (fun character member => ?_) |>.trans (List.map_id text)
  rw [Function.comp_apply, Text.Utf8.toNat_toUInt8_of_ascii (ascii character member),
    Char.ofNat_toNat]
  rfl

section
variable {request : Request} {token : String}

theorem header?_eq_head? (request : Request) (name : String) :
    request.header? name = (request.headerValues name).head? := by
  rw [Request.header?, Request.headerValues, List.head?_map, List.head?_filter]

/-- A presented token is shown without the blanks at its ends, if it is shown at all. -/
theorem token?_of_presents (presents : request.Presents token) :
    request.token? =
      if IsShowable token then some (String.ofList (Text.trim token.toList)) else none := by
  have present : request.header? "authorization" =
      some (Text.Utf8.encode (bearerMark ++ token.toList)) := by
    rw [header?_eq_head?, presents, List.head?_cons]
  have mark : IsShowable "Bearer " := by decide
  have nonempty : Text.Utf8.encode (bearerMark ++ token.toList) ≠ [] := by
    rw [Text.Utf8.encode_append]
    exact List.append_ne_nil_of_left_ne_nil (by decide) _
  split
  next shown =>
    have all : ∀ character ∈ bearerMark ++ token.toList, IsHeaderCharacter character :=
      List.forall_mem_append.mpr ⟨mark, shown⟩
    rw [token?_of_text present nonempty ((isHeaderText_encode_iff _).mpr all),
      charactersOf_encode all, Text.withoutOpening?_eq_some_iff.mpr rfl, Option.getD_some]
  next hidden =>
    rw [token?_eq_none_iff]
    intro bytes found
    obtain rfl := Option.some.inj (present.symm.trans found)
    refine .inr fun text => hidden ?_
    exact (List.forall_mem_append.mp ((isHeaderText_encode_iff _).mp text)).2

theorem user?_of_presents (presents : request.Presents token) (tokens : TextMap) :
    request.user? tokens =
      if IsShowable token then tokens.find? (String.ofList (Text.trim token.toList)) else none := by
  rw [Request.user?, token?_of_presents presents]
  split
  next => exact userOfToken?_eq_find? tokens _
  next => rfl

theorem admits_iff {state : State} {backend : HistoryBackend} {tokens : TextMap} {user : String}
    (held : state.history = some ⟨backend, tokens⟩) :
    state.Admits request user ↔ request.user? tokens = some user := by
  constructor
  · rintro ⟨service, other, admitted⟩
    obtain rfl := Option.some.inj (held.symm.trans other)
    cases found : request.user? tokens with
    | none =>
      obtain ⟨response, refused⟩ := authenticate_eq_error found backend
      cases admitted.symm.trans refused
    | some owner =>
      have same := (authenticate_eq_ok found backend).symm.trans admitted
      rw [Except.ok.inj same]
  · intro found
    exact ⟨_, held, authenticate_eq_ok found backend⟩

/-- **The tokens that work.** While a service that was started with the history enabled runs, a
request that presents a token is taken to be the user's whom the table has for the token without the
blanks at its ends, and no one's where the token cannot be shown in a header. So the user of an
entry is let in exactly when the token can be shown and has no blanks at its ends, or else leads to
the same user without them. -/
theorem token_admits_iff {configuration : Configuration} {runner : Runner} {files : FileTree}
    {refusal? : UInt16 → Option IoError} {service : Service} {user : String}
    (started : Service.start configuration runner files refusal? = .ok service)
    (enabled : configuration.history.enabled = true)
    (entry : (token, user) ∈ configuration.history.tokens.entries)
    (presents : request.Presents token) (arrivals : List Arrival) :
    let tokens := configuration.history.tokens
    let state := (service.run arrivals).2.state
    let trimmed := String.ofList (Text.trim token.toList)
    (state.Admits request user ↔
        IsShowable token ∧
          (Text.Trimmed token.toList token.toList ∨ tokens.find? trimmed = some user)) ∧
      ∀ other, state.Admits request other ↔
        IsShowable token ∧ tokens.find? trimmed = some other := by
  intro tokens state trimmed
  have keeps : state.Keeps tokens (service.run arrivals).2.store :=
    Service.keeps_run (Service.keeps_of_start started enabled) arrivals
  have admits (other : String) :
      state.Admits request other ↔ IsShowable token ∧ tokens.find? trimmed = some other := by
    rw [admits_iff keeps, user?_of_presents presents]
    split
    next shown => simp only [shown, true_and, trimmed]
    next hidden => simp only [hidden, false_and, reduceCtorEq]
  refine ⟨?_, admits⟩
  rw [admits]
  refine and_congr_right fun shown => ⟨.inr, ?_⟩
  rintro (whole | same)
  · have unchanged : trimmed = token := by
      rw [← String.toList_inj, String.toList_ofList, Text.trim_eq_of_trimmed whole]
    rw [unchanged]
    exact TextMap.find?_of_mem entry
  · exact same

/-- A token with the opening and a tab in it, and one with blanks that has its user without them as
well, after a request of someone else. -/
theorem token_admits_iff_of_two_entries :
    let configuration : Configuration :=
      { Configuration.default with
        history := ⟨true, .ofList [("Bearer a\tb", "alice"), (" key ", "bob"), ("key", "bob")]⟩ }
    let runner : Runner := fun _ _ files => (.broken, files)
    let service : Service :=
      ⟨8080, .ofConfiguration configuration runner, .ofConfiguration configuration .empty⟩
    let sent (token : String) : Request :=
      ⟨"GET", "/history", [("Authorization", Text.Utf8.encode ("Bearer " ++ token).toList)], []⟩
    let arrivals : List Arrival := [⟨⟨⟨["tmp"], ⟨0⟩⟩, ⟨0⟩⟩, sent "key"⟩]
    let state := (service.run arrivals).2.state
    Service.start configuration runner .empty (fun _ => none) = .ok service ∧
      ("Bearer a\tb", "alice") ∈ configuration.history.tokens.entries ∧
      (" key ", "bob") ∈ configuration.history.tokens.entries ∧
      (sent "Bearer a\tb").Presents "Bearer a\tb" ∧ (sent " key ").Presents " key " ∧
      state.Admits (sent "Bearer a\tb") "alice" ∧ state.Admits (sent " key ") "bob" := by
  intro configuration runner service sent arrivals state
  have started : Service.start configuration runner .empty (fun _ => none) = .ok service := rfl
  have marked : ("Bearer a\tb", "alice") ∈ configuration.history.tokens.entries := by decide +kernel
  have padded : (" key ", "bob") ∈ configuration.history.tokens.entries := by decide +kernel
  have whole := Text.trimmed_trim "Bearer a\tb".toList
  rw [show Text.trim "Bearer a\tb".toList = "Bearer a\tb".toList by decide] at whole
  have presents : (sent "Bearer a\tb").Presents "Bearer a\tb" := by decide +kernel
  have presents_padded : (sent " key ").Presents " key " := by decide +kernel
  refine ⟨started, marked, padded, presents, presents_padded, ?_, ?_⟩
  · exact (token_admits_iff started rfl marked presents arrivals).1.mpr ⟨by decide, .inl whole⟩
  · exact (token_admits_iff started rfl padded presents_padded arrivals).1.mpr
      ⟨by decide, .inr (by decide +kernel)⟩

/-- Settings that pass the check may hold a token with a blank before it, which lets in the user of
another token, and a token with an accent, which lets in no one. -/
theorem padded_and_accented_tokens_fail :
    let configuration : Configuration :=
      { Configuration.default with
        history := ⟨true, .ofList [(" key", "alice"), ("key", "bob"), ("clé", "carol")]⟩ }
    let state : State := .ofConfiguration configuration .empty
    let sent (token : String) : Request :=
      ⟨"GET", "/history", [("Authorization", Text.Utf8.encode ("Bearer " ++ token).toList)], []⟩
    configuration.validate = .ok () ∧
      ((" key", "alice") ∈ configuration.history.tokens.entries ∧ (sent " key").Presents " key" ∧
        ¬ state.Admits (sent " key") "alice" ∧ state.Admits (sent " key") "bob") ∧
      ("clé", "carol") ∈ configuration.history.tokens.entries ∧ (sent "clé").Presents "clé" ∧
        ∀ user, ¬ state.Admits (sent "clé") user := by
  intro configuration state sent
  have held : state.history = some ⟨.memory .empty, configuration.history.tokens⟩ := rfl
  have padded : (sent " key").user? configuration.history.tokens = some "bob" := by decide +kernel
  have accented : (sent "clé").user? configuration.history.tokens = none := by decide +kernel
  have locked_out : ¬ state.Admits (sent " key") "alice" := by
    rw [admits_iff held, padded]
    decide
  have no_one (user : String) : ¬ state.Admits (sent "clé") user := by
    rw [admits_iff held, accented]
    exact nofun
  exact ⟨by decide +kernel,
    ⟨by decide +kernel, by decide +kernel, locked_out, (admits_iff held).mpr padded⟩,
    by decide +kernel, by decide +kernel, no_one⟩

end

end Http

end StylesheetRunner
