import Mathlib.Data.List.TakeWhile
import StylesheetRunner.Proofs.Http.HistoryCalls
import StylesheetRunner.Proofs.Text.Numeral
import StylesheetRunner.Proofs.Text.Utf8

/-!
How a request names a row of the history. What a deletion asks depends on the identifier that its
path names, and the numeral of an identifier behind the place of the rows names that identifier.
-/

namespace StylesheetRunner.Http

def Request.names? (request : Request) : Option UInt64 :=
  match request.route?, request.method with
  | some (.historyRow segment), "DELETE" => (identifier segment).toOption
  | _, _ => none

section

variable {limit : Nat} {now : Instant} {request : Request} {tokens : TextMap} {id : UInt64}

theorem asks_of_names (named : request.names? = some id) :
    ∃ segment, request.route? = some (.historyRow segment) ∧ request.method = "DELETE" ∧
      ∀ limit user now, asks limit user now (.historyRow segment) request =
        if request.declaresTooMuch limit then .error tooLarge else .ok (.delete user id) := by
  unfold Request.names? at named
  split at named
  next segment placed delete =>
    refine ⟨segment, placed, delete, fun limit user now => ?_⟩
    have read : identifier segment = .ok id := by
      cases read : identifier segment with
      | error fault => simp [read, Except.toOption] at named
      | ok value => simpa [read, Except.toOption] using named
    simp only [asks, delete, asksDeletion, read]
  next => cases named

theorem call?_of_names (named : request.names? = some id) :
    call? limit tokens now request =
      if request.declaresTooMuch limit then none
      else (request.user? tokens).map fun user => .delete user id := by
  obtain ⟨segment, placed, -, asked⟩ := asks_of_names named
  unfold call?
  rw [placed]
  cases request.user? tokens with
  | none => simp
  | some user =>
    simp only [asked]
    split <;> rfl

end

def rowTarget (id : UInt64) : String :=
  String.ofList ("/history/".toList ++ Text.naturalText id.toNat)

theorem percentDecode_of_plain {bytes : List UInt8} (plain : ∀ byte ∈ bytes, byte ≠ 0x25) :
    percentDecode bytes = bytes := by
  fun_induction percentDecode bytes with
  | case1 => rfl
  | case2 first second rest high low => exact absurd rfl (plain 0x25 List.mem_cons_self)
  | case3 first second rest => exact absurd rfl (plain 0x25 List.mem_cons_self)
  | case4 byte rest _ ih => rw [ih (List.forall_mem_cons.mp plain).2]

theorem ne_percent_of_mem_encode {text : List Char}
    (digits : ∀ character ∈ text, character.isDigit = true) {byte : UInt8}
    (member : byte ∈ Text.Utf8.encode text) : byte ≠ 0x25 := by
  obtain ⟨character, in_text, in_bytes⟩ := List.mem_flatMap.mp member
  have bounds := Text.toNat_of_isDigit (digits character in_text)
  simp only [Text.Utf8.encodeCharacter, if_pos (show character.toNat < 0x80 by omega),
    List.mem_singleton] at in_bytes
  rintro rfl
  have same := congrArg UInt8.toNat in_bytes
  simp at same
  omega

theorem identifier_naturalText (id : UInt64) :
    identifier (Text.naturalText id.toNat) = .ok id := by
  have plain : ∀ byte ∈ Text.Utf8.encode (Text.naturalText id.toNat), byte ≠ 0x25 :=
    fun _ => ne_percent_of_mem_encode fun _ => Text.isDigit_of_mem_naturalText
  have small := HistoryStore.toNat_le_wordLimit id
  unfold identifier
  rw [percentDecode_of_plain plain, Text.Utf8.decode?_encode]
  simp only [Text.readNatural_naturalText small, UInt64.ofNat_toNat]

/-- What a segment stands for is the numeral of a row's identifier. -/
def NamesRow (segment : List Char) (id : UInt64) : Prop :=
  ∃ text, Text.Utf8.decode? (percentDecode (Text.Utf8.encode segment)) = some text ∧
    Text.IsNumeral text id.toNat

theorem identifier_eq_ok_iff {segment : List Char} {id : UInt64} :
    identifier segment = .ok id ↔ NamesRow segment id := by
  have small := HistoryStore.toNat_le_wordLimit id
  have numeral_iff (text : List Char) : Text.IsNumeral text id.toNat ↔
      Text.readNatural Text.wordLimit text = .ok id.toNat := by
    rw [Text.readNatural_eq_ok_iff, and_iff_left small]
  unfold identifier NamesRow
  cases Text.Utf8.decode? (percentDecode (Text.Utf8.encode segment)) with
  | none => simp
  | some text =>
    simp only [Option.some.injEq, exists_eq_left', numeral_iff]
    cases read : Text.readNatural Text.wordLimit text with
    | error fault => simp
    | ok value =>
      have within : value ≤ Text.wordLimit := (Text.readNatural_eq_ok_iff.mp read).2
      have kept : (UInt64.ofNat value).toNat = value :=
        UInt64.toNat_ofNat_of_lt' (Nat.lt_succ_of_le within)
      simp only [Except.ok.injEq]
      rw [← UInt64.toNat_inj, kept]

theorem ofPath?_of_segment {segment : List Char} (nonempty : segment ≠ [])
    (no_slash : '/' ∉ segment) :
    Route.ofPath? true ("/history/".toList ++ segment) = some (.historyRow segment) := by
  have rest :
      Text.withoutOpening? "/history/".toList ("/history/".toList ++ segment) = some segment :=
    Text.withoutOpening?_eq_some_iff.mpr rfl
  -- No other place has a path as long as this one.
  have longer : ∀ text : List Char, text.length ≤ 9 → "/history/".toList ++ segment ≠ text := by
    rintro _ short rfl
    have opening : "/history/".toList.length = 9 := by decide
    have positive := List.length_pos_iff.mpr nonempty
    rw [List.length_append] at short
    omega
  have elsewhere : "/history/".toList ++ segment ≠ "/transform".toList := by
    intro same
    exact absurd (congrArg (fun path => path[1]?) same) (by simp)
  unfold Route.ofPath?
  rw [if_neg (longer _ (by decide)), if_neg elsewhere, if_neg (by decide),
    if_neg (longer _ (by decide)), rest]
  simp [nonempty, no_slash]

theorem not_endsPath_of_isDigit {character : Char} (digit : character.isDigit = true) :
    endsPath character = false := by
  have bounds := Text.toNat_of_isDigit digit
  have not_query : character ≠ '?' := by
    rintro rfl
    exact absurd bounds.2 (by decide)
  have not_fragment : character ≠ '#' := by
    rintro rfl
    exact absurd bounds.1 (by decide)
  simp [endsPath, not_query, not_fragment]

/-- A target that begins with a slash and has neither query nor fragment is its path. -/
theorem path_of_relative {request : Request} {rest : List Char}
    (target : request.target.toList = '/' :: rest)
    (plain : ∀ character ∈ '/' :: rest, endsPath character = false) :
    request.path = '/' :: rest := by
  have relative : behindScheme? ('/' :: rest) = none := by
    cases rest <;> simp [behindScheme?]
  simp only [Request.path, target, relative]
  exact List.takeWhile_eq_self_iff.mpr fun character member => by simp [plain character member]

theorem route?_rowTarget (request : Request) (id : UInt64) :
    { request with target := rowTarget id }.route? =
      some (.historyRow (Text.naturalText id.toNat)) := by
  have digits : ∀ character ∈ Text.naturalText id.toNat, character.isDigit = true :=
    fun _ => Text.isDigit_of_mem_naturalText
  have target : (rowTarget id).toList =
      '/' :: ("history/".toList ++ Text.naturalText id.toNat) := String.toList_ofList
  have plain : ∀ character ∈ '/' :: ("history/".toList ++ Text.naturalText id.toNat),
      endsPath character = false := by
    rw [List.forall_mem_cons, List.forall_mem_append]
    exact ⟨by decide, by simp [endsPath], fun character member =>
      not_endsPath_of_isDigit (digits character member)⟩
  have path : { request with target := rowTarget id }.path =
      '/' :: ("history/".toList ++ Text.naturalText id.toNat) := path_of_relative target plain
  rw [Request.route?, path]
  have no_slash : '/' ∉ Text.naturalText id.toNat := fun member =>
    absurd (digits '/' member) (by decide)
  exact ofPath?_of_segment (Text.naturalText_ne_nil _) no_slash

theorem names?_rowTarget {request : Request} (delete : request.method = "DELETE") (id : UInt64) :
    { request with target := rowTarget id }.names? = some id := by
  unfold Request.names?
  rw [route?_rowTarget]
  simp only [delete, identifier_naturalText]
  rfl

end StylesheetRunner.Http
