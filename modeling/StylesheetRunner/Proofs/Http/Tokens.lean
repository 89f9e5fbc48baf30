import StylesheetRunner.Http.Authorization
import StylesheetRunner.Proofs.Text.Trimming

/-!
Who a request is from. A request shows a key when its first authorization header is a text that
holds one, and it is from the user whom the table of tokens has for that key.
-/

namespace StylesheetRunner

namespace TextMap

theorem not_mem_of_ascending {entry : String × String} {rest : List (String × String)}
    (ascending : (entry :: rest).Pairwise fun left right => left.1 < right.1) :
    ∀ other ∈ rest, other.1 ≠ entry.1 := by
  intro other member same
  have less := (List.pairwise_cons.mp ascending).1 other member
  rw [same] at less
  exact String.lt_irrefl _ less

/-- A scan that looks at every entry and keeps the last match finds what a search finds. -/
theorem foldl_scan_eq_lookup {entries : List (String × String)}
    (ascending : entries.Pairwise fun left right => left.1 < right.1) (key : String) :
    entries.foldl (fun found entry => if entry.1 = key then some entry.2 else found) none =
      entries.lookup key := by
  -- With any start, the scan gives what the search finds, and the start where it finds nothing.
  have from_any : ∀ found : Option String,
      entries.foldl (fun found entry => if entry.1 = key then some entry.2 else found) found =
        (entries.lookup key).or found := by
    induction entries with
    | nil => exact fun found => rfl
    | cons entry rest ih =>
      intro found
      rw [List.foldl_cons, ih (List.pairwise_cons.mp ascending).2, List.lookup_cons]
      by_cases here : entry.1 = key
      · subst here
        have absent : rest.lookup entry.1 = none := by
          rw [List.lookup_eq_none_iff]
          intro other member
          have different := not_mem_of_ascending ascending other member
          simpa using Ne.symm different
        simp [absent]
      · have unequal : (key == entry.1) = false := by simpa using Ne.symm here
        simp [here, unequal]
  rw [from_any none, Option.or_none]

end TextMap

namespace Http

theorem userOfToken?_eq_find? (tokens : TextMap) (key : String) :
    userOfToken? tokens key = tokens.find? key :=
  TextMap.foldl_scan_eq_lookup tokens.ascending key

def IsHeaderText (bytes : List UInt8) : Prop :=
  ∀ byte ∈ bytes, (0x21 ≤ byte.toNat ∧ byte.toNat ≤ 0x7E) ∨ byte = 0x20 ∨ byte = 0x09

def charactersOf (bytes : List UInt8) : List Char :=
  bytes.map fun byte => Char.ofNat byte.toNat

/-- The text behind an opening mark that need not be there. -/
def BehindMark (text rest : List Char) : Prop :=
  text = bearerMark ++ rest ∨ (¬ bearerMark <+: text ∧ rest = text)

/-- The request has a key in its first authorization header, behind an opening that need not be
there, and with blanks around it. -/
def Request.Shows (request : Request) (key : String) : Prop :=
  ∃ bytes rest, request.header? "authorization" = some bytes ∧ bytes ≠ [] ∧ IsHeaderText bytes ∧
    BehindMark (charactersOf bytes) rest ∧ Text.Trimmed rest key.toList

def Request.ShowsNothing (request : Request) : Prop :=
  ∀ bytes, request.header? "authorization" = some bytes → bytes = [] ∨ ¬ IsHeaderText bytes

def Request.IsFrom (request : Request) (tokens : TextMap) (user : String) : Prop :=
  ∃ key, request.Shows key ∧ tokens.find? key = some user

theorem isHeaderByte_iff (byte : UInt8) :
    isHeaderByte byte = true ↔
      (0x21 ≤ byte.toNat ∧ byte.toNat ≤ 0x7E) ∨ byte = 0x20 ∨ byte = 0x09 := by
  have space : byte = 0x20 ↔ byte.toNat = 0x20 := UInt8.toNat_inj.symm
  simp only [isHeaderByte, Bool.or_eq_true, Bool.and_eq_true, decide_eq_true_iff,
    UInt8.le_iff_toNat_le, UInt8.lt_iff_toNat_lt, space]
  have least : (0x20 : UInt8).toNat = 0x20 := rfl
  have bound : (0x7F : UInt8).toNat = 0x7F := rfl
  rw [least, bound, ← or_assoc]
  refine or_congr_left ?_
  omega

theorem headerText?_of_text {bytes : List UInt8} (text : IsHeaderText bytes) :
    headerText? bytes = some (charactersOf bytes) := by
  have all : bytes.all isHeaderByte = true := by
    rw [List.all_eq_true]
    intro byte member
    exact (isHeaderByte_iff byte).mpr (text byte member)
  rw [headerText?, if_pos all]
  rfl

theorem headerText?_of_no_text {bytes : List UInt8} (no_text : ¬ IsHeaderText bytes) :
    headerText? bytes = none := by
  have some_other : ¬ bytes.all isHeaderByte = true := by
    intro all
    rw [List.all_eq_true] at all
    apply no_text
    intro byte member
    exact (isHeaderByte_iff byte).mp (all byte member)
  rw [headerText?, if_neg some_other]

theorem behindMark_iff {text rest : List Char} :
    BehindMark text rest ↔ (Text.withoutOpening? bearerMark text).getD text = rest := by
  unfold BehindMark
  cases found : Text.withoutOpening? bearerMark text with
  | some behind =>
    obtain rfl := Text.withoutOpening?_eq_some_iff.mp found
    have opens : bearerMark <+: bearerMark ++ behind := List.prefix_append ..
    simp [opens, eq_comm]
  | none =>
    have closed := Text.withoutOpening?_eq_none_iff.mp found
    have different : text ≠ bearerMark ++ rest := by
      rintro rfl
      exact closed (List.prefix_append ..)
    simp [closed, different, eq_comm]

theorem token?_of_text {request : Request} {bytes : List UInt8}
    (present : request.header? "authorization" = some bytes) (nonempty : bytes ≠ [])
    (text : IsHeaderText bytes) :
    request.token? = some (String.ofList (Text.trim
      ((Text.withoutOpening? bearerMark (charactersOf bytes)).getD (charactersOf bytes)))) := by
  unfold Request.token?
  simp only [present, headerText?_of_text text]
  cases characters : charactersOf bytes with
  | nil => exact absurd (List.map_eq_nil_iff.mp characters) nonempty
  | cons character rest => rfl

theorem token?_of_showsNothing {request : Request} (nothing : request.ShowsNothing) :
    request.token? = none := by
  unfold Request.token?
  cases present : request.header? "authorization" with
  | none => rfl
  | some bytes =>
    by_cases text : IsHeaderText bytes
    · obtain rfl : bytes = [] := (nothing bytes present).resolve_right (not_not_intro text)
      rfl
    · simp only [headerText?_of_no_text text]

theorem token?_eq_none_iff {request : Request} :
    request.token? = none ↔ request.ShowsNothing := by
  constructor
  · intro none bytes present
    by_contra other
    rw [not_or, not_not] at other
    rw [token?_of_text present other.1 other.2] at none
    cases none
  · exact token?_of_showsNothing

theorem token?_eq_some_iff {request : Request} {key : String} :
    request.token? = some key ↔ request.Shows key := by
  constructor
  · intro shown
    have something : ¬ request.ShowsNothing := by
      intro nothing
      rw [token?_of_showsNothing nothing] at shown
      cases shown
    simp only [Request.ShowsNothing, not_forall, not_or, not_not] at something
    obtain ⟨bytes, present, nonempty, text⟩ := something
    rw [token?_of_text present nonempty text] at shown
    obtain rfl := Option.some.inj shown
    refine ⟨bytes, _, present, nonempty, text, behindMark_iff.mpr rfl, ?_⟩
    rw [String.toList_ofList]
    exact Text.trimmed_trim _
  · rintro ⟨bytes, rest, present, nonempty, text, behind, trimmed⟩
    rw [token?_of_text present nonempty text, behindMark_iff.mp behind,
      Text.trim_eq_of_trimmed trimmed, String.ofList_toList]

end Http

end StylesheetRunner
