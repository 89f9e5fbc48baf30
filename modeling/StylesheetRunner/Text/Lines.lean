/-!
Lines of a text. A line ends at a line feed; one carriage return directly before the line feed
belongs to the line's end; nothing follows a final line feed.
-/

namespace StylesheetRunner.Text

def lines : List Char → List (List Char)
  | [] => []
  | '\n' :: rest => [] :: lines rest
  | '\r' :: '\n' :: rest => [] :: lines rest
  | character :: rest =>
    match lines rest with
    | [] => [[character]]
    | first :: others => (character :: first) :: others

def join (separator : List Char) : List (List Char) → List Char
  | [] => []
  | [only] => only
  | first :: others => first ++ separator ++ join separator others

def joinLines (pieces : List (List Char)) : List Char :=
  join ['\n'] pieces

def splitAtFirst? (mark : Char) : List Char → Option (List Char × List Char)
  | [] => none
  | character :: rest =>
    if character = mark then some ([], rest)
    else (splitAtFirst? mark rest).map fun parts => (character :: parts.1, parts.2)

def withoutOpening? : (opening text : List Char) → Option (List Char)
  | [], text => some text
  | _ :: _, [] => none
  | expected :: opening, character :: text =>
    if expected = character then withoutOpening? opening text else none

def opensWith (opening text : List Char) : Bool :=
  (withoutOpening? opening text).isSome

theorem withoutOpening?_eq_some_iff {opening text rest : List Char} :
    withoutOpening? opening text = some rest ↔ text = opening ++ rest := by
  induction opening generalizing text with
  | nil => simp [withoutOpening?]
  | cons expected opening ih =>
    cases text with
    | nil => simp [withoutOpening?]
    | cons character text =>
      by_cases same : expected = character
      · subst same
        simp [withoutOpening?, ih]
      · have other : ¬ character = expected := fun equal => same equal.symm
        simp [withoutOpening?, same, other]

theorem withoutOpening?_eq_none_iff {opening text : List Char} :
    withoutOpening? opening text = none ↔ ¬ opening <+: text := by
  rw [Option.eq_none_iff_forall_ne_some]
  constructor
  · rintro none ⟨rest, equal⟩
    exact none rest (withoutOpening?_eq_some_iff.mpr equal.symm)
  · intro other rest found
    exact other ⟨rest, (withoutOpening?_eq_some_iff.mp found).symm⟩

theorem opensWith_iff_prefix {opening text : List Char} :
    opensWith opening text = true ↔ opening <+: text := by
  unfold opensWith
  rw [← Option.ne_none_iff_isSome, ne_eq, withoutOpening?_eq_none_iff, Classical.not_not]

theorem splitAtFirst?_eq (mark : Char) (text : List Char) :
    splitAtFirst? mark text =
      if mark ∈ text then
        some (text.takeWhile (· ≠ mark), (text.dropWhile (· ≠ mark)).drop 1)
      else none := by
  induction text with
  | nil => rfl
  | cons character rest ih =>
    by_cases same : character = mark
    · simp [splitAtFirst?, same]
    · have other : ¬ mark = character := fun equal => same equal.symm
      by_cases later : mark ∈ rest
      · simp [splitAtFirst?, same, other, ih, later]
      · simp [splitAtFirst?, same, other, ih, later]

theorem joinLines_cons_cons (first second : List Char) (others : List (List Char)) :
    joinLines (first :: second :: others) = first ++ '\n' :: joinLines (second :: others) := by
  simp [joinLines, join]

end StylesheetRunner.Text
