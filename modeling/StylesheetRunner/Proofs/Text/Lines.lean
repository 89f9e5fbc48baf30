import StylesheetRunner.Text.Lines

/-!
Texts as a reader of argument lines takes them: a line ends at a line feed, at a carriage return, or
at the two in this order. Pieces joined by line feeds are read back piece by piece, as long as the
last of them is one line of its own. Blank pieces at the beginning of a joined text are seen in it.
-/

namespace StylesheetRunner.Text

/-- The lines of a text in which a carriage return ends a line as a line feed does, and the two in
this order end it once. -/
def terminatedLines : List Char → List (List Char)
  | [] => []
  | '\n' :: rest => [] :: terminatedLines rest
  | '\r' :: '\n' :: rest => [] :: terminatedLines rest
  | '\r' :: rest => [] :: terminatedLines rest
  | character :: rest =>
    match terminatedLines rest with
    | [] => [[character]]
    | first :: others => (character :: first) :: others

def linesOfPiece (piece : List Char) : List (List Char) :=
  terminatedLines (piece ++ ['\n'])

def Unbroken (text : List Char) : Prop :=
  ∀ character ∈ text, character ≠ '\n' ∧ character ≠ '\r'

instance (text : List Char) : Decidable (Unbroken text) :=
  List.decidableBAll (fun character => character ≠ '\n' ∧ character ≠ '\r') text

theorem unbroken_append {first second : List Char} :
    Unbroken (first ++ second) ↔ Unbroken first ∧ Unbroken second :=
  List.forall_mem_append

theorem terminatedLines_cons {character : Char} (rest : List Char)
    (inLine : character ≠ '\n' ∧ character ≠ '\r') :
    terminatedLines (character :: rest) =
      match terminatedLines rest with
      | [] => [[character]]
      | first :: others => (character :: first) :: others := by
  rw [terminatedLines.eq_def]
  split <;> simp_all

theorem terminatedLines_return {character : Char} (rest : List Char) (other : character ≠ '\n') :
    terminatedLines ('\r' :: character :: rest) = [] :: terminatedLines (character :: rest) := by
  rw [terminatedLines.eq_def]
  split
  next equal => cases equal
  next equal => cases equal
  next equal => exact absurd (List.cons.inj (List.cons.inj equal).2).1 other
  next equal => rw [(List.cons.inj equal).2]
  next _ noReturn equal => exact absurd (List.cons.inj equal).1.symm noReturn

theorem terminatedLines_ne_nil {text : List Char} (nonempty : text ≠ []) :
    terminatedLines text ≠ [] := by
  fun_cases terminatedLines text <;> simp_all

/-- Behind a line feed reading starts afresh, also when a carriage return stands before it. -/
theorem terminatedLines_append_feed (text rest : List Char) :
    terminatedLines (text ++ '\n' :: rest) = linesOfPiece text ++ terminatedLines rest := by
  unfold linesOfPiece
  induction text with
  | nil => rfl
  | cons character text ih =>
    by_cases feed : character = '\n'
    · subst feed
      simp only [List.cons_append, terminatedLines, ih]
    by_cases carriageReturn : character = '\r'
    · subst carriageReturn
      cases text with
      | nil => rfl
      | cons next text =>
        by_cases pair : next = '\n'
        · subst pair
          simpa only [List.cons_append, terminatedLines] using ih
        · simp only [List.cons_append, terminatedLines_return _ pair] at ih ⊢
          rw [ih]
    · simp only [List.cons_append, terminatedLines_cons _ ⟨feed, carriageReturn⟩]
      rw [ih]
      cases found : terminatedLines (text ++ ['\n']) with
      | nil => exact absurd found (terminatedLines_ne_nil (by simp))
      | cons first others => rfl

theorem terminatedLines_of_unbroken {line : List Char} (unbroken : Unbroken line)
    (nonempty : line ≠ []) : terminatedLines line = [line] := by
  induction line with
  | nil => exact absurd rfl nonempty
  | cons character line ih =>
    obtain ⟨here, later⟩ := List.forall_mem_cons.mp unbroken
    rw [terminatedLines_cons _ here]
    cases line with
    | nil => rfl
    | cons next line => rw [ih later (List.cons_ne_nil next line)]

theorem linesOfPiece_of_unbroken {line : List Char} (unbroken : Unbroken line) :
    linesOfPiece line = [line] := by
  unfold linesOfPiece
  induction line with
  | nil => rfl
  | cons character line ih =>
    obtain ⟨here, later⟩ := List.forall_mem_cons.mp unbroken
    rw [List.cons_append, terminatedLines_cons _ here, ih later]

theorem flatMap_linesOfPiece {pieces : List (List Char)}
    (unbroken : ∀ piece ∈ pieces, Unbroken piece) : pieces.flatMap linesOfPiece = pieces := by
  induction pieces with
  | nil => rfl
  | cons piece others ih =>
    obtain ⟨here, later⟩ := List.forall_mem_cons.mp unbroken
    rw [List.flatMap_cons, linesOfPiece_of_unbroken here, ih later]
    rfl

/-- Pieces joined by line feeds give the lines of each piece when the last is a line of its own. -/
theorem terminatedLines_joinLines {pieces : List (List Char)} {last : List Char}
    (ends : pieces.getLast? = some last) (unbroken : Unbroken last) (nonempty : last ≠ []) :
    terminatedLines (joinLines pieces) = pieces.flatMap linesOfPiece := by
  induction pieces with
  | nil => cases ends
  | cons piece others ih =>
    cases others with
    | nil =>
      obtain rfl : piece = last := by simpa using ends
      rw [List.flatMap_singleton, linesOfPiece_of_unbroken unbroken]
      exact terminatedLines_of_unbroken unbroken nonempty
    | cons next others =>
      rw [joinLines_cons_cons, terminatedLines_append_feed, ih (by simpa using ends)]
      rfl

/-! Blank lines at the beginning of a joined text. -/

theorem joinLines_cons (first : List Char) (others : List (List Char)) :
    joinLines (first :: others) = first ++ others.flatMap fun line => '\n' :: line := by
  induction others generalizing first with
  | nil => simp [joinLines, join]
  | cons second others ih => rw [joinLines_cons_cons, ih, List.flatMap_cons, List.cons_append]

theorem joinLines_append {first : List (List Char)} (second : List (List Char))
    (nonempty : first ≠ []) :
    joinLines (first ++ second) = joinLines first ++ second.flatMap fun line => '\n' :: line := by
  cases first with
  | nil => exact absurd rfl nonempty
  | cons line first =>
    rw [List.cons_append, joinLines_cons, joinLines_cons, List.flatMap_append, List.append_assoc]

theorem joinLines_eq_nil_iff {lines : List (List Char)} :
    joinLines lines = [] ↔ lines = [] ∨ lines = [[]] := by
  cases lines with
  | nil => exact iff_of_true rfl (.inl rfl)
  | cons first others =>
    rw [joinLines_cons, List.append_eq_nil_iff]
    cases others with
    | nil => simp
    | cons second others => simp

theorem length_joinLines_dropWhile_le (lines : List (List Char)) :
    (joinLines (lines.dropWhile (· = []))).length ≤ (joinLines lines).length := by
  induction lines with
  | nil => exact Nat.le_refl _
  | cons first others ih =>
    by_cases blank : first = []
    · subst blank
      cases others with
      | nil => exact Nat.le_refl _
      | cons second others =>
        rw [List.dropWhile_cons_of_pos (by simp), joinLines_cons_cons, List.nil_append,
          List.length_cons]
        exact Nat.le_succ_of_le ih
    · have kept : (first :: others).dropWhile (· = []) = first :: others :=
        List.dropWhile_cons_of_neg (by simpa using blank)
      exact Nat.le_of_eq (congrArg (fun lines => (joinLines lines).length) kept)

/-- A blank line before other lines is seen in the text, so dropping it changes the text. -/
theorem joinLines_dropWhile_ne {lines : List (List Char)} (nonempty : lines ≠ []) :
    joinLines (lines.dropWhile (· = [])) ≠ joinLines ([] :: lines) := by
  intro same
  have shorter := length_joinLines_dropWhile_le lines
  cases lines with
  | nil => exact nonempty rfl
  | cons first others =>
    rw [same, joinLines_cons_cons, List.nil_append, List.length_cons] at shorter
    omega

/-! Lines that are written one by one, each with a line feed behind it. -/

/-- The line feed behind the text is where its line ends, and nothing of the text belongs to that
end. -/
def IsLine (text : List Char) : Prop :=
  '\n' ∉ text ∧ text.getLast? ≠ some '\r'

instance (text : List Char) : Decidable (IsLine text) :=
  inferInstanceAs (Decidable (_ ∧ _))

theorem lines_cons {character : Char} {rest : List Char} (no_feed : character ≠ '\n')
    (no_pair : character = '\r' → rest.head? ≠ some '\n') :
    lines (character :: rest) =
      match lines rest with
      | [] => [[character]]
      | first :: others => (character :: first) :: others := by
  rw [lines.eq_def]
  split
  next equal => cases equal
  next equal => exact absurd (List.cons.inj equal).1 no_feed
  next equal =>
    obtain ⟨rfl, rfl⟩ := List.cons.inj equal
    exact absurd rfl (no_pair rfl)
  next equal =>
    obtain ⟨rfl, rfl⟩ := List.cons.inj equal
    rfl

theorem lines_append_feed {line : List Char} (whole : IsLine line) (rest : List Char) :
    lines (line ++ '\n' :: rest) = line :: lines rest := by
  induction line with
  | nil => rfl
  | cons character line ih =>
    obtain ⟨no_feed, no_return⟩ := whole
    rw [List.mem_cons, not_or] at no_feed
    have no_pair : character = '\r' → (line ++ '\n' :: rest).head? ≠ some '\n' := by
      rintro rfl
      cases line with
      | nil => exact absurd rfl no_return
      | cons next line =>
        intro feed
        exact no_feed.2 (Option.some.inj feed ▸ List.mem_cons_self)
    have whole_rest : IsLine line := by
      refine ⟨no_feed.2, fun ends => no_return ?_⟩
      rw [List.getLast?_cons, ends]
      rfl
    rw [List.cons_append, lines_cons (Ne.symm no_feed.1) no_pair, ih whole_rest]

theorem lines_flatMap_feed {pieces : List (List Char)} (whole : ∀ piece ∈ pieces, IsLine piece) :
    lines (pieces.flatMap fun piece => piece ++ ['\n']) = pieces := by
  induction pieces with
  | nil => rfl
  | cons piece others ih =>
    obtain ⟨here, later⟩ := List.forall_mem_cons.mp whole
    rw [List.flatMap_cons, List.append_assoc, List.singleton_append, lines_append_feed here,
      ih later]

theorem splitAtFirst?_eq_some_iff {mark : Char} {text front back : List Char} :
    splitAtFirst? mark text = some (front, back) ↔ text = front ++ mark :: back ∧ mark ∉ front := by
  induction text generalizing front with
  | nil => simp [splitAtFirst?]
  | cons character rest ih =>
    rw [splitAtFirst?]
    split
    next same =>
      subst same
      cases front with
      | nil => simp
      | cons first front =>
        constructor
        · intro found
          cases (Prod.mk.inj (Option.some.inj found)).1
        · rintro ⟨split, absent⟩
          rw [(List.cons.inj split).1] at absent
          exact absurd List.mem_cons_self absent
    next other =>
      rw [Option.map_eq_some_iff]
      constructor
      · rintro ⟨⟨front, back⟩, found, equal⟩
        cases equal
        obtain ⟨rfl, absent⟩ := ih.mp found
        exact ⟨rfl, List.not_mem_cons_of_ne_of_not_mem (Ne.symm other) absent⟩
      · rintro ⟨split, absent⟩
        cases front with
        | nil => exact absurd (List.cons.inj split).1 other
        | cons first front =>
          obtain ⟨rfl, rfl⟩ := List.cons.inj split
          exact ⟨(front, back), ih.mpr ⟨rfl, fun later => absent (List.mem_cons_of_mem _ later)⟩,
            rfl⟩

end StylesheetRunner.Text
