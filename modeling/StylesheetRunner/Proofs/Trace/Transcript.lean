import StylesheetRunner.Proofs.Text.Lines
import StylesheetRunner.Proofs.Trace.Reading

/-!
The plain text of a trace: the plain lines outside blocks and behind them the lines of a block that
never ends. The two are one joined text, but for blank lines at its very beginning: where nothing
but emptiness stands before a line of the open block, that line is set down without a line feed.
-/

namespace StylesheetRunner.Trace

theorem foldl_appendLine {text : List Char} (lines : List (List Char)) (nonempty : text ≠ []) :
    lines.foldl Reading.appendLine text = text ++ lines.flatMap fun line => '\n' :: line := by
  induction lines generalizing text with
  | nil => simp
  | cons line lines ih =>
    rw [List.foldl_cons, Reading.appendLine, if_neg nonempty, ih (by simp), List.flatMap_cons,
      List.append_assoc]

theorem foldl_appendLine_nil (lines : List (List Char)) :
    lines.foldl Reading.appendLine [] = Text.joinLines (lines.dropWhile (· = [])) := by
  induction lines with
  | nil => rfl
  | cons line lines ih =>
    rw [List.foldl_cons, Reading.appendLine, if_pos rfl]
    by_cases blank : line = []
    · subst blank
      rw [List.dropWhile_cons_of_pos (by simp), ih]
    · rw [List.dropWhile_cons_of_neg (by simpa using blank), foldl_appendLine lines blank,
        Text.joinLines_cons]

/-- The plain text of a trace, from its kept lines and the lines of a block open at the end. -/
theorem transcript_described (lines : List (List Char)) :
    (described lines).transcript =
      if Text.joinLines (keptLines lines) = [] then
        Text.joinLines ((openLines lines).dropWhile (· = []))
      else Text.joinLines (keptLines lines ++ openLines lines) := by
  have folded : (described lines).transcript =
      (openLines lines).foldl Reading.appendLine (Text.joinLines (keptLines lines)) := by
    unfold Reading.transcript described openBlock? openLines
    rw [List.reverse_reverse]
    cases openStart? lines lines.length with
    | none => rfl
    | some start => simp only [Option.map_some, List.reverse_reverse]
  rw [folded]
  split
  next empty => rw [empty, foldl_appendLine_nil]
  next full =>
    have kept : keptLines lines ≠ [] := fun none => full (Text.joinLines_eq_nil_iff.mpr (.inl none))
    rw [foldl_appendLine _ full, Text.joinLines_append _ kept]

/-- A blank line of the plain text is lost: the only kept line is blank and lines of the open block
follow it, or no line is kept and the open block begins with a blank line before others. -/
def LosesBlankLine (kept opened : List (List Char)) : Prop :=
  (kept = [[]] ∧ opened ≠ []) ∨ (kept = [] ∧ opened.head? = some [] ∧ opened ≠ [[]])

theorem joinLines_dropWhile_eq_iff {kept opened : List (List Char)}
    (empty : Text.joinLines kept = []) :
    Text.joinLines (opened.dropWhile (· = [])) = Text.joinLines (kept ++ opened) ↔
      ¬ LosesBlankLine kept opened := by
  unfold LosesBlankLine
  rcases Text.joinLines_eq_nil_iff.mp empty with rfl | rfl
  · rcases opened with - | ⟨first, others⟩
    · simp
    by_cases blank : first = []
    · subst blank
      cases others with
      | nil => simp [Text.joinLines, Text.join]
      | cons second others =>
        rw [List.dropWhile_cons_of_pos (by simp), List.nil_append]
        exact iff_of_false (Text.joinLines_dropWhile_ne (by simp)) (by simp)
    · rw [List.dropWhile_cons_of_neg (by simpa using blank)]
      exact iff_of_true rfl (by simp [blank])
  · by_cases none : opened = []
    · subst none
      exact iff_of_true rfl (by simp)
    · exact iff_of_false (Text.joinLines_dropWhile_ne none) (by simp [none])

/-- The plain text of a trace is the joined text of its kept lines and the lines of a block open at
the end, but for blank lines in front of the first other line; and it is that text exactly when no
such blank line is there to be lost. -/
theorem transcript_read (text : String) :
    let lines := Text.lines text.toList
    (read text).transcript =
        String.ofList
          (if Text.joinLines (keptLines lines) = [] then
            Text.joinLines ((openLines lines).dropWhile (· = []))
          else Text.joinLines (keptLines lines ++ openLines lines)) ∧
      ((read text).transcript =
          String.ofList (Text.joinLines (keptLines lines ++ openLines lines)) ↔
        ¬ LosesBlankLine (keptLines lines) (openLines lines)) := by
  intro lines
  have value : (read text).transcript = String.ofList (described lines).transcript := by
    rw [read_eq_described]
    rfl
  rw [value, transcript_described]
  refine ⟨rfl, ?_⟩
  rw [String.ofList_inj]
  split
  next empty => exact joinLines_dropWhile_eq_iff empty
  next full =>
    refine iff_of_true rfl ?_
    rintro (⟨blank, -⟩ | ⟨none, -⟩)
    · exact full (Text.joinLines_eq_nil_iff.mpr (.inr blank))
    · exact full (Text.joinLines_eq_nil_iff.mpr (.inl none))

theorem transcript_loses_blank_line :
    let text := "TRACE_VAR_START|x\n\na"
    let lines := Text.lines text.toList
    (read text).transcript = "a" ∧
      String.ofList (Text.joinLines (keptLines lines ++ openLines lines)) = "\na" := by
  decide

end StylesheetRunner.Trace
