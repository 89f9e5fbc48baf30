import StylesheetRunner.Proofs.Text.LineEnds
import StylesheetRunner.Proofs.Trace.Transcript

/-!
How clean the plain text of a trace is. A reader gathers kept lines, which are plain, and the lines
of an open block, which may be any but debug, start and end lines. So the only marks of the protocol
that the plain text shows are those of value lines, and these stand in a block that never ends.
-/

namespace StylesheetRunner.Trace

/-- The line can stand in a block. It may look like a value. -/
def IsBody (line : List Char) : Prop :=
  ¬ IsDebug line ∧ ¬ IsStart line ∧ ¬ IsEnd line

theorem isBody_of_isPlain {line : List Char} (plain : IsPlain line) : IsBody line :=
  ⟨plain.1, plain.2.1, plain.2.2.1⟩

/-- Where the lines that a reader holds come from, and what they may be. -/
structure Reading.Gathered (reading : Reading) (lines : List (List Char)) : Prop where
  kept : ∀ line ∈ reading.kept, line ∈ lines ∧ IsPlain line
  held : ∀ block ∈ reading.block, ∀ line ∈ block.lines, line ∈ lines ∧ IsBody line

section
variable {reading : Reading} {lines : List (List Char)}

theorem gathered_append (gathered : reading.Gathered lines) (more : List (List Char)) :
    reading.Gathered (lines ++ more) where
  kept line member := (gathered.kept line member).imp_left (List.mem_append_left more)
  held block found line member :=
    (gathered.held block found line member).imp_left (List.mem_append_left more)

theorem gathered_hold {line : List Char} {block : OpenBlock} (gathered : reading.Gathered lines)
    (inside : reading.block = some block) (member : line ∈ lines) (body : IsBody line) :
    Reading.Gathered { reading with block := some { block with lines := line :: block.lines } }
      lines where
  kept := gathered.kept
  held := by
    rintro _ ⟨⟩
    exact List.forall_mem_cons.mpr ⟨⟨member, body⟩, gathered.held block inside⟩

/-- One more line is kept only if it is plain, and held only if it can stand in a block. -/
theorem gathered_step (gathered : reading.Gathered lines) (line : List Char) :
    (reading.step line).Gathered (lines ++ [line]) := by
  have before := gathered_append gathered [line]
  have here : line ∈ lines ++ [line] := List.mem_append_right lines List.mem_cons_self
  have spec := ofLine_spec line
  unfold Reading.step
  cases kind : LineKind.ofLine line with
  | debug => exact before
  | blockStart name => exact ⟨before.kept, by rintro _ ⟨⟩; exact nofun⟩
  | blockEnd =>
    cases inside : reading.block with
    | none => exact before
    | some block => exact ⟨before.kept, nofun⟩
  | value parts =>
    rw [kind] at spec
    obtain ⟨-, -, notDebug, notStart, notEnd⟩ := spec
    cases inside : reading.block with
    | some block => exact gathered_hold before inside here ⟨notDebug, notStart, notEnd⟩
    | none =>
      rcases parts with - | ⟨name, value⟩
      · exact before
      · exact ⟨before.kept, before.held⟩
  | plain =>
    rw [kind] at spec
    have plain : IsPlain line := spec
    cases inside : reading.block with
    | some block => exact gathered_hold before inside here (isBody_of_isPlain plain)
    | none => exact ⟨List.forall_mem_cons.mpr ⟨⟨here, plain⟩, before.kept⟩, nofun⟩

theorem gathered_foldl_step (gathered : reading.Gathered lines) (more : List (List Char)) :
    (more.foldl Reading.step reading).Gathered (lines ++ more) := by
  induction more generalizing reading lines with
  | nil => rwa [List.append_nil]
  | cons line rest ih =>
    have next := ih (gathered_step gathered line)
    rwa [List.append_assoc] at next

theorem gathered_described (lines : List (List Char)) : (described lines).Gathered lines := by
  have at_start : (described []).Gathered [] := ⟨nofun, nofun⟩
  have at_end := gathered_foldl_step at_start lines
  rwa [foldl_step_described] at at_end

end

theorem keptLines_gathered (lines : List (List Char)) :
    ∀ line ∈ keptLines lines, line ∈ lines ∧ IsPlain line :=
  fun line member => (gathered_described lines).kept line (List.mem_reverse.mpr member)

theorem openLines_gathered (lines : List (List Char)) :
    ∀ line ∈ openLines lines, line ∈ lines ∧ IsBody line := by
  have held := (gathered_described lines).held
  unfold openLines
  unfold described openBlock? at held
  cases found : openStart? lines lines.length with
  | none => exact nofun
  | some start =>
    rw [found] at held
    exact fun line member => held _ rfl line (List.mem_reverse.mpr member)

/-- But for blank lines, the plain text shows the kept lines and those of a block that never
ends. -/
theorem filter_splitOn_transcript (text : String) :
    ((read text).transcript.toList.splitOn '\n').filter (· ≠ []) =
      (keptLines (Text.lines text.toList) ++ openLines (Text.lines text.toList)).filter
        (· ≠ []) := by
  generalize lines_eq : Text.lines text.toList = lines
  have shown : (read text).transcript.toList = (described lines).transcript := by
    rw [read_eq_described, lines_eq]
    exact String.toList_ofList
  have no_feed_kept : ∀ line ∈ keptLines lines, '\n' ∉ line := fun line member =>
    Text.not_mem_of_mem_lines (lines_eq ▸ (keptLines_gathered lines line member).1)
  have no_feed_opened : ∀ line ∈ openLines lines, '\n' ∉ line := fun line member =>
    Text.not_mem_of_mem_lines (lines_eq ▸ (openLines_gathered lines line member).1)
  rw [shown, transcript_described]
  split
  next empty =>
    -- At most a blank line was kept, and the open block is shown without the blank lines in front.
    have kept_blank : (keptLines lines).filter (· ≠ []) = [] := by
      rcases Text.joinLines_eq_nil_iff.mp empty with none | blank
      · rw [none]
        rfl
      · rw [blank]
        rfl
    rw [Text.filter_splitOn_joinLines fun line member =>
      no_feed_opened line ((List.dropWhile_suffix _).mem member), Text.filter_dropWhile_blank,
      List.filter_append, kept_blank, List.nil_append]
  next full =>
    exact Text.filter_splitOn_joinLines (List.forall_mem_append.mpr ⟨no_feed_kept, no_feed_opened⟩)

theorem mem_splitOn_transcript_iff (text : String) {line : List Char} (nonempty : line ≠ []) :
    line ∈ (read text).transcript.toList.splitOn '\n' ↔
      line ∈ keptLines (Text.lines text.toList) ∨ line ∈ openLines (Text.lines text.toList) := by
  have same := congrArg (line ∈ ·) (filter_splitOn_transcript text)
  simpa [List.mem_filter, nonempty] using same

theorem isBody_of_mem_transcript {text : String} {line : List Char}
    (member : line ∈ (read text).transcript.toList.splitOn '\n') : IsBody line := by
  by_cases blank : line = []
  · subst blank
    exact isBody_of_isPlain (by decide)
  · rcases (mem_splitOn_transcript_iff text blank).mp member with kept | opened
    · exact isBody_of_isPlain (keptLines_gathered _ line kept).2
    · exact (openLines_gathered _ line opened).2

/-- The value lines that are shown are those of a block that never ends, in their order. -/
theorem filter_isValue_transcript (text : String) :
    ((read text).transcript.toList.splitOn '\n').filter (fun line => IsValue line) =
      (openLines (Text.lines text.toList)).filter fun line => IsValue line := by
  have without_blank (lines : List (List Char)) :
      (lines.filter (· ≠ [])).filter (fun line => IsValue line) =
        lines.filter fun line => IsValue line := by
    rw [List.filter_filter]
    refine List.filter_congr fun line _ => ?_
    by_cases blank : line = []
    · subst blank
      rfl
    · simp [blank]
  have no_kept : (keptLines (Text.lines text.toList)).filter (fun line => IsValue line) = [] := by
    rw [List.filter_eq_nil_iff]
    intro line kept
    simpa using (keptLines_gathered _ line kept).2.2.2.2
  rw [← without_blank, filter_splitOn_transcript, without_blank, List.filter_append, no_kept,
    List.nil_append]

/-- **The marks in the plain text.** The plain text never shows a debug, start or end line. The
value lines that it shows are those of a block that never ends, so no mark of the protocol is shown
exactly when such a block holds no value line. -/
theorem marks_shown_iff (text : String) :
    let shown := (read text).transcript.toList.splitOn '\n'
    let opened := openLines (Text.lines text.toList)
    ((∀ line ∈ shown, IsPlain line) ↔ ∀ line ∈ opened, ¬ IsValue line) ∧
      (∀ line ∈ shown, ¬ IsDebug line ∧ ¬ IsStart line ∧ ¬ IsEnd line) ∧
      shown.filter (fun line => IsValue line) = opened.filter fun line => IsValue line := by
  intro shown opened
  have values := filter_isValue_transcript text
  have same_values (line) (value : IsValue line) : line ∈ shown ↔ line ∈ opened := by
    simpa [List.mem_filter, value] using congrArg (line ∈ ·) values
  refine ⟨⟨fun plain line held value => ?_, fun free line member => ?_⟩,
    fun line => isBody_of_mem_transcript, values⟩
  · exact (plain line ((same_values line value).mpr held)).2.2.2 value
  · obtain ⟨notDebug, notStart, notEnd⟩ := isBody_of_mem_transcript member
    exact ⟨notDebug, notStart, notEnd, fun value => free line ((same_values line value).mp member)
      value⟩

theorem value_line_is_shown :
    let text := "TRACE_VAR_START|x\nTRACE_VAR|k|v"
    (read text).transcript = "TRACE_VAR|k|v" ∧
      ∃ line ∈ (read text).transcript.toList.splitOn '\n', IsValue line := by
  decide

end StylesheetRunner.Trace
