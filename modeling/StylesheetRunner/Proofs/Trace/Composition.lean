import StylesheetRunner.Proofs.Text.LineEnds
import StylesheetRunner.Proofs.Trace.Writing

/-!
Traces read in parts. What a reader has gathered does not bear on how it reads on: only the block
that is open does. So a trace that is cut at the end of a line shows entries of the whole trace, and
parts that leave no block open are read one by one. Debug lines are not seen at all, wherever they
stand, and neither are carriage returns before line feeds.
-/

namespace StylesheetRunner.Trace

namespace Reading

/-- A reading that holds, besides its own, what an earlier one gathered. -/
def behind (reading before : Reading) : Reading :=
  ⟨reading.entries ++ before.entries, reading.kept ++ before.kept, reading.block⟩

theorem step_behind (reading before : Reading) (line : List Char) :
    (reading.behind before).step line = (reading.step line).behind before := by
  obtain ⟨entries, kept, block⟩ := reading
  unfold step
  -- What a line does is told by its kind and by the block, which are the same on both sides.
  cases LineKind.ofLine line with
  | debug => rfl
  | blockStart name => rfl
  | blockEnd => cases block <;> rfl
  | value parts =>
    cases block with
    | some block => rfl
    | none => rcases parts with - | ⟨name, value⟩ <;> rfl
  | plain => cases block <;> rfl

theorem foldl_step_behind (lines : List (List Char)) (reading before : Reading) :
    lines.foldl step (reading.behind before) = (lines.foldl step reading).behind before := by
  induction lines generalizing reading with
  | nil => rfl
  | cons line rest ih => rw [List.foldl_cons, List.foldl_cons, step_behind, ih]

theorem foldl_step_filter (lines : List (List Char)) (reading : Reading) :
    (lines.filter fun line => ¬ IsDebug line).foldl step reading = lines.foldl step reading := by
  induction lines generalizing reading with
  | nil => rfl
  | cons line rest ih =>
    by_cases debug : IsDebug line
    · rw [List.filter_cons_of_neg (by simpa using debug), List.foldl_cons, step_debug debug, ih]
    · rw [List.filter_cons_of_pos (by simpa using debug), List.foldl_cons, List.foldl_cons, ih]

end Reading

def Closed (lines : List (List Char)) : Prop :=
  openStart? lines lines.length = none

instance (lines : List (List Char)) : Decidable (Closed lines) :=
  inferInstanceAs (Decidable (_ = _))

section
variable {front : List (List Char)}

theorem described_append (front back : List (List Char)) :
    described (front ++ back) =
      (back.foldl Reading.step ⟨[], [], openBlock? front⟩).behind (described front) := by
  rw [← foldl_step_described, ← Reading.foldl_step_behind]
  rfl

theorem described_append_of_closed (closed : Closed front) (back : List (List Char)) :
    described (front ++ back) = (described back).behind (described front) := by
  have afresh := foldl_step_described [] back
  rw [described_append, openStart?_eq_none_iff.mp closed]
  exact congrArg (Reading.behind · (described front)) afresh

theorem entriesOf_prefix_append (front back : List (List Char)) :
    entriesOf front <+: entriesOf (front ++ back) := by
  have gathered := congrArg Reading.entries (described_append front back)
  rw [← List.reverse_suffix]
  exact ⟨_, gathered.symm⟩

theorem entriesOf_append (closed : Closed front) (back : List (List Char)) :
    entriesOf (front ++ back) = entriesOf front ++ entriesOf back := by
  have gathered := congrArg Reading.entries (described_append_of_closed closed back)
  rw [← List.reverse_inj, List.reverse_append]
  exact gathered

theorem keptLines_append (closed : Closed front) (back : List (List Char)) :
    keptLines (front ++ back) = keptLines front ++ keptLines back := by
  have gathered := congrArg Reading.kept (described_append_of_closed closed back)
  rw [← List.reverse_inj, List.reverse_append]
  exact gathered

theorem closed_append {back : List (List Char)} (closed : Closed front)
    (closed_back : Closed back) : Closed (front ++ back) := by
  have held := congrArg Reading.block (described_append_of_closed closed back)
  exact openStart?_eq_none_iff.mpr (held.trans (openStart?_eq_none_iff.mp closed_back))

end

theorem transcript_of_closed {text : String} (closed : Closed (Text.lines text.toList)) :
    (read text).transcript =
      String.ofList (Text.joinLines (keptLines (Text.lines text.toList))) := by
  have nothing_open := openStart?_eq_none_iff.mp closed
  rw [read_eq_described]
  simp only [Reading.finish, Reading.transcript, described, nothing_open, List.reverse_reverse]

/-- **Reading part by part.** A trace that is cut at the end of a line shows the first entries of
the whole trace. If no block is open at the cut, the entries of the two parts are those of the
whole, and if none is open at the end either, the two plain texts are joined by a line feed; a part
without a kept line adds nothing, which a part with one blank line does. -/
theorem read_append (front back : String) (ended : Text.Ended front.toList) :
    let first := Text.lines front.toList
    let second := Text.lines back.toList
    (read front).entries <+: (read (front ++ back)).entries ∧
      (Closed first →
        (read (front ++ back)).entries = (read front).entries ++ (read back).entries ∧
          (Closed second →
            (read (front ++ back)).transcript =
              if keptLines first = [] then (read back).transcript
              else if keptLines second = [] then (read front).transcript
              else (read front).transcript ++ "\n" ++ (read back).transcript)) := by
  intro first second
  have parts : Text.lines (front ++ back).toList = first ++ second := by
    rw [String.toList_append, Text.lines_append_of_ended ended]
  simp only [entries_read, parts]
  refine ⟨entriesOf_prefix_append first second, fun closed => ⟨entriesOf_append closed second, ?_⟩⟩
  intro closed_back
  have closed_whole : Closed (Text.lines (front ++ back).toList) :=
    parts ▸ closed_append closed closed_back
  rw [transcript_of_closed closed_whole, parts, keptLines_append closed,
    transcript_of_closed closed, transcript_of_closed closed_back]
  split
  next none_front => rw [none_front, List.nil_append]
  next some_front =>
    split
    next none_back => rw [none_back, List.append_nil]
    next some_back =>
      rw [Text.joinLines_append_of_ne_nil some_front some_back, ← String.toList_inj]
      simp [first, second]

/-- Each part keeps one blank line and nothing else, so both plain texts are empty, and that of the
whole is a line feed. The line feed at the cut has a carriage return before it. -/
theorem read_append_of_blank_lines :
    let front := "TRACE_VAR_START|a\nx\nTRACE_VAR_END\n\r\n"
    let back := "\nTRACE_VAR|b|y"
    Text.Ended front.toList ∧ Closed (Text.lines front.toList) ∧
      Closed (Text.lines back.toList) ∧ (read front).transcript = "" ∧
      (read back).transcript = "" ∧ (read (front ++ back)).entries = [⟨"a", "x"⟩, ⟨"b", "y"⟩] ∧
      (read (front ++ back)).transcript = "\n" := by
  intro front back
  have ended : Text.Ended front.toList := by decide
  have closed : Closed (Text.lines front.toList) := by decide
  have closed_back : Closed (Text.lines back.toList) := by decide
  have kept : keptLines (Text.lines front.toList) ≠ [] := by decide
  have kept_back : keptLines (Text.lines back.toList) ≠ [] := by decide
  obtain ⟨-, at_cut⟩ := read_append front back ended
  obtain ⟨entries, at_end⟩ := at_cut closed
  have transcript := at_end closed_back
  rw [if_neg kept, if_neg kept_back] at transcript
  refine ⟨ended, closed, closed_back, by decide, by decide, ?_, ?_⟩
  · rw [entries]
    decide
  · rw [transcript]
    decide

/-! Debug lines. -/

theorem read_eq_of_filter_eq {first second : String}
    (same : (Text.lines first.toList).filter (fun line => ¬ IsDebug line) =
      (Text.lines second.toList).filter fun line => ¬ IsDebug line) :
    read first = read second := by
  unfold read
  rw [← Reading.foldl_step_filter, same, Reading.foldl_step_filter]

/-- The mark of a debug line stays when the carriage return behind the line is taken away. -/
theorem isDebug_withoutReturn {line : List Char} (debug : IsDebug line) :
    IsDebug (Text.withoutReturn line) := by
  unfold Text.withoutReturn
  split
  next last =>
    obtain ⟨words, rfl⟩ := List.getLast?_eq_some_iff.mp last
    rw [List.dropLast_concat]
    rcases List.prefix_concat_iff.mp debug with whole | before
    · have ends : debugMark.getLast? = some '\r' := by rw [whole, List.getLast?_concat]
      exact absurd ends (by decide)
    · exact before
  next => exact debug

/-- **Debug lines are invisible.** A debug line between two lines of a text changes nothing of what
is read, be it outside blocks, inside a block, or inside a block that is never ended. -/
theorem read_insert_debug (front debug back : String) (ended : Text.Ended front.toList)
    (mark : IsDebug debug.toList) (no_feed : '\n' ∉ debug.toList) :
    read (front ++ debug ++ "\n" ++ back) = read (front ++ back) := by
  apply read_eq_of_filter_eq
  have inserted : (front ++ debug ++ "\n" ++ back).toList =
      front.toList ++ (debug.toList ++ '\n' :: back.toList) := by simp
  have unseen : ¬ ¬ IsDebug (Text.withoutReturn debug.toList) :=
    not_not_intro (isDebug_withoutReturn mark)
  rw [inserted, String.toList_append, Text.lines_append_of_ended ended,
    Text.lines_append_of_ended ended, Text.lines_append_line no_feed, List.filter_append,
    List.filter_append, List.filter_cons_of_neg (by simpa using unseen)]

theorem read_insert_debug_of_open_block :
    let front := "TRACE_VAR_START|a\n\n"
    let debug := "TRACE_DEBUG|\r"
    let back := "TRACE_VAR|b|c\n\nd"
    Text.Ended front.toList ∧ IsDebug debug.toList ∧ '\n' ∉ debug.toList ∧
      ¬ Closed (Text.lines front.toList) ∧
      read (front ++ debug ++ "\n" ++ back) = ⟨[], "TRACE_VAR|b|c\n\nd"⟩ := by
  intro front debug back
  have ended : Text.Ended front.toList := by decide
  have mark : IsDebug debug.toList := by decide
  have no_feed : '\n' ∉ debug.toList := by decide
  refine ⟨ended, mark, no_feed, by decide, ?_⟩
  rw [read_insert_debug front debug back ended mark no_feed]
  decide

/-! Carriage returns before line feeds. -/

/-- **Line ends do not matter.** Whichever lines of a text end in a carriage return and a line feed
instead of a line feed alone, the same is read: entries, with their names and values, and plain
text. -/
theorem read_withReturns (text : String) (chosen : Nat → Bool) (no_return : '\r' ∉ text.toList) :
    read (String.ofList (Text.withReturns chosen text.toList)) = read text := by
  unfold read
  rw [String.toList_ofList, Text.lines_withReturns chosen no_return]

/-- Every other line ends in a carriage return and a line feed: start lines, lines of a block that
ends and of one that does not, a value line and a plain line among them. -/
theorem read_withReturns_of_mixed_ends :
    let text := "TRACE_VAR_START|a\n\nx\ny\nTRACE_VAR_END\nTRACE_VAR|b|c|d\nkept\n\n" ++
      "TRACE_VAR_START|e\nTRACE_DEBUG\nz\n"
    let mixed := "TRACE_VAR_START|a\r\n\nx\r\ny\nTRACE_VAR_END\r\nTRACE_VAR|b|c|d\nkept\r\n\n" ++
      "TRACE_VAR_START|e\r\nTRACE_DEBUG\nz\r\n"
    '\r' ∉ text.toList ∧
      String.ofList (Text.withReturns (fun count => count % 2 = 0) text.toList) = mixed ∧
      read mixed = ⟨[⟨"a", "\nx\ny"⟩, ⟨"b", "c|d"⟩], "kept\n\nz"⟩ := by
  intro text mixed
  have no_return : '\r' ∉ text.toList := by decide
  have ends :
      String.ofList (Text.withReturns (fun count => count % 2 = 0) text.toList) = mixed := by
    decide
  refine ⟨no_return, ends, ?_⟩
  rw [← ends, read_withReturns text _ no_return]
  decide

end StylesheetRunner.Trace
