import StylesheetRunner.Proofs.Trace.Protocol

/-!
The reader of traces agrees with the protocol on positions. What the reader holds after some lines
is told by these lines alone, and one more line keeps it so; a whole text follows by induction.
-/

namespace StylesheetRunner.Trace

theorem not_prefix_of_apart {first second line : List Char}
    (apart : ¬ first <+: second ∧ ¬ second <+: first) (opens : first <+: line) :
    ¬ second <+: line := by
  intro alsoOpens
  rcases List.prefix_or_prefix_of_prefix opens alsoOpens with shorter | longer
  · exact apart.1 shorter
  · exact apart.2 longer

theorem afterBar_start (name : List Char) : afterBar (blockStartMark ++ name) = name := rfl

theorem afterBar_value (rest : List Char) : afterBar (valueMark ++ rest) = rest := rfl

/-- The parts of a value line: name and value, where a second bar parts them. -/
def valueParts? (line : List Char) : Option (List Char × List Char) :=
  if 2 ≤ line.count '|' then
    some ((afterBar line).takeWhile (· ≠ '|'), afterBar (afterBar line))
  else none

theorem splitAtFirst?_value (rest : List Char) :
    Text.splitAtFirst? '|' rest = valueParts? (valueMark ++ rest) := by
  have bars : (valueMark ++ rest).count '|' = rest.count '|' + 1 := by
    rw [List.count_append]
    exact Nat.add_comm _ _
  unfold valueParts?
  rw [Text.splitAtFirst?_eq, bars, afterBar_value]
  by_cases second : '|' ∈ rest
  · have enough : 2 ≤ rest.count '|' + 1 := by
      have positive := List.count_pos_iff.mpr second
      omega
    rw [if_pos second, if_pos enough]
    rfl
  · have few : ¬ 2 ≤ rest.count '|' + 1 := by
      rw [List.count_eq_zero.mpr second]
      decide
    rw [if_neg second, if_neg few]

/-- What the reader takes a line for is what its opening says, and no line opens in two ways. -/
theorem ofLine_spec (line : List Char) :
    match LineKind.ofLine line with
    | .debug => IsDebug line ∧ ¬ IsStart line ∧ ¬ IsEnd line ∧ ¬ IsValue line
    | .blockStart name =>
      name = afterBar line ∧ IsStart line ∧ ¬ IsDebug line ∧ ¬ IsEnd line ∧ ¬ IsValue line
    | .blockEnd => IsEnd line ∧ ¬ IsDebug line ∧ ¬ IsStart line ∧ ¬ IsValue line
    | .value parts =>
      parts = valueParts? line ∧ IsValue line ∧ ¬ IsDebug line ∧ ¬ IsStart line ∧ ¬ IsEnd line
    | .plain => IsPlain line := by
  by_cases debug : IsDebug line
  · have kind : LineKind.ofLine line = .debug := by
      rw [LineKind.ofLine, if_pos (Text.opensWith_iff_prefix.mpr debug)]
    rw [kind]
    exact ⟨debug, not_prefix_of_apart (by decide) debug, not_prefix_of_apart (by decide) debug,
      not_prefix_of_apart (by decide) debug⟩
  have passed := mt Text.opensWith_iff_prefix.mp debug
  by_cases starts : IsStart line
  · have notEnd : ¬ IsEnd line := not_prefix_of_apart (by decide) starts
    have notValue : ¬ IsValue line := not_prefix_of_apart (by decide) starts
    obtain ⟨name, rfl⟩ := id starts
    have kind : LineKind.ofLine (blockStartMark ++ name) = .blockStart name := by
      rw [LineKind.ofLine, if_neg passed, Text.withoutOpening?_eq_some_iff.mpr rfl]
    rw [kind]
    exact ⟨(afterBar_start name).symm, starts, debug, notEnd, notValue⟩
  have noName := Text.withoutOpening?_eq_none_iff.mpr starts
  by_cases ends : IsEnd line
  · have kind : LineKind.ofLine line = .blockEnd := by
      rw [LineKind.ofLine, if_neg passed, noName]
      exact if_pos (Text.opensWith_iff_prefix.mpr ends)
    rw [kind]
    exact ⟨ends, debug, starts, not_prefix_of_apart (by decide) ends⟩
  have passedEnd := mt Text.opensWith_iff_prefix.mp ends
  by_cases value : IsValue line
  · obtain ⟨rest, rfl⟩ := id value
    have kind : LineKind.ofLine (valueMark ++ rest) = .value (Text.splitAtFirst? '|' rest) := by
      rw [LineKind.ofLine, if_neg passed, noName]
      simp only [if_neg passedEnd, Text.withoutOpening?_eq_some_iff.mpr rfl]
    rw [kind]
    exact ⟨splitAtFirst?_value rest, value, debug, starts, ends⟩
  · have kind : LineKind.ofLine line = .plain := by
      rw [LineKind.ofLine, if_neg passed, noName]
      simp only [if_neg passedEnd, Text.withoutOpening?_eq_none_iff.mpr value]
    rw [kind]
    exact ⟨debug, starts, ends, value⟩

def openBlock? (lines : List (List Char)) : Option OpenBlock :=
  (openStart? lines lines.length).map fun start =>
    ⟨afterBar (lineAt lines start), (between lines start lines.length).reverse⟩

def described (lines : List (List Char)) : Reading :=
  ⟨(entriesOf lines).reverse, (keptLines lines).reverse, openBlock? lines⟩

theorem openBlock?_concat (lines : List (List Char)) (line : List Char) :
    openBlock? (lines ++ [line]) =
      if IsStart line then some ⟨afterBar line, []⟩
      else if IsEnd line then none
      else (openBlock? lines).map fun block =>
        if IsDebug line then block else { block with lines := line :: block.lines } := by
  unfold openBlock?
  rw [List.length_append, List.length_singleton, openStart?_concat]
  by_cases starts : IsStart line
  · simp only [if_pos starts, Option.map_some, lineAt_concat, between_concat_length,
      List.reverse_nil]
  by_cases ends : IsEnd line
  · simp only [if_neg starts, if_pos ends, Option.map_none]
  simp only [if_neg starts, if_neg ends]
  cases found : openStart? lines lines.length with
  | none => rfl
  | some start =>
    have before := openStart?_lt found
    simp only [Option.map_some, lineAt_append before, between_concat before, List.reverse_append]
    by_cases debug : IsDebug line
    · simp only [if_pos debug, List.reverse_nil, List.nil_append]
    · simp only [if_neg debug, List.reverse_singleton, List.singleton_append]

theorem openStart?_eq_none_iff {lines : List (List Char)} :
    openStart? lines lines.length = none ↔ openBlock? lines = none :=
  Option.map_eq_none_iff.symm

theorem entryAt?_last (lines : List (List Char)) (line : List Char) :
    entryAt? (lines ++ [line]) lines.length =
      if IsEnd line then
        (openBlock? lines).map fun block =>
          ⟨String.ofList block.name, String.ofList (Text.joinLines block.lines.reverse)⟩
      else if IsValue line ∧ openBlock? lines = none then
        (valueParts? line).map fun parts => ⟨String.ofList parts.1, String.ofList parts.2⟩
      else none := by
  simp only [entryAt?_concat, openStart?_eq_none_iff]
  by_cases ends : IsEnd line
  · simp only [if_pos ends, openBlock?, Option.map_map, Function.comp_def, List.reverse_reverse]
  simp only [if_neg ends]
  by_cases outside : IsValue line ∧ openBlock? lines = none
  · simp only [outside, true_and, if_true, valueParts?]
    split <;> rfl
  · rw [if_neg outside, if_neg fun all => outside ⟨all.1, all.2.1⟩]

theorem keptAt?_last (lines : List (List Char)) (line : List Char) :
    keptAt? (lines ++ [line]) lines.length =
      if IsPlain line ∧ openBlock? lines = none then some line else none := by
  simp only [keptAt?_concat, openStart?_eq_none_iff]

/-- One more line turns what is held behind the lines into what is held behind one line more. -/
theorem step_described (lines : List (List Char)) (line : List Char) :
    (described lines).step line = described (lines ++ [line]) := by
  have spec := ofLine_spec line
  unfold described Reading.step
  rw [entriesOf_concat, keptLines_concat, entryAt?_last, keptAt?_last, openBlock?_concat]
  generalize openBlock? lines = held
  cases kind : LineKind.ofLine line with
  | debug =>
    rw [kind] at spec
    obtain ⟨debug, notStart, notEnd, notValue⟩ := spec
    have notPlain : ¬ IsPlain line := fun plain => plain.1 debug
    cases held <;> simp [debug, notStart, notEnd, notValue, notPlain]
  | blockStart name =>
    rw [kind] at spec
    obtain ⟨equal, starts, notDebug, notEnd, notValue⟩ := spec
    have notPlain : ¬ IsPlain line := fun plain => plain.2.1 starts
    cases held <;> simp [equal, starts, notEnd, notValue, notPlain]
  | blockEnd =>
    rw [kind] at spec
    obtain ⟨ends, notDebug, notStart, notValue⟩ := spec
    have notPlain : ¬ IsPlain line := fun plain => plain.2.2.1 ends
    cases held <;> simp [Reading.addEntry, ends, notStart, notPlain]
  | value parts =>
    rw [kind] at spec
    obtain ⟨equal, value, notDebug, notStart, notEnd⟩ := spec
    have notPlain : ¬ IsPlain line := fun plain => plain.2.2.2 value
    cases held with
    | some block => simp [value, notDebug, notStart, notEnd, notPlain]
    | none =>
      rw [← equal]
      rcases parts with - | ⟨name, text⟩
      · simp [value, notStart, notEnd, notPlain]
      · simp [Reading.addEntry, value, notStart, notEnd, notPlain]
  | plain =>
    rw [kind] at spec
    have plain : IsPlain line := spec
    obtain ⟨notDebug, notStart, notEnd, notValue⟩ := spec
    cases held <;> simp [plain, notDebug, notStart, notEnd, notValue]

theorem foldl_step_described (before lines : List (List Char)) :
    lines.foldl Reading.step (described before) = described (before ++ lines) := by
  induction lines generalizing before with
  | nil => rw [List.append_nil]; rfl
  | cons line rest ih =>
    rw [List.foldl_cons, step_described, ih, List.append_assoc]
    rfl

theorem read_eq_described (text : String) :
    read text = (described (Text.lines text.toList)).finish := by
  have run := foldl_step_described [] (Text.lines text.toList)
  unfold read
  rw [show Reading.start = described [] from rfl, run, List.nil_append]

/-- The entries of a text are those that the protocol gives its lines by their positions, no other
and in this order. -/
theorem entries_read (text : String) :
    (read text).entries = entriesOf (Text.lines text.toList) := by
  rw [read_eq_described]
  exact List.reverse_reverse _

/-- A restart, a debug line and a value line inside a block, and a value line behind it. -/
example :
    entriesOf (["TRACE_VAR_START|a", "lost", "TRACE_VAR_START|b", "TRACE_DEBUG", "TRACE_VAR|k|v",
      "", "TRACE_VAR_END", "TRACE_VAR|p|q|r"].map String.toList) =
      [⟨"b", "TRACE_VAR|k|v\n"⟩, ⟨"p", "q|r"⟩] := by
  decide

end StylesheetRunner.Trace
