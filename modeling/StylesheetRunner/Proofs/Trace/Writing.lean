import StylesheetRunner.Proofs.Text.Lines
import StylesheetRunner.Proofs.Trace.Reading

/-!
Traces as a processor writes them, item by item and line by line. Whoever keeps the marks of the
protocol out of names, bodies and plain text is read back word for word: reading undoes writing.
-/

namespace StylesheetRunner.Trace

inductive Item where
  | value (name content : List Char)
  | block (name : List Char) (body : List (List Char))
  | text (line : List Char)
  | debug (words : List Char)
deriving DecidableEq, Repr

namespace Item

def lines : Item → List (List Char)
  | .value name content => [valueMark ++ (name ++ '|' :: content)]
  | .block name body => (blockStartMark ++ name) :: (body ++ [blockEndMark])
  | .text line => [line]
  | .debug words => [debugMark ++ words]

def entry? : Item → Option TraceEntry
  | .value name content => some ⟨String.ofList name, String.ofList content⟩
  | .block name body => some ⟨String.ofList name, String.ofList (Text.joinLines body)⟩
  | .text _ => none
  | .debug _ => none

def text? : Item → Option (List Char)
  | .text line => some line
  | _ => none

/-- The item cannot be mistaken for another. A body may hold lines that would be values outside the
block, and a value may hold further bars. -/
def Fits : Item → Prop
  | .value name _ => '|' ∉ name
  | .block _ body => ∀ line ∈ body, ¬ IsDebug line ∧ ¬ IsStart line ∧ ¬ IsEnd line
  | .text line => IsPlain line
  | .debug _ => True

instance (item : Item) : Decidable item.Fits :=
  match item with
  | .value name _ => inferInstanceAs (Decidable ('|' ∉ name))
  | .block _ body =>
    List.decidableBAll (fun line => ¬ IsDebug line ∧ ¬ IsStart line ∧ ¬ IsEnd line) body
  | .text line => inferInstanceAs (Decidable (IsPlain line))
  | .debug _ => .isTrue trivial

end Item

def write (items : List Item) : String :=
  String.ofList ((items.flatMap Item.lines).flatMap fun line => line ++ ['\n'])

/-! What one line does to a reader, by the opening of the line. -/

section Steps
variable {reading : Reading} {block : OpenBlock} {line : List Char}

theorem step_debug (debug : IsDebug line) : reading.step line = reading := by
  have spec := ofLine_spec line
  unfold Reading.step
  cases kind : LineKind.ofLine line with
  | debug => rfl
  | _ =>
    rw [kind] at spec
    simp_all [IsPlain]

theorem step_start (starts : IsStart line) :
    reading.step line = { reading with block := some ⟨afterBar line, []⟩ } := by
  have spec := ofLine_spec line
  unfold Reading.step
  cases kind : LineKind.ofLine line with
  | blockStart name =>
    rw [kind] at spec
    simp only [spec.1]
  | _ =>
    rw [kind] at spec
    simp_all [IsPlain]

theorem step_end (ends : IsEnd line) (inside : reading.block = some block) :
    reading.step line =
      { reading.addEntry block.name (Text.joinLines block.lines.reverse) with block := none } := by
  have spec := ofLine_spec line
  unfold Reading.step
  cases kind : LineKind.ofLine line with
  | blockEnd => simp only [inside]
  | _ =>
    rw [kind] at spec
    simp_all [IsPlain]

theorem step_body (body : ¬ IsDebug line ∧ ¬ IsStart line ∧ ¬ IsEnd line)
    (inside : reading.block = some block) :
    reading.step line =
      { reading with block := some { block with lines := line :: block.lines } } := by
  have spec := ofLine_spec line
  unfold Reading.step
  cases kind : LineKind.ofLine line with
  | value parts => simp only [inside]
  | plain => simp only [inside]
  | _ =>
    rw [kind] at spec
    simp_all

theorem step_value {name value : List Char} (value_line : IsValue line)
    (parts : valueParts? line = some (name, value)) (outside : reading.block = none) :
    reading.step line = reading.addEntry name value := by
  have spec := ofLine_spec line
  unfold Reading.step
  cases kind : LineKind.ofLine line with
  | value found =>
    rw [kind] at spec
    simp only [outside, spec.1, parts]
  | _ =>
    rw [kind] at spec
    simp_all [IsPlain]

theorem step_plain (plain : IsPlain line) (outside : reading.block = none) :
    reading.step line = { reading with kept := line :: reading.kept } := by
  have spec := ofLine_spec line
  unfold Reading.step
  cases kind : LineKind.ofLine line with
  | plain => simp only [outside]
  | _ =>
    rw [kind] at spec
    simp_all [IsPlain]

end Steps

theorem valueParts?_of_name {name : List Char} (no_bar : '|' ∉ name) (content : List Char) :
    valueParts? (valueMark ++ (name ++ '|' :: content)) = some (name, content) := by
  rw [← splitAtFirst?_value]
  exact Text.splitAtFirst?_eq_some_iff.mpr ⟨rfl, no_bar⟩

theorem foldl_step_body {reading : Reading} {block : OpenBlock} {body : List (List Char)}
    (fits : ∀ line ∈ body, ¬ IsDebug line ∧ ¬ IsStart line ∧ ¬ IsEnd line)
    (inside : reading.block = some block) :
    body.foldl Reading.step reading =
      { reading with block := some { block with lines := body.reverse ++ block.lines } } := by
  induction body generalizing reading block with
  | nil =>
    cases reading
    simp_all
  | cons line body ih =>
    obtain ⟨here, later⟩ := List.forall_mem_cons.mp fits
    rw [List.foldl_cons, step_body here inside, ih later rfl]
    simp

theorem foldl_step_item {item : Item} (fits : item.Fits) {reading : Reading}
    (outside : reading.block = none) :
    item.lines.foldl Reading.step reading =
      ⟨item.entry?.toList ++ reading.entries, item.text?.toList ++ reading.kept, none⟩ := by
  obtain ⟨entries, kept, block⟩ := reading
  obtain rfl : block = none := outside
  cases item with
  | value name content =>
    have value_line : IsValue (valueMark ++ (name ++ '|' :: content)) := List.prefix_append ..
    rw [Item.lines, List.foldl_cons, List.foldl_nil,
      step_value value_line (valueParts?_of_name fits content) rfl]
    rfl
  | block name body =>
    have starts : IsStart (blockStartMark ++ name) := List.prefix_append ..
    have ends : IsEnd blockEndMark := List.prefix_refl _
    rw [Item.lines, List.foldl_cons, step_start starts, List.foldl_append,
      foldl_step_body fits rfl, List.foldl_cons, List.foldl_nil, step_end ends rfl, afterBar_start]
    simp [Reading.addEntry, Item.entry?, Item.text?]
  | text line =>
    rw [Item.lines, List.foldl_cons, List.foldl_nil, step_plain fits rfl]
    rfl
  | debug words =>
    have debug : IsDebug (debugMark ++ words) := List.prefix_append ..
    rw [Item.lines, List.foldl_cons, List.foldl_nil, step_debug debug]
    rfl

theorem reverse_filterMap_cons {Part : Type} (part? : Item → Option Part) (item : Item)
    (items : List Item) :
    ((item :: items).filterMap part?).reverse =
      (items.filterMap part?).reverse ++ (part? item).toList := by
  cases told : part? item with
  | none => simp [told]
  | some part => simp [told]

theorem foldl_step_items {items : List Item} (fits : ∀ item ∈ items, item.Fits)
    {reading : Reading} (outside : reading.block = none) :
    (items.flatMap Item.lines).foldl Reading.step reading =
      ⟨(items.filterMap Item.entry?).reverse ++ reading.entries,
        (items.filterMap Item.text?).reverse ++ reading.kept, none⟩ := by
  induction items generalizing reading with
  | nil =>
    obtain ⟨entries, kept, block⟩ := reading
    obtain rfl : block = none := outside
    rfl
  | cons item items ih =>
    obtain ⟨here, later⟩ := List.forall_mem_cons.mp fits
    rw [List.flatMap_cons, List.foldl_append, foldl_step_item here outside, ih later rfl]
    simp only [reverse_filterMap_cons, List.append_assoc]

/-- Reading undoes writing: values and blocks come back as the entries, in order, and the lines of
plain text as the plain text. -/
theorem read_write (items : List Item) (fits : ∀ item ∈ items, item.Fits)
    (whole : ∀ item ∈ items, ∀ line ∈ item.lines, Text.IsLine line) :
    read (write items) =
      ⟨items.filterMap Item.entry?,
        String.ofList (Text.joinLines (items.filterMap Item.text?))⟩ := by
  have whole_lines : ∀ line ∈ items.flatMap Item.lines, Text.IsLine line := by
    intro line member
    obtain ⟨item, in_items, in_item⟩ := List.mem_flatMap.mp member
    exact whole item in_items line in_item
  have split : Text.lines (write items).toList = items.flatMap Item.lines := by
    rw [write, String.toList_ofList, Text.lines_flatMap_feed whole_lines]
  unfold read
  rw [split, foldl_step_items fits rfl]
  simp [Reading.finish, Reading.transcript, Reading.start]

/-- Bars in a value, blank lines, an empty name, an empty block, a lone carriage return inside a
line, and a body that looks like values. -/
theorem read_write_of_mixed_items :
    let items : List Item :=
      [.debug " begin".toList, .text "first".toList, .value "".toList "a|b|".toList, .text [],
        .block "v".toList ["TRACE_VAR|k|x".toList, [], "TRACE".toList], .block "|".toList [],
        .debug [], .text "a\rb".toList]
    (∀ item ∈ items, item.Fits) ∧ (∀ item ∈ items, ∀ line ∈ item.lines, Text.IsLine line) ∧
      read (write items) =
        ⟨[⟨"", "a|b|"⟩, ⟨"v", "TRACE_VAR|k|x\n\nTRACE"⟩, ⟨"|", ""⟩], "first\n\na\rb"⟩ := by
  intro items
  have fits : ∀ item ∈ items, item.Fits := by decide
  have whole : ∀ item ∈ items, ∀ line ∈ item.lines, Text.IsLine line := by decide
  refine ⟨fits, whole, ?_⟩
  rw [read_write items fits whole]
  decide

end StylesheetRunner.Trace
