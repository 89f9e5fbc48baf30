import Mathlib.Data.List.Basic
import StylesheetRunner.Trace

/-!
The trace protocol as a rule on positions. Which block a line belongs to is read off the last start
or end line before it, so every entry and every kept line is told from the whole list of lines and
not from what a reader holds. Nothing here changes when lines are added behind.
-/

namespace StylesheetRunner.Trace

abbrev IsDebug (line : List Char) : Prop := debugMark <+: line

abbrev IsStart (line : List Char) : Prop := blockStartMark <+: line

abbrev IsEnd (line : List Char) : Prop := blockEndMark <+: line

abbrev IsValue (line : List Char) : Prop := valueMark <+: line

def IsPlain (line : List Char) : Prop :=
  ¬ IsDebug line ∧ ¬ IsStart line ∧ ¬ IsEnd line ∧ ¬ IsValue line

instance (line : List Char) : Decidable (IsPlain line) :=
  inferInstanceAs (Decidable (_ ∧ _))

/-- The line at a position; behind the last line there are blank ones. -/
def lineAt (lines : List (List Char)) (position : Nat) : List Char :=
  lines.getD position []

def governor? (lines : List (List Char)) (position : Nat) : Option Nat :=
  ((List.range position).filter fun earlier =>
    IsStart (lineAt lines earlier) ∨ IsEnd (lineAt lines earlier)).getLast?

/-- The last start or end line before a position, when it is a start line. -/
def openStart? (lines : List (List Char)) (position : Nat) : Option Nat :=
  (governor? lines position).filter fun marker => IsStart (lineAt lines marker)

def between (lines : List (List Char)) (first last : Nat) : List (List Char) :=
  ((lines.take last).drop (first + 1)).filter fun line => ¬ IsDebug line

def afterBar (line : List Char) : List Char :=
  (line.dropWhile (· ≠ '|')).drop 1

/-- The entry that stands at a position: a block is told by its end line and named by its start
line; outside blocks a value line with two bars tells its own. -/
def entryAt? (lines : List (List Char)) (position : Nat) : Option TraceEntry :=
  let line := lineAt lines position
  if IsEnd line then
    (openStart? lines position).map fun start =>
      ⟨String.ofList (afterBar (lineAt lines start)),
        String.ofList (Text.joinLines (between lines start position))⟩
  else if IsValue line ∧ openStart? lines position = none ∧ 2 ≤ line.count '|' then
    some ⟨String.ofList ((afterBar line).takeWhile (· ≠ '|')),
      String.ofList (afterBar (afterBar line))⟩
  else none

/-- A plain line that stands at a position outside blocks. -/
def keptAt? (lines : List (List Char)) (position : Nat) : Option (List Char) :=
  if IsPlain (lineAt lines position) ∧ openStart? lines position = none then
    some (lineAt lines position)
  else none

def collect {α : Type} (at? : List (List Char) → Nat → Option α) (lines : List (List Char)) :
    List α :=
  (List.range lines.length).filterMap (at? lines)

def entriesOf (lines : List (List Char)) : List TraceEntry :=
  collect entryAt? lines

def keptLines (lines : List (List Char)) : List (List Char) :=
  collect keptAt? lines

def openLines (lines : List (List Char)) : List (List Char) :=
  match openStart? lines lines.length with
  | some start => between lines start lines.length
  | none => []

/-! Lines behind a position do not change what stands there. -/

section Locality
variable {lines more : List (List Char)} {line : List Char} {position : Nat}

theorem lineAt_append (within : position < lines.length) :
    lineAt (lines ++ more) position = lineAt lines position := by
  unfold lineAt
  rw [List.getD_eq_getElem?_getD, List.getD_eq_getElem?_getD, List.getElem?_append_left within]

theorem lineAt_concat : lineAt (lines ++ [line]) lines.length = line := by
  simp [lineAt]

theorem governor?_lt {marker : Nat} (found : governor? lines position = some marker) :
    marker < position := by
  have member := (List.mem_filter.mp (List.mem_of_getLast? found)).1
  exact List.mem_range.mp member

theorem governor?_append (within : position ≤ lines.length) :
    governor? (lines ++ more) position = governor? lines position := by
  unfold governor?
  congr 1
  refine List.filter_congr fun earlier member => ?_
  rw [lineAt_append (Nat.lt_of_lt_of_le (List.mem_range.mp member) within)]

theorem governor?_succ :
    governor? lines (position + 1) =
      if IsStart (lineAt lines position) ∨ IsEnd (lineAt lines position) then some position
      else governor? lines position := by
  unfold governor?
  rw [List.range_succ, List.filter_append, List.getLast?_append]
  by_cases marker : IsStart (lineAt lines position) ∨ IsEnd (lineAt lines position)
  · rw [if_pos marker, List.filter_cons_of_pos (by simpa using marker)]
    rfl
  · rw [if_neg marker, List.filter_cons_of_neg (by simpa using marker)]
    rfl

theorem openStart?_lt {start : Nat} (found : openStart? lines position = some start) :
    start < position :=
  governor?_lt (Option.eq_some_of_filter_eq_some found)

theorem openStart?_append (within : position ≤ lines.length) :
    openStart? (lines ++ more) position = openStart? lines position := by
  unfold openStart?
  rw [governor?_append within]
  cases found : governor? lines position with
  | none => rfl
  | some marker =>
    have before := Nat.lt_of_lt_of_le (governor?_lt found) within
    simp only [Option.filter_some, lineAt_append before]

theorem between_append {first last : Nat} (within : last ≤ lines.length) :
    between (lines ++ more) first last = between lines first last := by
  unfold between
  rw [List.take_append_of_le_length within]

theorem entryAt?_append (within : position < lines.length) :
    entryAt? (lines ++ more) position = entryAt? lines position := by
  unfold entryAt?
  rw [lineAt_append within, openStart?_append (Nat.le_of_lt within)]
  cases found : openStart? lines position with
  | none => rfl
  | some start =>
    have before := Nat.lt_trans (openStart?_lt found) within
    simp only [Option.map_some, lineAt_append before, between_append (Nat.le_of_lt within)]

theorem keptAt?_append (within : position < lines.length) :
    keptAt? (lines ++ more) position = keptAt? lines position := by
  unfold keptAt?
  rw [lineAt_append within, openStart?_append (Nat.le_of_lt within)]

theorem collect_concat {α : Type} {at? : List (List Char) → Nat → Option α}
    (stays : ∀ position < lines.length, at? (lines ++ [line]) position = at? lines position) :
    collect at? (lines ++ [line]) =
      collect at? lines ++ (at? (lines ++ [line]) lines.length).toList := by
  unfold collect
  rw [List.length_append, List.length_singleton, List.range_succ, List.filterMap_append]
  congr 1
  exact List.filterMap_congr fun position member => stays position (List.mem_range.mp member)

end Locality

/-! One more line at the end. -/

section Concat
variable {lines : List (List Char)} {line : List Char}

theorem openStart?_concat :
    openStart? (lines ++ [line]) (lines.length + 1) =
      if IsStart line then some lines.length
      else if IsEnd line then none
      else openStart? lines lines.length := by
  have before : openStart? (lines ++ [line]) lines.length = openStart? lines lines.length :=
    openStart?_append (Nat.le_refl _)
  unfold openStart? at before ⊢
  rw [governor?_succ, lineAt_concat]
  by_cases starts : IsStart line
  · rw [if_pos (.inl starts), if_pos starts]
    have passes : decide (IsStart (lineAt (lines ++ [line]) lines.length)) = true := by
      rw [lineAt_concat]
      exact decide_eq_true starts
    exact Option.filter_some_pos passes
  · rw [if_neg starts]
    by_cases ends : IsEnd line
    · rw [if_pos (.inr ends), if_pos ends]
      have blocked : decide (IsStart (lineAt (lines ++ [line]) lines.length)) = false := by
        rw [lineAt_concat]
        exact decide_eq_false starts
      exact Option.filter_some_neg blocked
    · rw [if_neg (not_or.mpr ⟨starts, ends⟩), if_neg ends]
      exact before

theorem between_concat {start : Nat} (within : start < lines.length) :
    between (lines ++ [line]) start (lines.length + 1) =
      between lines start lines.length ++ if IsDebug line then [] else [line] := by
  have whole : (lines ++ [line]).take (lines.length + 1) = lines ++ [line] :=
    List.take_of_length_le (by simp)
  unfold between
  rw [whole, List.take_length, List.drop_append_of_le_length within, List.filter_append]
  congr 1
  by_cases debug : IsDebug line
  · rw [if_pos debug, List.filter_cons_of_neg (by simpa using debug), List.filter_nil]
  · rw [if_neg debug, List.filter_cons_of_pos (by simpa using debug), List.filter_nil]

theorem between_concat_length {last : Nat} : between (lines ++ [line]) lines.length last = [] := by
  have short := List.length_take_le' last (lines ++ [line])
  rw [List.length_append, List.length_singleton] at short
  unfold between
  rw [List.drop_eq_nil_of_le short, List.filter_nil]

theorem entriesOf_concat :
    entriesOf (lines ++ [line]) =
      entriesOf lines ++ (entryAt? (lines ++ [line]) lines.length).toList :=
  collect_concat fun _ within => entryAt?_append within

theorem keptLines_concat :
    keptLines (lines ++ [line]) =
      keptLines lines ++ (keptAt? (lines ++ [line]) lines.length).toList :=
  collect_concat fun _ within => keptAt?_append within

theorem entryAt?_concat :
    entryAt? (lines ++ [line]) lines.length =
      if IsEnd line then
        (openStart? lines lines.length).map fun start =>
          ⟨String.ofList (afterBar (lineAt lines start)),
            String.ofList (Text.joinLines (between lines start lines.length))⟩
      else if IsValue line ∧ openStart? lines lines.length = none ∧ 2 ≤ line.count '|' then
        some ⟨String.ofList ((afterBar line).takeWhile (· ≠ '|')),
          String.ofList (afterBar (afterBar line))⟩
      else none := by
  unfold entryAt?
  rw [lineAt_concat, openStart?_append (Nat.le_refl _)]
  cases found : openStart? lines lines.length with
  | none => rfl
  | some start =>
    simp only [Option.map_some, lineAt_append (openStart?_lt found), between_append (Nat.le_refl _)]

theorem keptAt?_concat :
    keptAt? (lines ++ [line]) lines.length =
      if IsPlain line ∧ openStart? lines lines.length = none then some line else none := by
  unfold keptAt?
  rw [lineAt_concat, openStart?_append (Nat.le_refl _)]

end Concat

end StylesheetRunner.Trace
