import StylesheetRunner.Proofs.Text.Lines

/-!
Where lines end. A text that stops at the end of a line has the same lines whatever is written
behind it, so such texts are read part by part. A line is read without the carriage return before
its line feed, so carriage returns may be set before line feeds at will, and no line holds a line
feed, so lines joined by line feeds are split again.
-/

namespace StylesheetRunner.Text

/-- No line has begun that is not ended. -/
def Ended (text : List Char) : Prop :=
  text = [] ∨ text.getLast? = some '\n'

instance (text : List Char) : Decidable (Ended text) :=
  inferInstanceAs (Decidable (_ ∨ _))

theorem lines_ne_nil {text : List Char} (nonempty : text ≠ []) : lines text ≠ [] := by
  fun_cases lines text <;> simp_all

theorem lines_append_behind_feed (text rest : List Char) :
    lines (text ++ '\n' :: rest) = lines (text ++ ['\n']) ++ lines rest := by
  induction text with
  | nil => rfl
  | cons character text ih =>
    by_cases feed : character = '\n'
    · subst feed
      simp only [List.cons_append, lines, ih]
    by_cases pair : character = '\r' ∧ (text ++ ['\n']).head? = some '\n'
    · -- The carriage return and the line feed behind it are read at once.
      obtain ⟨rfl, behind⟩ := pair
      cases text with
      | nil => rfl
      | cons next text =>
        obtain rfl : next = '\n' := by simpa using behind
        simpa only [List.cons_append, lines] using ih
    · have same_head : (text ++ '\n' :: rest).head? = (text ++ ['\n']).head? := by
        cases text <;> rfl
      have alone : character = '\r' → (text ++ ['\n']).head? ≠ some '\n' :=
        fun carriage_return behind => pair ⟨carriage_return, behind⟩
      rw [List.cons_append, List.cons_append, lines_cons feed alone,
        lines_cons feed (same_head ▸ alone), ih]
      cases found : lines (text ++ ['\n']) with
      | nil => exact absurd found (lines_ne_nil (by simp))
      | cons first others => rfl

theorem lines_append_of_ended {front : List Char} (ended : Ended front) (back : List Char) :
    lines (front ++ back) = lines front ++ lines back := by
  rcases ended with rfl | last
  · rfl
  · obtain ⟨text, rfl⟩ := List.getLast?_eq_some_iff.mp last
    rw [List.append_assoc, List.singleton_append, lines_append_behind_feed]

/-- A line as it is read when a line feed ends it: one carriage return before the feed is no part
of it. -/
def withoutReturn (line : List Char) : List Char :=
  if line.getLast? = some '\r' then line.dropLast else line

theorem lines_append_pair {line : List Char} (no_feed : '\n' ∉ line) (rest : List Char) :
    lines (line ++ '\r' :: '\n' :: rest) = line :: lines rest := by
  induction line with
  | nil => rfl
  | cons character line ih =>
    rw [List.mem_cons, not_or] at no_feed
    have alone : (line ++ '\r' :: '\n' :: rest).head? ≠ some '\n' := by
      cases line with
      | nil => simp
      | cons next line =>
        intro feed
        exact no_feed.2 (Option.some.inj feed ▸ List.mem_cons_self)
    rw [List.cons_append, lines_cons (Ne.symm no_feed.1) fun _ => alone, ih no_feed.2]

theorem lines_append_line {line : List Char} (no_feed : '\n' ∉ line) (rest : List Char) :
    lines (line ++ '\n' :: rest) = withoutReturn line :: lines rest := by
  unfold withoutReturn
  split
  next last =>
    obtain ⟨line, rfl⟩ := List.getLast?_eq_some_iff.mp last
    have no_feed_before : '\n' ∉ line := fun member => no_feed (List.mem_append_left _ member)
    rw [List.dropLast_concat, List.append_assoc, List.singleton_append,
      lines_append_pair no_feed_before]
  next last => exact lines_append_feed ⟨no_feed, last⟩ rest

theorem not_mem_of_mem_lines {text line : List Char} (member : line ∈ lines text) :
    '\n' ∉ line := by
  fun_induction lines text generalizing line with
  | case1 => cases member
  | case2 rest ih =>
    rcases List.mem_cons.mp member with rfl | later
    · exact List.not_mem_nil
    · exact ih later
  | case3 rest ih =>
    rcases List.mem_cons.mp member with rfl | later
    · exact List.not_mem_nil
    · exact ih later
  | case4 character rest no_feed no_pair nothing ih =>
    obtain rfl := List.mem_singleton.mp member
    rw [List.mem_singleton]
    exact fun feed => no_feed feed.symm
  | case5 character rest no_feed no_pair first others found ih =>
    rw [found] at ih
    rcases List.mem_cons.mp member with rfl | later
    · rw [List.mem_cons, not_or]
      exact ⟨fun feed => no_feed feed.symm, ih List.mem_cons_self⟩
    · exact ih (List.mem_cons_of_mem _ later)

/-- A text with a carriage return set before some of its line feeds: those that are chosen, counted
from the first. -/
def withReturns (chosen : Nat → Bool) : List Char → List Char
  | [] => []
  | character :: rest =>
    if character = '\n' then
      let later := withReturns (fun count => chosen (count + 1)) rest
      if chosen 0 then '\r' :: '\n' :: later else '\n' :: later
    else character :: withReturns chosen rest

theorem lines_withReturns {text : List Char} (chosen : Nat → Bool) (no_return : '\r' ∉ text) :
    lines (withReturns chosen text) = lines text := by
  induction text generalizing chosen with
  | nil => rfl
  | cons character rest ih =>
    rw [List.mem_cons, not_or] at no_return
    obtain ⟨other, no_return_later⟩ := no_return
    rw [withReturns]
    split
    next feed =>
      subst feed
      split
      next => rw [lines, lines, ih _ no_return_later]
      next => rw [lines, lines, ih _ no_return_later]
    next no_feed =>
      -- A character that is no carriage return begins no end of a line, whatever is set behind it.
      have alone {behind : List Char} : character = '\r' → behind.head? ≠ some '\n' :=
        fun carriage_return => absurd carriage_return.symm other
      rw [lines_cons no_feed alone, lines_cons no_feed alone, ih _ no_return_later]

theorem joinLines_append_of_ne_nil {first second : List (List Char)} (some_first : first ≠ [])
    (some_second : second ≠ []) :
    joinLines (first ++ second) = joinLines first ++ '\n' :: joinLines second := by
  rw [joinLines_append second some_first]
  cases second with
  | nil => exact absurd rfl some_second
  | cons piece others => rw [joinLines_cons, List.flatMap_cons, List.cons_append]

theorem joinLines_eq_intercalate (pieces : List (List Char)) :
    joinLines pieces = ['\n'].intercalate pieces := by
  induction pieces with
  | nil => rfl
  | cons piece others ih =>
    cases others with
    | nil => simp [joinLines, join]
    | cons next others =>
      rw [joinLines_cons_cons, ih, List.intercalate_cons_cons, List.append_assoc,
        List.singleton_append]

theorem splitOn_joinLines {pieces : List (List Char)} (no_feed : ∀ piece ∈ pieces, '\n' ∉ piece)
    (nonempty : pieces ≠ []) : (joinLines pieces).splitOn '\n' = pieces := by
  rw [joinLines_eq_intercalate, List.splitOn_intercalate '\n' no_feed nonempty]

/-- Joined lines are split again, but for blank ones: no line joined is a blank line split. -/
theorem filter_splitOn_joinLines {pieces : List (List Char)}
    (no_feed : ∀ piece ∈ pieces, '\n' ∉ piece) :
    ((joinLines pieces).splitOn '\n').filter (· ≠ []) = pieces.filter (· ≠ []) := by
  cases pieces with
  | nil => rfl
  | cons piece others => rw [splitOn_joinLines no_feed (List.cons_ne_nil piece others)]

theorem filter_dropWhile_blank (lines : List (List Char)) :
    (lines.dropWhile (· = [])).filter (· ≠ []) = lines.filter (· ≠ []) := by
  induction lines with
  | nil => rfl
  | cons line others ih =>
    by_cases blank : line = []
    · subst blank
      rw [List.dropWhile_cons_of_pos (by simp), ih, List.filter_cons_of_neg (by simp)]
    · rw [List.dropWhile_cons_of_neg (by simpa using blank)]

end StylesheetRunner.Text
