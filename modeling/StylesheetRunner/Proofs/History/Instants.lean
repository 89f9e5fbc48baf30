import Mathlib.Data.List.TakeDrop
import StylesheetRunner.Proofs.History.Calendar
import StylesheetRunner.Proofs.Text.Numeral

/-!
Points in time are read back from their texts: a date of the calendar, a time of day and perhaps a
fraction of a second, each in digits.
-/

namespace StylesheetRunner.Instant

def cut? (mark : Char) (text : List Char) : Option (List Char × List Char) :=
  match text.span (· ≠ mark) with
  | (front, _ :: rest) => some (front, rest)
  | (_, []) => none

def number? (digits : List Char) : Option Nat :=
  if digits ≠ [] ∧ digits.all Char.isDigit then some (Nat.ofDigitChars 10 digits 0) else none

def numberOf? (width : Nat) (digits : List Char) : Option Nat :=
  if digits.length = width then number? digits else none

def year? : List Char → Option Nat
  | '+' :: digits => if 4 < digits.length then number? digits else none
  | digits => numberOf? 4 digits

def date? (text : List Char) : Option Nat := do
  let (year, text) ← cut? '-' text
  let (month, day) ← cut? '-' text
  dayNumber? (← year? year) (← numberOf? 2 month) (← numberOf? 2 day)

def clock? (bound : Nat) (digits : List Char) : Option Nat :=
  (numberOf? 2 digits).filter (· < bound)

def fraction? : List Char → Option Nat
  | [] => some 0
  | '.' :: digits =>
    if digits.length ≤ 9 then (number? digits).map (· * 10 ^ (9 - digits.length)) else none
  | _ => none

def time? (text : List Char) : Option Nat := do
  let (hour, text) ← cut? ':' text
  let (minute, second) ← cut? ':' text
  let seconds := (← clock? 24 hour) * 3600 + (← clock? 60 minute) * 60 +
    (← clock? 60 (second.take 2))
  return seconds * 1000000000 + (← fraction? (second.drop 2))

/-- The point in time that a text says, which ends with the mark of the universal calendar. -/
def ofText? (text : List Char) : Option Instant := do
  let (date, text) ← cut? 'T' text
  let (time, rest) ← cut? 'Z' text
  guard (rest = [])
  return ⟨(← date? date) * 86400000000000 + (← time? time)⟩

theorem cut?_append {mark : Char} {front : List Char} (absent : mark ∉ front) (rest : List Char) :
    cut? mark (front ++ mark :: rest) = some (front, rest) := by
  have front_plain : ∀ character ∈ front, decide (character ≠ mark) = true := by
    intro character member
    exact decide_eq_true fun same => absent (same ▸ member)
  rw [cut?, List.span_eq_takeWhile_dropWhile, List.takeWhile_append_of_pos front_plain,
    List.dropWhile_append_of_pos front_plain]
  simp

section

variable {width number : Nat}

theorem isDigit_of_mem_padded {character : Char} (member : character ∈ padded width number) :
    character.isDigit = true := by
  rcases List.mem_append.mp member with zero | digit
  · obtain ⟨-, rfl⟩ := List.mem_replicate.mp zero
    rfl
  · exact Text.isDigit_of_mem_naturalText digit

theorem length_padded (positive : 0 < width) (small : number < 10 ^ width) :
    (padded width number).length = width := by
  have fits := (Nat.length_toDigits_le_iff (by decide : 1 < 10) positive).mpr small
  unfold padded Text.naturalText
  rw [List.length_append, List.length_replicate, Nat.sub_add_cancel fits]

theorem number?_of_digits {digits : List Char} (nonempty : digits ≠ [])
    (decimal : ∀ character ∈ digits, character.isDigit = true) :
    number? digits = some (Nat.ofDigitChars 10 digits 0) :=
  if_pos ⟨nonempty, List.all_eq_true.mpr decimal⟩

theorem number?_naturalText (number : Nat) : number? (Text.naturalText number) = some number := by
  rw [number?_of_digits (Text.naturalText_ne_nil _) fun _ => Text.isDigit_of_mem_naturalText,
    Text.naturalText, Nat.ofDigitChars_ten_toDigits]

theorem number?_padded (width number : Nat) : number? (padded width number) = some number := by
  have nonempty : padded width number ≠ [] :=
    List.append_ne_nil_of_right_ne_nil _ (Text.naturalText_ne_nil _)
  rw [number?_of_digits nonempty fun _ => isDigit_of_mem_padded, padded, Nat.ofDigitChars_append,
    Nat.ofDigitChars_replicate_zero, Nat.mul_zero, Text.naturalText, Nat.ofDigitChars_ten_toDigits]

theorem numberOf?_padded (positive : 0 < width) (small : number < 10 ^ width) :
    numberOf? width (padded width number) = some number := by
  rw [numberOf?, if_pos (length_padded positive small), number?_padded]

theorem not_mem_padded {character : Char} (other : character.isDigit = false) (width number : Nat) :
    character ∉ padded width number := by
  intro member
  rw [isDigit_of_mem_padded member] at other
  cases other

theorem not_mem_yearText {character : Char} (other : character.isDigit = false)
    (no_sign : character ≠ '+') (year : Nat) : character ∉ yearText year := by
  unfold yearText
  split
  · exact not_mem_padded other 4 year
  · intro member
    rcases List.mem_cons.mp member with sign | digit
    · exact no_sign sign
    · rw [Text.isDigit_of_mem_naturalText digit] at other
      cases other

theorem year?_yearText (year : Nat) : year? (yearText year) = some year := by
  unfold yearText
  split
  next small =>
    have no_sign := not_mem_padded (by decide : '+'.isDigit = false) 4 year
    unfold year?
    split
    next signed => exact absurd (signed ▸ List.mem_cons_self) no_sign
    next => exact numberOf?_padded (by decide) (Nat.lt_succ_of_le small)
  next large =>
    have long : 4 < (Text.naturalText year).length := by
      have short_iff := @Nat.length_toDigits_le_iff 10 year 4 (by decide) (by decide)
      rw [← not_le]
      intro short
      exact large (Nat.le_of_lt_succ (short_iff.mp short))
    rw [year?, if_pos long, number?_naturalText]

theorem fraction?_fraction {nanoseconds : Nat} (small : nanoseconds < 1000000000) :
    fraction? (fraction nanoseconds) = some nanoseconds := by
  have read {width part : Nat} (positive : 0 < width) (fits : part < 10 ^ width)
      (width_le : width ≤ 9) :
      fraction? ('.' :: padded width part) = some (part * 10 ^ (9 - width)) := by
    rw [fraction?, length_padded positive fits, if_pos width_le, number?_padded]
    rfl
  unfold fraction
  split_ifs with whole milliseconds microseconds
  · rw [whole, fraction?]
  · rw [read (by decide) (by omega) (by decide)]
    refine congrArg some ?_
    omega
  · rw [read (by decide) (by omega) (by decide)]
    refine congrArg some ?_
    omega
  · rw [read (by decide) small (by decide), Nat.sub_self, Nat.pow_zero, Nat.mul_one]

end

theorem lt_of_dayNumber? {year month day days : Nat}
    (dated : dayNumber? year month day = some days) : month < 100 ∧ day < 100 := by
  unfold dayNumber? at dated
  split at dated
  next length found =>
    split at dated
    next exists_date =>
      obtain ⟨in_year, -⟩ := List.getElem?_eq_some_iff.mp found
      have months : (monthLengths year).length = 12 := rfl
      have short : ∀ length ∈ monthLengths year, length ≤ 31 := by
        unfold monthLengths
        split <;> decide
      have length_le := short length (List.mem_of_getElem? found)
      omega
    next => cases dated
  next => cases dated

theorem date?_written {year month day days : Nat}
    (dated : dayNumber? year month day = some days) :
    date? (yearText year ++ '-' :: (padded 2 month ++ '-' :: padded 2 day)) = some days := by
  obtain ⟨month_lt, day_lt⟩ := lt_of_dayNumber? dated
  unfold date?
  rw [cut?_append (not_mem_yearText (by decide) (by decide) year)]
  simp only [Option.bind_eq_bind, Option.bind_some,
    cut?_append (not_mem_padded (by decide : '-'.isDigit = false) 2 month),
    year?_yearText, numberOf?_padded (by decide : 0 < 2) month_lt,
    numberOf?_padded (by decide : 0 < 2) day_lt, dated]

theorem clock?_padded {bound number : Nat} (bound_le : bound ≤ 100) (number_lt : number < bound) :
    clock? bound (padded 2 number) = some number := by
  rw [clock?, numberOf?_padded (by decide) (Nat.lt_of_lt_of_le number_lt bound_le)]
  exact Option.filter_eq_some_iff.mpr ⟨rfl, decide_eq_true number_lt⟩

theorem time?_written {time nanoseconds : Nat} (time_lt : time < 86400)
    (small : nanoseconds < 1000000000) :
    time? (padded 2 (time / 3600) ++ ':' :: (padded 2 (time / 60 % 60) ++
        ':' :: (padded 2 (time % 60) ++ fraction nanoseconds))) =
      some (time * 1000000000 + nanoseconds) := by
  have hour_lt : time / 3600 < 24 := by omega
  have minute_lt : time / 60 % 60 < 60 := Nat.mod_lt _ (by decide)
  have second_lt : time % 60 < 60 := Nat.mod_lt _ (by decide)
  have length_second : (padded 2 (time % 60)).length = 2 := length_padded (by decide) (by omega)
  have colon (number : Nat) : ':' ∉ padded 2 number := not_mem_padded (by decide) 2 number
  have seconds : time / 3600 * 3600 + time / 60 % 60 * 60 + time % 60 = time := by omega
  unfold time?
  rw [cut?_append (colon _)]
  simp only [Option.bind_eq_bind, Option.bind_some, cut?_append (colon _),
    List.take_left' length_second, List.drop_left' length_second,
    clock?_padded (by decide : 24 ≤ 100) hour_lt, clock?_padded (by decide : 60 ≤ 100) minute_lt,
    clock?_padded (by decide : 60 ≤ 100) second_lt, fraction?_fraction small, seconds]
  rfl

theorem not_mem_fraction {character : Char} (other : character.isDigit = false)
    (no_point : character ≠ '.') (nanoseconds : Nat) : character ∉ fraction nanoseconds := by
  unfold fraction
  split_ifs <;> simp [no_point, not_mem_padded other]

theorem ofText?_written {year month day days time part : Nat}
    (dated : dayNumber? year month day = some days) (time_lt : time < 86400)
    (part_lt : part < 1000000000) :
    ofText? (yearText year ++ '-' :: padded 2 month ++ '-' :: padded 2 day ++
        'T' :: padded 2 (time / 3600) ++ ':' :: padded 2 (time / 60 % 60) ++
        ':' :: padded 2 (time % 60) ++ fraction part ++ ['Z']) =
      some ⟨days * 86400000000000 + (time * 1000000000 + part)⟩ := by
  have no_time_mark (number : Nat) : 'T' ∉ padded 2 number := not_mem_padded (by decide) 2 number
  have no_end_mark (number : Nat) : 'Z' ∉ padded 2 number := not_mem_padded (by decide) 2 number
  have before_time : 'T' ∉ yearText year ++ '-' :: (padded 2 month ++ '-' :: padded 2 day) := by
    simp [no_time_mark, not_mem_yearText (by decide : 'T'.isDigit = false)]
  have before_end : 'Z' ∉ padded 2 (time / 3600) ++ ':' :: (padded 2 (time / 60 % 60) ++
      ':' :: (padded 2 (time % 60) ++ fraction part)) := by
    simp [no_end_mark, not_mem_fraction (by decide : 'Z'.isDigit = false)]
  have date_read := date?_written dated
  have time_read := time?_written time_lt part_lt
  have first_cut := cut?_append before_time (padded 2 (time / 3600) ++
    ':' :: (padded 2 (time / 60 % 60) ++ ':' :: (padded 2 (time % 60) ++ (fraction part ++ ['Z']))))
  have second_cut := cut?_append before_end []
  simp only [List.append_assoc, List.cons_append] at *
  unfold ofText?
  rw [first_cut]
  simp only [Option.bind_eq_bind, Option.bind_some, second_cut, date_read, time_read]
  rfl

theorem ofText?_text (instant : Instant) : ofText? instant.text.toList = some instant := by
  obtain ⟨nanoseconds⟩ := instant
  have read := ofText?_written (dayNumber?_civilDate (nanoseconds / 1000000000 / 86400))
    (Nat.mod_lt (nanoseconds / 1000000000) (by decide)) (Nat.mod_lt nanoseconds (by decide))
  unfold text
  rw [String.toList_ofList]
  refine read.trans (congrArg (some ∘ Instant.mk) ?_)
  omega

end StylesheetRunner.Instant
