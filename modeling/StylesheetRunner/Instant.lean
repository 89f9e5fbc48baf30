import StylesheetRunner.Text.Numeral

/-!
Points in time and their writing in the universal calendar.
-/

namespace StylesheetRunner

/-- A point in time, in nanoseconds since the beginning of 1970. -/
structure Instant where
  nanoseconds : Nat
deriving DecidableEq, Repr, Inhabited

namespace Instant

def padded (width number : Nat) : List Char :=
  let digits := Text.naturalText number
  List.replicate (width - digits.length) '0' ++ digits

/-- The year, month and day that lie the given number of days after the beginning of 1970. -/
def civilDate (days : Nat) : Nat × Nat × Nat :=
  let shifted := days + 719468
  let era := shifted / 146097
  let dayOfEra := shifted % 146097
  let yearOfEra := (dayOfEra - dayOfEra / 1460 + dayOfEra / 36524 - dayOfEra / 146096) / 365
  let dayOfYear := dayOfEra - (365 * yearOfEra + yearOfEra / 4 - yearOfEra / 100)
  let shiftedMonth := (5 * dayOfYear + 2) / 153
  let day := dayOfYear - (153 * shiftedMonth + 2) / 5 + 1
  let month := if shiftedMonth < 10 then shiftedMonth + 3 else shiftedMonth - 9
  let year := yearOfEra + 400 * era + (if month ≤ 2 then 1 else 0)
  (year, month, day)

def yearText (year : Nat) : List Char :=
  if year ≤ 9999 then padded 4 year else '+' :: Text.naturalText year

/-- The fraction of a second, in groups of three digits as far as they are needed. -/
def fraction (nanoseconds : Nat) : List Char :=
  if nanoseconds = 0 then []
  else if nanoseconds % 1000000 = 0 then '.' :: padded 3 (nanoseconds / 1000000)
  else if nanoseconds % 1000 = 0 then '.' :: padded 6 (nanoseconds / 1000)
  else '.' :: padded 9 nanoseconds

def text (instant : Instant) : String :=
  let seconds := instant.nanoseconds / 1000000000
  let (year, month, day) := civilDate (seconds / 86400)
  let time := seconds % 86400
  String.ofList <|
    yearText year ++ '-' :: padded 2 month ++ '-' :: padded 2 day ++
      'T' :: padded 2 (time / 3600) ++ ':' :: padded 2 (time / 60 % 60) ++
      ':' :: padded 2 (time % 60) ++ fraction (instant.nanoseconds % 1000000000) ++ ['Z']

end Instant

end StylesheetRunner
