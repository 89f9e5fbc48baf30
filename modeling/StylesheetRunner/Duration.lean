import StylesheetRunner.Text.Numeral

/-!
Spans of time, counted in nanoseconds.
-/

namespace StylesheetRunner

structure Duration where
  nanoseconds : Nat
deriving DecidableEq, Repr, Inhabited

namespace Duration

def ofMilliseconds (count : Nat) : Duration := ⟨count * 1000000⟩

def ofParts (seconds nanoseconds : Nat) : Duration := ⟨seconds * 1000000000 + nanoseconds⟩

def milliseconds (span : Duration) : Nat := span.nanoseconds / 1000000

def seconds (span : Duration) : Nat := span.nanoseconds / 1000000000

def subsecondNanoseconds (span : Duration) : Nat := span.nanoseconds % 1000000000

def cappedMilliseconds (span : Duration) : UInt64 :=
  UInt64.ofNat (min span.milliseconds Text.wordLimit)

def add (first second : Duration) : Duration := ⟨first.nanoseconds + second.nanoseconds⟩

def remaining (whole passed : Duration) : Duration := ⟨whole.nanoseconds - passed.nanoseconds⟩

instance : Add Duration := ⟨add⟩

theorem milliseconds_ofMilliseconds (count : Nat) :
    (ofMilliseconds count).milliseconds = count := by
  simp [ofMilliseconds, milliseconds]

end Duration

end StylesheetRunner
