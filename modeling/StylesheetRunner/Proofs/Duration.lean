import StylesheetRunner.Duration

/-!
The whole milliseconds of a span, as far as 64 bits hold them.
-/

namespace StylesheetRunner.Duration

theorem toNat_cappedMilliseconds (span : Duration) :
    span.cappedMilliseconds.toNat = min span.milliseconds Text.wordLimit := by
  unfold cappedMilliseconds
  rw [UInt64.toNat_ofNat_of_lt']
  have limit : Text.wordLimit < UInt64.size := by decide
  omega

theorem cappedMilliseconds_le_of_within {span : Duration} {count : UInt64}
    (within : span.nanoseconds ≤ (ofMilliseconds count.toNat).nanoseconds) :
    span.cappedMilliseconds ≤ count := by
  rw [UInt64.le_iff_toNat_le, toNat_cappedMilliseconds]
  simp only [ofMilliseconds] at within
  unfold milliseconds
  omega

theorem cappedMilliseconds_pos_iff {span : Duration} :
    0 < span.cappedMilliseconds ↔ 1000000 ≤ span.nanoseconds := by
  have limit : 0 < Text.wordLimit := by decide
  rw [UInt64.lt_iff_toNat_lt, toNat_cappedMilliseconds, UInt64.toNat_zero, Nat.lt_min]
  unfold milliseconds
  omega

end StylesheetRunner.Duration
