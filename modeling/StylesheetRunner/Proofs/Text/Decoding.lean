import StylesheetRunner.Proofs.Text.Utf8

/-!
Bytes that are read without a gap are the bytes of a text. At the front of a stream stand the bytes
of a character, or whatever is read leaves a gap that does not go away.
-/

namespace StylesheetRunner.Text.Utf8

open Decoder

/-- A stream that leaves a gap, from a reader that has come so far. -/
def LeavesGap (decoder : Decoder) (bytes : List UInt8) : Prop :=
  none ∈ (bytes.foldl step decoder).finish

section Gaps
variable {decoder : Decoder} {pieces : List (Option Char)} {bytes : List UInt8}

theorem mem_pieces_begin (gap : none ∈ decoder.pieces) (byte : Nat) :
    none ∈ (decoder.begin byte).pieces := by
  unfold begin
  split
  next => exact List.mem_cons_of_mem _ gap
  repeat'
    split
    next => exact gap
  exact List.mem_cons_self

theorem mem_pieces_step (gap : none ∈ decoder.pieces) (byte : UInt8) :
    none ∈ (decoder.step byte).pieces := by
  unfold step
  split
  next => exact mem_pieces_begin gap _
  next =>
    split
    next =>
      dsimp only
      split
      · exact List.mem_cons_of_mem _ gap
      · exact gap
    next => exact mem_pieces_begin List.mem_cons_self _

theorem leavesGap_of_mem (gap : none ∈ decoder.pieces) (bytes : List UInt8) :
    LeavesGap decoder bytes := by
  induction bytes generalizing decoder with
  | nil =>
    unfold LeavesGap finish
    split
    next => exact List.mem_reverse.mpr gap
    next => exact List.mem_reverse.mpr List.mem_cons_self
  | cons byte rest ih => exact ih (mem_pieces_step gap byte)

theorem leavesGap_or_awaited (pending : Pending) (pieces : List (Option Char))
    (bytes : List UInt8) :
    LeavesGap ⟨some pending, pieces⟩ bytes ∨
      ∃ byte rest, bytes = byte :: rest ∧
        pending.least ≤ byte.toNat ∧ byte.toNat ≤ pending.greatest := by
  cases bytes with
  | nil => exact .inl (List.mem_reverse.mpr List.mem_cons_self)
  | cons byte rest =>
    by_cases awaited : pending.least ≤ byte.toNat ∧ byte.toNat ≤ pending.greatest
    · exact .inr ⟨byte, rest, rfl, awaited⟩
    · left
      have stepped : step ⟨some pending, pieces⟩ byte =
          begin ⟨none, none :: pieces⟩ byte.toNat := by
        simp only [step, if_neg awaited]
      change LeavesGap (step ⟨some pending, pieces⟩ byte) rest
      rw [stepped]
      exact leavesGap_of_mem (mem_pieces_begin List.mem_cons_self _) rest

end Gaps

/-! The bytes of one character, told by their numbers. -/

section Lengths
variable {point : Nat}

theorem toNat_ofNat_of_valid (valid : point < 0xD800 ∨ 0xDFFF < point ∧ point < 0x110000) :
    (Char.ofNat point).toNat = point := by
  have is_valid : point.isValidChar := valid
  unfold Char.ofNat
  rw [dif_pos is_valid]
  rfl

theorem eq_ofNat {byte : UInt8} {value : Nat} (same : byte.toNat = value) :
    byte = UInt8.ofNat value := by
  rw [← same, UInt8.ofNat_toNat]

variable {a b c d : UInt8}

theorem encodeCharacter_one (first : a.toNat < 0x80) :
    encodeCharacter (Char.ofNat a.toNat) = [a] := by
  unfold encodeCharacter
  rw [toNat_ofNat_of_valid (by omega)]
  simp only [if_pos first, UInt8.ofNat_toNat]

theorem encodeCharacter_two (first : 0xC2 ≤ a.toNat ∧ a.toNat ≤ 0xDF)
    (second : 0x80 ≤ b.toNat ∧ b.toNat ≤ 0xBF) :
    encodeCharacter (Char.ofNat ((a.toNat - 0xC0) * 0x40 + (b.toNat - 0x80))) = [a, b] := by
  unfold encodeCharacter
  rw [toNat_ofNat_of_valid (by omega), if_neg (by omega), if_pos (by omega),
    ← eq_ofNat (by omega : a.toNat = _), ← eq_ofNat (by omega : b.toNat = _)]

theorem encodeCharacter_three (first : 0xE0 ≤ a.toNat ∧ a.toNat ≤ 0xEF)
    (second : leastAfterThree a.toNat ≤ b.toNat ∧ b.toNat ≤ greatestAfterThree a.toNat)
    (third : 0x80 ≤ c.toNat ∧ c.toNat ≤ 0xBF) :
    encodeCharacter (Char.ofNat (((a.toNat - 0xE0) * 0x40 + (b.toNat - 0x80)) * 0x40 +
      (c.toNat - 0x80))) = [a, b, c] := by
  unfold leastAfterThree greatestAfterThree at second
  have wide : 0x80 ≤ b.toNat ∧ b.toNat ≤ 0xBF := by split at second <;> split at second <;> omega
  have lowest : a.toNat = 0xE0 → 0xA0 ≤ b.toNat := fun same => by
    rw [if_pos same] at second
    exact second.1
  have surrogates : a.toNat = 0xED → b.toNat ≤ 0x9F := fun same => by
    rw [if_pos same] at second
    exact second.2
  unfold encodeCharacter
  rw [toNat_ofNat_of_valid (by omega), if_neg (by omega), if_neg (by omega), if_pos (by omega),
    ← eq_ofNat (by omega : a.toNat = _), ← eq_ofNat (by omega : b.toNat = _),
    ← eq_ofNat (by omega : c.toNat = _)]

theorem encodeCharacter_four (first : 0xF0 ≤ a.toNat ∧ a.toNat ≤ 0xF4)
    (second : leastAfterFour a.toNat ≤ b.toNat ∧ b.toNat ≤ greatestAfterFour a.toNat)
    (third : 0x80 ≤ c.toNat ∧ c.toNat ≤ 0xBF) (fourth : 0x80 ≤ d.toNat ∧ d.toNat ≤ 0xBF) :
    encodeCharacter (Char.ofNat ((((a.toNat - 0xF0) * 0x40 + (b.toNat - 0x80)) * 0x40 +
      (c.toNat - 0x80)) * 0x40 + (d.toNat - 0x80))) = [a, b, c, d] := by
  unfold leastAfterFour greatestAfterFour at second
  have wide : 0x80 ≤ b.toNat ∧ b.toNat ≤ 0xBF := by split at second <;> split at second <;> omega
  have lowest : a.toNat = 0xF0 → 0x90 ≤ b.toNat := fun same => by
    rw [if_pos same] at second
    exact second.1
  have highest : a.toNat = 0xF4 → b.toNat ≤ 0x8F := fun same => by
    rw [if_pos same] at second
    exact second.2
  unfold encodeCharacter
  rw [toNat_ofNat_of_valid (by omega), if_neg (by omega), if_neg (by omega), if_neg (by omega),
    ← eq_ofNat (by omega : a.toNat = _), ← eq_ofNat (by omega : b.toNat = _),
    ← eq_ofNat (by omega : c.toNat = _), ← eq_ofNat (by omega : d.toNat = _)]

end Lengths

section Characters
variable {first : UInt8} (pieces : List (Option Char)) (rest : List UInt8)

theorem leavesGap_or_three (three : 0xE0 ≤ first.toNat ∧ first.toNat ≤ 0xEF) :
    LeavesGap (begin ⟨none, pieces⟩ first.toNat) rest ∨
      ∃ character after, first :: rest = encodeCharacter character ++ after := by
  rw [begin_three pieces three]
  rcases leavesGap_or_awaited ⟨2, first.toNat - 0xE0, leastAfterThree first.toNat,
    greatestAfterThree first.toNat⟩ pieces rest with gap | ⟨b, rest, rfl, second⟩
  · exact .inl gap
  have stepped := @step_more 0 (first.toNat - 0xE0) _ _ b pieces second
  change LeavesGap (step _ b) rest ∨ _
  rw [stepped]
  rcases leavesGap_or_awaited ⟨1, (first.toNat - 0xE0) * 0x40 + (b.toNat - 0x80), 0x80, 0xBF⟩
    pieces rest with gap | ⟨c, rest, rfl, third⟩
  · exact .inl gap
  · exact .inr ⟨_, rest, by rw [encodeCharacter_three three second third]; rfl⟩

theorem leavesGap_or_four (four : 0xF0 ≤ first.toNat ∧ first.toNat ≤ 0xF4) :
    LeavesGap (begin ⟨none, pieces⟩ first.toNat) rest ∨
      ∃ character after, first :: rest = encodeCharacter character ++ after := by
  rw [begin_four pieces four]
  rcases leavesGap_or_awaited ⟨3, first.toNat - 0xF0, leastAfterFour first.toNat,
    greatestAfterFour first.toNat⟩ pieces rest with gap | ⟨b, rest, rfl, second⟩
  · exact .inl gap
  have stepped := @step_more 1 (first.toNat - 0xF0) _ _ b pieces second
  change LeavesGap (step _ b) rest ∨ _
  rw [stepped]
  rcases leavesGap_or_awaited ⟨2, (first.toNat - 0xF0) * 0x40 + (b.toNat - 0x80), 0x80, 0xBF⟩
    pieces rest with gap | ⟨c, rest, rfl, third⟩
  · exact .inl gap
  have stepped := @step_more 0 ((first.toNat - 0xF0) * 0x40 + (b.toNat - 0x80)) _ _ c pieces third
  change LeavesGap (step _ c) rest ∨ _
  rw [stepped]
  rcases leavesGap_or_awaited ⟨1, ((first.toNat - 0xF0) * 0x40 + (b.toNat - 0x80)) * 0x40 +
    (c.toNat - 0x80), 0x80, 0xBF⟩ pieces rest with gap | ⟨d, rest, rfl, fourth⟩
  · exact .inl gap
  · exact .inr ⟨_, rest, by rw [encodeCharacter_four four second third fourth]; rfl⟩

theorem leavesGap_or_character (first : UInt8) :
    LeavesGap ⟨none, pieces⟩ (first :: rest) ∨
      ∃ character after, first :: rest = encodeCharacter character ++ after := by
  change LeavesGap (begin ⟨none, pieces⟩ first.toNat) rest ∨ _
  by_cases one : first.toNat < 0x80
  · exact .inr ⟨_, rest, by rw [encodeCharacter_one one]; rfl⟩
  by_cases two : 0xC2 ≤ first.toNat ∧ first.toNat ≤ 0xDF
  · rw [begin_two pieces two]
    rcases leavesGap_or_awaited ⟨1, first.toNat - 0xC0, 0x80, 0xBF⟩ pieces rest with
      gap | ⟨b, rest, rfl, second⟩
    · exact .inl gap
    · exact .inr ⟨_, rest, by rw [encodeCharacter_two two second]; rfl⟩
  by_cases three : 0xE0 ≤ first.toNat ∧ first.toNat ≤ 0xEF
  · exact leavesGap_or_three pieces rest three
  by_cases four : 0xF0 ≤ first.toNat ∧ first.toNat ≤ 0xF4
  · exact leavesGap_or_four pieces rest four
  left
  have bad : begin ⟨none, pieces⟩ first.toNat = ⟨none, none :: pieces⟩ := by
    unfold begin
    iterate 8 rw [if_neg (by omega)]
  rw [bad]
  exact leavesGap_of_mem List.mem_cons_self rest

end Characters

theorem leavesGap_or_text (bytes : List UInt8) (pieces : List (Option Char)) :
    LeavesGap ⟨none, pieces⟩ bytes ∨ ∃ text, bytes = encode text := by
  -- By induction on the length, since a character takes several bytes.
  induction length : bytes.length using Nat.strongRecOn generalizing bytes pieces with
  | ind length ih =>
    cases bytes with
    | nil => exact .inr ⟨[], rfl⟩
    | cons first rest =>
      rcases leavesGap_or_character pieces rest first with gap | ⟨character, after, split⟩
      · exact .inl gap
      · have some_byte := List.length_pos_iff.mpr (encodeCharacter_ne_nil character)
        rw [split, List.length_append] at length
        rcases ih after.length (by omega) after (some character :: pieces) rfl with
          gap | ⟨text, rfl⟩
        · left
          unfold LeavesGap at gap ⊢
          rwa [split, List.foldl_append, foldl_step_encodeCharacter]
        · exact .inr ⟨character :: text, by rw [split, encode_cons]⟩

theorem mapM_id_of_mem {pieces : List (Option Char)} (gap : none ∈ pieces) :
    pieces.mapM id = none := by
  induction pieces with
  | nil => cases gap
  | cons piece pieces ih =>
    rw [List.mapM_cons]
    rcases List.mem_cons.mp gap with rfl | later
    · rfl
    · rw [ih later]
      cases piece <;> rfl

theorem decode?_eq_some_iff {bytes : List UInt8} {text : List Char} :
    decode? bytes = some text ↔ bytes = encode text := by
  constructor
  · intro decoded
    rcases leavesGap_or_text bytes [] with gap | ⟨own, rfl⟩
    · have no_text : decode? bytes = none := mapM_id_of_mem gap
      rw [no_text] at decoded
      cases decoded
    · rw [decode?_encode] at decoded
      rw [Option.some.inj decoded]
  · rintro rfl
    exact decode?_encode text

end StylesheetRunner.Text.Utf8
