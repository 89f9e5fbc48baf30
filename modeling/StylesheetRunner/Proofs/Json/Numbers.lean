import Mathlib.Data.List.TakeDrop
import StylesheetRunner.Json.Number
import StylesheetRunner.Proofs.Text.Numeral
import StylesheetRunner.Proofs.Text.Utf8

/-!
Written numbers are read back up to the end of their digits. What follows them in a written value is
never a part of a number.
-/

namespace StylesheetRunner.Json

open Text.Utf8

/-- Nothing follows, or what may stand behind a value: a blank, a comma or a closing bracket. -/
def EndsValue (rest : List UInt8) : Prop :=
  ∀ byte, rest.head? = some byte →
    isBlankByte byte = true ∨ byte = byteOf ',' ∨ byte = byteOf ']' ∨ byte = byteOf '}'

structure EndsNumber (byte : UInt8) : Prop where
  no_digit : isDigitByte byte = false
  no_point : byte ≠ byteOf '.'
  no_power : ¬ (byte = byteOf 'e' ∨ byte = byteOf 'E')

theorem endsNumber_of_endsValue {byte : UInt8} {rest : List UInt8}
    (ends : EndsValue (byte :: rest)) : EndsNumber byte := by
  have cases_of_blank : isBlankByte byte = true →
      byte = byteOf ' ' ∨ byte = byteOf '\n' ∨ byte = byteOf '\t' ∨ byte = byteOf '\r' := by
    simp [isBlankByte, or_assoc]
  rcases ends byte rfl with blank | rfl | rfl | rfl
  · rcases cases_of_blank blank with rfl | rfl | rfl | rfl
    all_goals exact ⟨by decide, by decide, by decide⟩
  all_goals exact ⟨by decide, by decide, by decide⟩

theorem ne_of_isDigitByte {byte other : UInt8} (digit : isDigitByte byte = true)
    (no_digit : isDigitByte other = false) : byte ≠ other := by
  rintro rfl
  rw [digit] at no_digit
  cases no_digit

def numeral (value : Nat) : List UInt8 := (Text.naturalText value).map Char.toUInt8

section

variable {character : Char} {value : Nat} {rest : List UInt8}

theorem encode_naturalText (value : Nat) : encode (Text.naturalText value) = numeral value := by
  apply encode_of_ascii
  intro character member
  have bounds := Text.toNat_of_isDigit (Text.isDigit_of_mem_naturalText member)
  omega

theorem digitValue_toUInt8 (digit : character.isDigit = true) :
    digitValue character.toUInt8 = character.toNat - '0'.toNat := by
  have bounds := Text.toNat_of_isDigit digit
  unfold digitValue
  rw [toNat_toUInt8_of_ascii (by omega)]
  rfl

theorem isDigitByte_toUInt8 (digit : character.isDigit = true) :
    isDigitByte character.toUInt8 = true := by
  have bounds := Text.toNat_of_isDigit digit
  have same := toNat_toUInt8_of_ascii (show character.toNat < 0x80 by omega)
  have least : (byteOf '0').toNat = 0x30 := by decide
  have greatest : (byteOf '9').toNat = 0x39 := by decide
  simp only [isDigitByte, Bool.and_eq_true, decide_eq_true_eq, UInt8.le_iff_toNat_le, least,
    greatest, same]
  exact bounds

theorem isDigitByte_of_mem_numeral {byte : UInt8} (member : byte ∈ numeral value) :
    isDigitByte byte = true := by
  obtain ⟨character, digit, rfl⟩ := List.mem_map.mp member
  exact isDigitByte_toUInt8 (Text.isDigit_of_mem_naturalText digit)

theorem takeDigits_of_digits {limit value : Nat} {text : List Char}
    (digits : ∀ character ∈ text, character.isDigit = true)
    (small : Nat.ofDigitChars 10 text value ≤ limit) :
    takeDigits limit value (text.map Char.toUInt8) =
      (Nat.ofDigitChars 10 text value, text.length) := by
  induction text generalizing value with
  | nil => rfl
  | cons character text ih =>
    obtain ⟨here, later⟩ := List.forall_mem_cons.mp digits
    rw [Nat.ofDigitChars_cons, Nat.mul_comm] at small ⊢
    have least := Text.le_ofDigitChars text (value * 10 + (character.toNat - '0'.toNat))
    simp only [List.map_cons, takeDigits, digitValue_toUInt8 here,
      if_pos (Nat.le_trans least small), ih later small, List.length_cons]

theorem takeDigits_numeral {limit : Nat} (small : value ≤ limit) :
    takeDigits limit 0 (numeral value) = (value, (numeral value).length) := by
  have value_eq : Nat.ofDigitChars 10 (Text.naturalText value) 0 = value :=
    Nat.ofDigitChars_toDigits (by decide) (by decide)
  unfold numeral
  rw [takeDigits_of_digits (fun _ => Text.isDigit_of_mem_naturalText) (by rwa [value_eq]),
    value_eq, List.length_map]

theorem ofDigitChars_le_of_takeDigits {limit value : Nat} {text : List Char}
    (digits : ∀ character ∈ text, character.isDigit = true) (small : value ≤ limit)
    (whole : text.length ≤ (takeDigits limit value (text.map Char.toUInt8)).2) :
    Nat.ofDigitChars 10 text value ≤ limit := by
  induction text generalizing value with
  | nil => exact small
  | cons character text ih =>
    obtain ⟨here, later⟩ := List.forall_mem_cons.mp digits
    simp only [List.map_cons, takeDigits, digitValue_toUInt8 here, List.length_cons] at whole
    rw [Nat.ofDigitChars_cons, Nat.mul_comm]
    split at whole
    next fits => exact ih later fits (Nat.le_of_succ_le_succ whole)
    next => exact absurd whole (Nat.not_succ_le_zero _)

theorem takeDigits_lt_of_large {limit : Nat} (large : limit < value) :
    (takeDigits limit 0 (numeral value)).2 < (numeral value).length := by
  have value_eq : Nat.ofDigitChars 10 (Text.naturalText value) 0 = value :=
    Nat.ofDigitChars_toDigits (by decide) (by decide)
  by_contra whole
  have within : Nat.ofDigitChars 10 (Text.naturalText value) 0 ≤ limit := by
    refine ofDigitChars_le_of_takeDigits (fun _ => Text.isDigit_of_mem_naturalText)
      (Nat.zero_le limit) ?_
    rw [numeral, List.length_map] at whole
    exact Nat.le_of_not_lt whole
  omega

theorem numeral_cases (value : Nat) :
    (value = 0 ∧ numeral value = [byteOf '0']) ∨
      ∃ first others, numeral value = first :: others ∧ isDigitByte first = true ∧
        first ≠ byteOf '0' := by
  rcases Nat.eq_zero_or_pos value with zero | positive
  · subst zero
    exact .inl ⟨rfl, by decide⟩
  · right
    have no_zero := Text.head?_naturalText_ne_zero positive
    cases shown : Text.naturalText value with
    | nil => exact absurd shown (Text.naturalText_ne_nil value)
    | cons first others =>
      rw [shown] at no_zero
      have member : first ∈ Text.naturalText value := shown ▸ List.mem_cons_self
      have digit : first.isDigit = true := Text.isDigit_of_mem_naturalText member
      have bounds := Text.toNat_of_isDigit digit
      refine ⟨first.toUInt8, others.map Char.toUInt8, by rw [numeral, shown, List.map_cons],
        isDigitByte_toUInt8 digit, fun equal => no_zero ?_⟩
      have same := congrArg UInt8.toNat equal
      rw [toNat_toUInt8_of_ascii (by omega)] at same
      exact congrArg some (Char.toNat_inj.mp same)

theorem span_numeral (value : Nat) (ends : EndsValue rest) :
    (numeral value ++ rest).span isDigitByte = (numeral value, rest) := by
  have digits : ∀ byte ∈ numeral value, isDigitByte byte = true :=
    fun _ => isDigitByte_of_mem_numeral
  rw [List.span_eq_takeWhile_dropWhile, List.takeWhile_append_of_pos digits,
    List.dropWhile_append_of_pos digits]
  cases rest with
  | nil => simp
  | cons byte rest =>
    have no_digit := (endsNumber_of_endsValue ends).no_digit
    rw [List.takeWhile_cons_of_neg (by simp [no_digit]),
      List.dropWhile_cons_of_neg (by simp [no_digit]), List.append_nil]

theorem finishWhole_of_end (digits : List UInt8) (ends : EndsValue rest) :
    readNumber.finishWhole false digits rest =
      readNumber.finishPlain false (takeDigits Text.wordLimit 0 digits).1
        (digits.length - (takeDigits Text.wordLimit 0 digits).2) rest := by
  unfold readNumber.finishWhole
  cases rest with
  | nil => rfl
  | cons byte rest =>
    obtain ⟨-, no_point, no_power⟩ := endsNumber_of_endsValue ends
    simp only [if_neg no_point, if_neg no_power]

theorem readNumber_eq_finishPlain (value : Nat) (ends : EndsValue rest) :
    readNumber false (numeral value ++ rest) =
      readNumber.finishPlain false (takeDigits Text.wordLimit 0 (numeral value)).1
        ((numeral value).length - (takeDigits Text.wordLimit 0 (numeral value)).2) rest := by
  have finished := finishWhole_of_end (numeral value) ends
  rcases numeral_cases value with ⟨-, zero⟩ | ⟨first, others, shown, digit, no_zero⟩
  · rw [zero] at finished ⊢
    have digit : isDigitByte (byteOf '0') = true := by decide
    simp only [List.singleton_append, readNumber, digit, Bool.not_true, Bool.false_eq_true,
      if_false, if_true]
    cases rest with
    | nil => exact finished
    | cons byte rest =>
      have no_digit := (endsNumber_of_endsValue ends).no_digit
      simp only [no_digit, Bool.and_false, Bool.false_eq_true, if_false]
      exact finished
  · have span := span_numeral value ends
    rw [shown] at span finished ⊢
    simp only [List.cons_append, readNumber, digit, Bool.not_true, Bool.false_eq_true, if_false,
      if_neg no_zero]
    rw [← List.cons_append, span]
    have apart : (decide (first = byteOf '0')) = false := decide_eq_false no_zero
    cases rest with
    | nil => exact finished
    | cons byte rest =>
      simp only [apart, Bool.false_and, Bool.false_eq_true, if_false]
      exact finished

theorem readNumber_numeral (small : value ≤ Text.wordLimit) (ends : EndsValue rest) :
    readNumber false (numeral value ++ rest) = .ok (.natural value, rest) := by
  rw [readNumber_eq_finishPlain value ends, takeDigits_numeral small, Nat.sub_self]
  rfl

theorem readNumber_of_large (large : Text.wordLimit < value) (ends : EndsValue rest) :
    (∃ real, readNumber false (numeral value ++ rest) = .ok (.real real, rest)) ∨
      ∃ fault, readNumber false (numeral value ++ rest) = .error fault := by
  have digits_left := takeDigits_lt_of_large large
  rw [readNumber_eq_finishPlain value ends, readNumber.finishPlain, if_pos (by omega), finishReal]
  split
  next real _ => exact .inl ⟨_, rfl⟩
  next => exact .inr ⟨_, rfl⟩

end

end StylesheetRunner.Json
