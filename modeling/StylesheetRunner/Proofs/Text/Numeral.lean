import StylesheetRunner.Text.Numeral

/-!
Decimal numerals: which texts are read as which numbers, and that the numerals that numbers are
written as are among them.
-/

namespace StylesheetRunner.Text

theorem digit?_of_isDigit {character : Char} (digit : character.isDigit = true) :
    digit? character = some (character.toNat - '0'.toNat) := by
  rw [Char.isDigit, Bool.and_eq_true, decide_eq_true_iff, decide_eq_true_iff] at digit
  exact if_pos digit

theorem le_ofDigitChars (text : List Char) (value : Nat) :
    value ≤ Nat.ofDigitChars 10 text value := by
  induction text generalizing value with
  | nil => exact Nat.le_refl _
  | cons character rest ih =>
    rw [Nat.ofDigitChars_cons]
    have more := ih (10 * value + (character.toNat - '0'.toNat))
    omega

/-- Digits are read as their value when it is within the limit, as then are the values of all
beginnings. -/
theorem readDigits_of_digits {limit value : Nat} {excess : NumeralFault} {text : List Char}
    (digits : ∀ character ∈ text, character.isDigit = true)
    (small : Nat.ofDigitChars 10 text value ≤ limit) :
    readDigits limit excess value text = .ok (Nat.ofDigitChars 10 text value) := by
  induction text generalizing value with
  | nil => rfl
  | cons character rest ih =>
    rw [List.forall_mem_cons] at digits
    rw [Nat.ofDigitChars_cons, Nat.mul_comm] at small ⊢
    have least := le_ofDigitChars rest (value * 10 + (character.toNat - '0'.toNat))
    simp only [readDigits, digit?_of_isDigit digits.1, if_pos (Nat.le_trans least small)]
    exact ih digits.2 small

theorem naturalText_ne_nil (value : Nat) : naturalText value ≠ [] :=
  Nat.toDigits_ne_nil

theorem isDigit_of_mem_naturalText {value : Nat} {character : Char}
    (member : character ∈ naturalText value) : character.isDigit = true :=
  Nat.isDigit_of_mem_toDigits (by decide) (by decide) member

theorem head?_naturalText_ne_zero {value : Nat} (positive : 0 < value) :
    (naturalText value).head? ≠ some '0' := by
  unfold naturalText
  induction value using Nat.strongRecOn with
  | _ value ih =>
    by_cases small : value < 10
    · rw [Nat.toDigits_of_lt_base small]
      have digits : ∀ value < 10, 0 < value → Nat.digitChar value ≠ '0' := by decide
      simpa using digits value small positive
    · have upper := ih (value / 10) (by omega) (by omega)
      rw [Nat.toDigits_of_base_le (by decide) (Nat.le_of_not_lt small)]
      cases shown : Nat.toDigits 10 (value / 10) with
      | nil => exact absurd shown Nat.toDigits_ne_nil
      | cons first others => simpa [shown] using upper

theorem toNat_of_isDigit {character : Char} (digit : character.isDigit = true) :
    0x30 ≤ character.toNat ∧ character.toNat ≤ 0x39 := by
  rw [Char.isDigit, Bool.and_eq_true, decide_eq_true_iff, decide_eq_true_iff] at digit
  exact digit

theorem readNatural_naturalText {value limit : Nat} (small : value ≤ limit) :
    readNatural limit (naturalText value) = .ok value := by
  have value_eq : Nat.ofDigitChars 10 (naturalText value) 0 = value :=
    Nat.ofDigitChars_toDigits (by decide) (by decide)
  have read : readDigits limit .tooLarge 0 (naturalText value) = .ok value := by
    rw [readDigits_of_digits (fun _ => isDigit_of_mem_naturalText) (by rwa [value_eq]), value_eq]
  have plain : '+' ∉ naturalText value := fun member =>
    absurd (isDigit_of_mem_naturalText member) (by decide)
  unfold readNatural
  split
  next none => exact absurd none (naturalText_ne_nil value)
  next sign => exact absurd (sign ▸ List.mem_cons_self) plain
  next _ sign => exact absurd (sign ▸ List.mem_cons_self) plain
  next => exact read

/-- The decimal numerals of a number: digits, of which there is one at least, and perhaps a plus
sign in front. Zeros may lead. -/
inductive IsNumeral : List Char → Nat → Prop
  | plain {digits : List Char} (some_digit : digits ≠ [])
      (decimal : ∀ character ∈ digits, character.isDigit = true) :
      IsNumeral digits (Nat.ofDigitChars 10 digits 0)
  | signed {digits : List Char} (some_digit : digits ≠ [])
      (decimal : ∀ character ∈ digits, character.isDigit = true) :
      IsNumeral ('+' :: digits) (Nat.ofDigitChars 10 digits 0)

theorem isDigit_of_digit? {character : Char} {digit : Nat} (found : digit? character = some digit) :
    character.isDigit = true ∧ digit = character.toNat - '0'.toNat := by
  unfold digit? at found
  split at found
  next range =>
    refine ⟨?_, (Option.some.inj found).symm⟩
    rw [Char.isDigit, Bool.and_eq_true, decide_eq_true_iff, decide_eq_true_iff]
    exact range
  next => cases found

theorem digits_of_readDigits {limit start value : Nat} {excess : NumeralFault} {text : List Char}
    (small : start ≤ limit) (read : readDigits limit excess start text = .ok value) :
    (∀ character ∈ text, character.isDigit = true) ∧
      value = Nat.ofDigitChars 10 text start ∧ value ≤ limit := by
  induction text generalizing start with
  | nil =>
    cases read
    exact ⟨nofun, rfl, small⟩
  | cons character rest ih =>
    rw [readDigits] at read
    split at read
    next => cases read
    next digit found =>
      split at read
      next fits =>
        obtain ⟨is_digit, rfl⟩ := isDigit_of_digit? found
        obtain ⟨digits, value_eq, within⟩ := ih fits read
        rw [Nat.ofDigitChars_cons, Nat.mul_comm]
        exact ⟨List.forall_mem_cons.mpr ⟨is_digit, digits⟩, value_eq, within⟩
      next => cases read

theorem readNatural_eq_ok_iff {limit value : Nat} {text : List Char} :
    readNatural limit text = .ok value ↔ IsNumeral text value ∧ value ≤ limit := by
  constructor
  · intro read
    unfold readNatural at read
    split at read
    next => cases read
    next => cases read
    next digits no_sign =>
      obtain ⟨decimal, rfl, within⟩ := digits_of_readDigits (Nat.zero_le limit) read
      have some_digit : digits ≠ [] := no_sign
      exact ⟨.signed some_digit decimal, within⟩
    next some_digit _ _ =>
      obtain ⟨decimal, rfl, within⟩ := digits_of_readDigits (Nat.zero_le limit) read
      exact ⟨.plain some_digit decimal, within⟩
  · rintro ⟨numeral, within⟩
    cases numeral with
    | plain some_digit decimal =>
      have no_plus : '+' ∉ text := fun member => absurd (decimal '+' member) (by decide)
      unfold readNatural
      split
      next => exact absurd rfl some_digit
      next => exact absurd List.mem_cons_self no_plus
      next => exact absurd List.mem_cons_self no_plus
      next => exact readDigits_of_digits decimal within
    | @signed digits some_digit decimal =>
      cases digits with
      | nil => exact absurd rfl some_digit
      | cons first others => exact readDigits_of_digits decimal within

theorem IsNumeral.unique {text : List Char} {first second : Nat} (numeral : IsNumeral text first)
    (numeral_second : IsNumeral text second) : first = second := by
  have read := readNatural_eq_ok_iff.mpr ⟨numeral, Nat.le_max_left first second⟩
  rw [readNatural_eq_ok_iff.mpr ⟨numeral_second, Nat.le_max_right first second⟩] at read
  exact (Except.ok.inj read).symm

theorem isNumeral_naturalText (value : Nat) : IsNumeral (naturalText value) value :=
  (readNatural_eq_ok_iff.mp (readNatural_naturalText (Nat.le_refl value))).1

end StylesheetRunner.Text
