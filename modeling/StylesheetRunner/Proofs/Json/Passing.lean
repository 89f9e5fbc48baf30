import StylesheetRunner.Proofs.Json.Grammar

/-!
Texts and numbers that nobody asks for. They are passed over up to exactly their end, and nothing
else is passed over as one.
-/

namespace StylesheetRunner.Json

open Text.Utf8

/-! Texts are passed over up to the closing quote. -/

section Texts
variable {inside bytes rest : List UInt8}

theorem skipTextFrom_plain_cons (byte : UInt8) (bytes : List UInt8) :
    skipTextFrom .plain (byte :: bytes) =
      if byte = byteOf '"' then .ok bytes
      else if byte = byteOf '\\' then skipTextFrom .afterBackslash bytes
      else if byte.toNat < 0x20 then .error (.before .controlCharacter (byte :: bytes))
      else skipTextFrom .plain bytes := by
  rw [skipTextFrom]
  · nofun
  · nofun

theorem skipText_passable (passable : PassableText inside) (rest : List UInt8) :
    skipText (inside ++ byteOf '"' :: rest) = .ok rest := by
  unfold skipText
  induction passable with
  | nil =>
    rw [List.nil_append, skipTextFrom_plain_cons, if_pos rfl]
  | @plain byte inside stands later ih =>
    obtain ⟨no_quote, no_backslash, shown⟩ := stands
    rw [List.cons_append, skipTextFrom_plain_cons, if_neg no_quote, if_neg no_backslash,
      if_neg (Nat.not_lt.mpr shown), ih]
  | @letter byte inside known later ih =>
    obtain ⟨character, meaning⟩ := Option.isSome_iff_exists.mp known
    rw [List.cons_append, List.cons_append, skipTextFrom_plain_cons, if_neg (by decide), if_pos rfl,
      skipTextFrom, if_neg (ne_number_of_meaning meaning), if_pos known, ih]
  | @number a b c d inside digits later ih =>
    obtain ⟨first, second, third, fourth⟩ : (hexDigit? a).isSome ∧ (hexDigit? b).isSome ∧
        (hexDigit? c).isSome ∧ (hexDigit? d).isSome := by simpa using digits
    simp only [List.cons_append]
    rw [skipTextFrom_plain_cons, if_neg (by decide), if_pos rfl, skipTextFrom, if_pos rfl]
    simp only [skipTextFrom, first, second, third, fourth, Bool.and_self, Nat.zero_add,
      Nat.reduceAdd, Nat.reduceLT, if_true, if_false]
    exact ih

/-- Behind a backslash stands a letter with a meaning, or the letter of a number and four digits. -/
theorem exists_of_skipTextFrom_afterBackslash
    (skipped : skipTextFrom .afterBackslash bytes = .ok rest) :
    (∃ byte after, bytes = byte :: after ∧ (simpleEscape? byte).isSome = true ∧
      skipTextFrom .plain after = .ok rest) ∨
    ∃ a b c d after, bytes = byteOf 'u' :: a :: b :: c :: d :: after ∧
      (∀ digit ∈ [a, b, c, d], (hexDigit? digit).isSome = true) ∧
      skipTextFrom .plain after = .ok rest := by
  cases bytes with
  | nil => cases skipped
  | cons byte after =>
    rw [skipTextFrom] at skipped
    split at skipped
    next is_number =>
      right
      subst is_number
      rcases after with _ | ⟨a, _ | ⟨b, _ | ⟨c, _ | ⟨d, after⟩⟩⟩⟩
      · cases skipped
      · cases skipped
      · cases skipped
      · cases skipped
      · simp only [skipTextFrom, Nat.zero_add, Nat.reduceAdd, Nat.reduceLT, if_true, if_false,
          Bool.true_and] at skipped
        split at skipped
        next digits =>
          refine ⟨a, b, c, d, after, rfl, ?_, skipped⟩
          simpa [and_assoc] using digits
        next => cases skipped
    next =>
      split at skipped
      next known => exact .inl ⟨byte, after, rfl, known, skipped⟩
      next => cases skipped

theorem exists_of_skipText (skipped : skipText bytes = .ok rest) :
    ∃ inside, PassableText inside ∧ bytes = inside ++ byteOf '"' :: rest := by
  unfold skipText at skipped
  -- By induction on the length, since an escape takes several bytes.
  induction length : bytes.length using Nat.strong_induction_on generalizing bytes with
  | _ length ih =>
    cases bytes with
    | nil => cases skipped
    | cons byte after =>
      rw [List.length_cons] at length
      rw [skipTextFrom_plain_cons] at skipped
      split at skipped
      next quote =>
        cases skipped
        exact ⟨[], .nil, quote ▸ rfl⟩
      next no_quote =>
        split at skipped
        next backslash =>
          subst backslash
          rcases exists_of_skipTextFrom_afterBackslash skipped with
            ⟨letter, tail, rfl, known, skipped⟩ | ⟨a, b, c, d, tail, rfl, digits, skipped⟩
          · simp only [List.length_cons] at length
            obtain ⟨inside, passable, rfl⟩ := ih _ (by omega) skipped rfl
            exact ⟨_, .letter known passable, rfl⟩
          · simp only [List.length_cons] at length
            obtain ⟨inside, passable, rfl⟩ := ih _ (by omega) skipped rfl
            exact ⟨_, .number digits passable, rfl⟩
        next no_backslash =>
          split at skipped
          next => cases skipped
          next shown =>
            obtain ⟨inside, passable, rfl⟩ := ih _ (by omega) skipped rfl
            exact ⟨_, .plain ⟨no_quote, no_backslash, Nat.not_lt.mp shown⟩ passable, rfl⟩

end Texts

/-! Numbers are passed over up to a byte with which they do not go on. -/

section Numbers
variable {whole decimals power digits bytes rest : List UInt8}

theorem dropWhile_digits (all : ∀ byte ∈ digits, isDigitByte byte = true)
    (stops : ∀ byte, rest.head? = some byte → isDigitByte byte = false) :
    (digits ++ rest).dropWhile isDigitByte = rest := by
  rw [List.dropWhile_append_of_pos all]
  cases rest with
  | nil => rfl
  | cons byte rest => rw [List.dropWhile_cons_of_neg (by simp [stops byte rfl])]

theorem EndsValue.stops (ends : EndsValue rest) (byte : UInt8) (front : rest.head? = some byte) :
    isDigitByte byte = false := by
  cases rest with
  | nil => cases front
  | cons first rest =>
    obtain rfl := Option.some.inj front
    exact (endsNumber_of_endsValue ends).no_digit

theorem skipExponent_digits {sign : List UInt8} (signed : sign ∈ [[], [byteOf '+'], [byteOf '-']])
    (some_digits : IsDigits digits) (ends : EndsValue rest) :
    skipExponent (sign ++ (digits ++ rest)) = .ok rest := by
  obtain ⟨nonempty, all⟩ := some_digits
  obtain ⟨first, others, rfl⟩ := List.exists_cons_of_ne_nil nonempty
  have digit := all first List.mem_cons_self
  have behind : (others ++ rest).dropWhile isDigitByte = rest :=
    dropWhile_digits (fun byte member => all byte (List.mem_cons_of_mem _ member)) ends.stops
  have no_plus := ne_of_isDigitByte digit (by decide : isDigitByte (byteOf '+') = false)
  have no_minus := ne_of_isDigitByte digit (by decide : isDigitByte (byteOf '-') = false)
  simp only [List.mem_cons, List.not_mem_nil, or_false] at signed
  rcases signed with rfl | rfl | rfl
  all_goals simp [skipExponent, digit, no_plus, no_minus, behind]

theorem skipPower_isPower (is_power : IsPower power) (ends : EndsValue rest) :
    skipPower (power ++ rest) = .ok rest := by
  cases is_power with
  | none =>
    cases rest with
    | nil => rfl
    | cons byte rest =>
      simp only [List.nil_append, skipPower, if_neg (endsNumber_of_endsValue ends).no_power]
  | power e signed some_digits =>
    rw [List.cons_append, List.append_assoc]
    simp only [skipPower, if_pos e, skipExponent_digits signed some_digits ends]

theorem skipDecimals_isDecimals (is_decimals : IsDecimals decimals) (is_power : IsPower power)
    (ends : EndsValue rest) : skipDecimals (decimals ++ (power ++ rest)) = .ok rest := by
  cases is_decimals with
  | none =>
    have skipped := skipPower_isPower is_power ends
    rw [List.nil_append]
    cases is_power with
    | none =>
      cases rest with
      | nil => rfl
      | cons byte rest =>
        simp only [List.nil_append] at skipped ⊢
        simp only [skipDecimals, if_neg (endsNumber_of_endsValue ends).no_point, skipped]
    | @power letter _ _ e signed some_digits =>
      have no_point : letter ≠ byteOf '.' := by
        rcases e with rfl | rfl
        all_goals decide
      simp only [List.cons_append] at skipped ⊢
      simp only [skipDecimals, if_neg no_point, skipped]
  | @point digits some_digits =>
    obtain ⟨nonempty, all⟩ := some_digits
    have stops : ∀ byte, (power ++ rest).head? = some byte → isDigitByte byte = false := by
      cases is_power with
      | none => exact ends.stops
      | power e _ _ =>
        rintro byte front
        obtain rfl := Option.some.inj front
        rcases e with rfl | rfl
        all_goals decide
    have behind : (digits ++ (power ++ rest)).dropWhile isDigitByte = power ++ rest :=
      dropWhile_digits all stops
    obtain ⟨first, others, rfl⟩ := List.exists_cons_of_ne_nil nonempty
    have digit := all first List.mem_cons_self
    simp only [List.cons_append] at behind ⊢
    simp only [skipDecimals, if_true, digit, behind, skipPower_isPower is_power ends]

theorem head?_of_isDecimals (is_decimals : IsDecimals decimals) (is_power : IsPower power)
    (ends : EndsValue rest) (byte : UInt8)
    (front : (decimals ++ (power ++ rest)).head? = some byte) : isDigitByte byte = false := by
  cases is_decimals with
  | point _ =>
    obtain rfl := Option.some.inj front
    decide
  | none =>
    cases is_power with
    | none => exact ends.stops byte front
    | power e _ _ =>
      obtain rfl := Option.some.inj front
      rcases e with rfl | rfl
      all_goals decide

theorem skipNumber_isNumber (is_number : IsNumber bytes) (ends : EndsValue rest) :
    skipNumber (bytes ++ rest) = .ok rest := by
  obtain ⟨is_whole, is_decimals, is_power⟩ := is_number
  rename_i whole decimals power
  have skipped := skipDecimals_isDecimals is_decimals is_power ends
  have stops := head?_of_isDecimals is_decimals is_power ends
  rw [List.append_assoc, List.append_assoc]
  generalize decimals ++ (power ++ rest) = behind at skipped stops
  cases is_whole with
  | zero =>
    have digit : isDigitByte (byteOf '0') = true := by decide
    cases behind with
    | nil =>
      obtain rfl := Except.ok.inj skipped
      rfl
    | cons next behind =>
      simp only [List.singleton_append, skipNumber, digit, Bool.not_true, Bool.false_eq_true,
        if_false, if_true, stops next rfl, skipped]
  | @other first others digit no_zero digits =>
    simp only [List.cons_append, skipNumber, digit, Bool.not_true, Bool.false_eq_true, if_false,
      if_neg no_zero, dropWhile_digits digits stops, skipped]

theorem exists_of_dropWhile_digits (bytes : List UInt8) :
    ∃ digits, (∀ byte ∈ digits, isDigitByte byte = true) ∧
      bytes = digits ++ bytes.dropWhile isDigitByte :=
  ⟨bytes.takeWhile isDigitByte, fun _ => List.mem_takeWhile_imp,
    List.takeWhile_append_dropWhile.symm⟩

theorem exists_of_first_digit {first : UInt8} {others : List UInt8} {fault : Fault}
    (skipped : (if isDigitByte first then .ok (others.dropWhile isDigitByte) else .error fault) =
      Except.ok rest) : ∃ digits, IsDigits digits ∧ first :: others = digits ++ rest := by
  split at skipped
  next digit =>
    obtain ⟨digits, all, split⟩ := exists_of_dropWhile_digits others
    rw [Except.ok.inj skipped] at split
    refine ⟨first :: digits, ⟨List.cons_ne_nil _ _, ?_⟩, by rw [split]; rfl⟩
    exact List.forall_mem_cons.mpr ⟨digit, all⟩
  next => cases skipped

theorem exists_of_skipExponent (skipped : skipExponent bytes = .ok rest) :
    ∃ sign digits, sign ∈ [[], [byteOf '+'], [byteOf '-']] ∧ IsDigits digits ∧
      bytes = sign ++ (digits ++ rest) := by
  cases bytes with
  | nil => cases skipped
  | cons byte after =>
    by_cases signed : byte = byteOf '+' ∨ byte = byteOf '-'
    · simp only [skipExponent, if_pos signed] at skipped
      cases after with
      | nil => cases skipped
      | cons first others =>
        obtain ⟨digits, some_digits, split⟩ := exists_of_first_digit skipped
        refine ⟨[byte], digits, ?_, some_digits, by rw [split]; rfl⟩
        rcases signed with rfl | rfl
        all_goals simp
    · simp only [skipExponent, if_neg signed] at skipped
      obtain ⟨digits, some_digits, split⟩ := exists_of_first_digit skipped
      exact ⟨[], digits, by simp, some_digits, split⟩

theorem exists_of_skipPower (skipped : skipPower bytes = .ok rest) :
    ∃ power, IsPower power ∧ bytes = power ++ rest := by
  cases bytes with
  | nil =>
    cases skipped
    exact ⟨[], .none, rfl⟩
  | cons byte after =>
    simp only [skipPower] at skipped
    split at skipped
    next e =>
      obtain ⟨sign, digits, signed, some_digits, rfl⟩ := exists_of_skipExponent skipped
      exact ⟨_, .power e signed some_digits, by simp⟩
    next =>
      cases skipped
      exact ⟨[], .none, rfl⟩

theorem exists_of_skipDecimals (skipped : skipDecimals bytes = .ok rest) :
    ∃ decimals power, IsDecimals decimals ∧ IsPower power ∧
      bytes = decimals ++ (power ++ rest) := by
  cases bytes with
  | nil =>
    cases skipped
    exact ⟨[], [], .none, .none, rfl⟩
  | cons byte after =>
    simp only [skipDecimals] at skipped
    split at skipped
    next point =>
      subst point
      cases after with
      | nil => cases skipped
      | cons next others =>
        dsimp only at skipped
        split at skipped
        next digit =>
          obtain ⟨power, is_power, behind⟩ := exists_of_skipPower skipped
          obtain ⟨digits, some_digits, split⟩ := @exists_of_first_digit
            (power ++ rest) next others (.before .invalidNumber []) (by
              rw [List.dropWhile_cons_of_pos digit] at behind
              rw [if_pos digit, behind])
          exact ⟨_, power, .point some_digits, is_power, by rw [split]; rfl⟩
        next => cases skipped
    next =>
      obtain ⟨power, is_power, split⟩ := exists_of_skipPower skipped
      exact ⟨[], power, .none, is_power, split⟩

theorem exists_of_skipNumber (skipped : skipNumber bytes = .ok rest) :
    ∃ number, IsNumber number ∧ bytes = number ++ rest := by
  have behind {whole tail : List UInt8} (is_whole : IsWhole whole)
      (skipped : skipDecimals tail = .ok rest) :
      ∃ number, IsNumber number ∧ whole ++ tail = number ++ rest := by
    obtain ⟨decimals, power, is_decimals, is_power, rfl⟩ := exists_of_skipDecimals skipped
    exact ⟨_, .number is_whole is_decimals is_power, by simp⟩
  cases bytes with
  | nil => cases skipped
  | cons first others =>
    simp only [skipNumber] at skipped
    split at skipped
    next => cases skipped
    next digit =>
      split at skipped
      next zero =>
        subst zero
        have tail : skipDecimals others = .ok rest := by
          cases others with
          | nil => exact skipped
          | cons next others =>
            dsimp only at skipped
            split at skipped
            next => cases skipped
            next => exact skipped
        exact behind .zero tail
      next no_zero =>
        obtain ⟨digits, all, split⟩ := exists_of_dropWhile_digits others
        obtain ⟨number, is_number, same⟩ :=
          behind (.other (by simpa using digit) no_zero all) skipped
        exact ⟨number, is_number, by rw [← same, List.cons_append, ← split]⟩

end Numbers

end StylesheetRunner.Json
