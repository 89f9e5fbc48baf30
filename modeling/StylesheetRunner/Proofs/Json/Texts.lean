import StylesheetRunner.Json.Printer
import StylesheetRunner.Json.Scan
import StylesheetRunner.Proofs.Text.Decoding

/-!
Written texts are read back. A character is written as itself, by a letter behind a backslash, by
its number, or by a pair of numbers; whichever it is, the reader goes on behind it and holds the
character. Nothing else is read as a text.
-/

namespace StylesheetRunner.Json

open Text.Utf8

def StandsInText (byte : UInt8) : Prop :=
  byte ≠ byteOf '"' ∧ byte ≠ byteOf '\\' ∧ 0x20 ≤ byte.toNat

structure IsHexDigit (digit : Char) (value : Nat) : Prop where
  ascii : digit.toNat < 0x80
  meaning : hexDigit? digit.toUInt8 = some value

inductive FourDigits : List Char → Nat → Prop
  | digits {a b c d : Char} {p q r s : Nat} (first : IsHexDigit a p) (second : IsHexDigit b q)
      (third : IsHexDigit c r) (fourth : IsHexDigit d s) :
      FourDigits [a, b, c, d] (((p * 16 + q) * 16 + r) * 16 + s)

inductive WrittenAs (character : Char) : List Char → Prop
  | itself (stands : ∀ byte ∈ encodeCharacter character, StandsInText byte) :
      WrittenAs character [character]
  | letter {letter : Char} (ascii : letter.toNat < 0x80)
      (meaning : simpleEscape? letter.toUInt8 = some character) :
      WrittenAs character ['\\', letter]
  | number {digits : List Char} (four : FourDigits digits character.toNat) :
      WrittenAs character ('\\' :: 'u' :: digits)
  | pair {digits digits' : List Char} {lead tail : Nat} (four : FourDigits digits lead)
      (four' : FourDigits digits' tail) (leads : 0xD800 ≤ lead ∧ lead ≤ 0xDBFF)
      (trails : 0xDC00 ≤ tail ∧ tail ≤ 0xDFFF)
      (whole : 0x10000 + (lead - 0xD800) * 0x400 + (tail - 0xDC00) = character.toNat) :
      WrittenAs character ('\\' :: 'u' :: (digits ++ '\\' :: 'u' :: digits'))

inductive SpelledAs : List Char → List Char → Prop
  | nil : SpelledAs [] []
  | cons {character : Char} {form text forms : List Char} (here : WrittenAs character form)
      (later : SpelledAs text forms) : SpelledAs (character :: text) (form ++ forms)

theorem standsInText_of_mem_encodeCharacter {character : Char} (no_quote : character ≠ '"')
    (no_backslash : character ≠ '\\') (shown : 0x20 ≤ character.toNat) {byte : UInt8}
    (member : byte ∈ encodeCharacter character) : StandsInText byte := by
  by_cases ascii : character.toNat < 0x80
  · rw [encodeCharacter_of_ascii ascii, List.mem_singleton] at member
    subst member
    have same := toNat_toUInt8_of_ascii ascii
    have distinct {other : Char} (ascii_other : other.toNat < 0x80) (ne : character ≠ other) :
        character.toUInt8 ≠ other.toUInt8 := by
      intro equal
      apply ne
      apply Char.toNat_inj.mp
      rw [← same, ← toNat_toUInt8_of_ascii ascii_other, equal]
    exact ⟨distinct (by decide) no_quote, distinct (by decide) no_backslash, same ▸ shown⟩
  · have wide := le_toNat_of_mem_encodeCharacter (by omega) member
    refine ⟨?_, ?_, by omega⟩
    · rintro rfl
      exact absurd wide (by decide)
    · rintro rfl
      exact absurd wide (by decide)

def lettered : List Char := ['"', '\\', '\x08', '\x0c', '\n', '\r', '\t']

theorem isHexDigit_digitChar {value : Nat} (small : value < 16) :
    IsHexDigit (Nat.digitChar value) value := by
  have all : ∀ value < 16, (Nat.digitChar value).toNat < 0x80 ∧
      hexDigit? (Nat.digitChar value).toUInt8 = some value := by decide
  obtain ⟨ascii, meaning⟩ := all value small
  exact ⟨ascii, meaning⟩

theorem isHexDigit_zero : IsHexDigit '0' 0 := ⟨by decide, by decide⟩

theorem writtenAs_escapeCharacter (character : Char) :
    WrittenAs character (escapeCharacter character) := by
  by_cases by_letter : character ∈ lettered
  · simp only [lettered, List.mem_cons, List.not_mem_nil, or_false] at by_letter
    rcases by_letter with rfl | rfl | rfl | rfl | rfl | rfl | rfl
    all_goals exact .letter (by decide) (by decide)
  · simp only [lettered, List.mem_cons, List.not_mem_nil, or_false, not_or] at by_letter
    unfold escapeCharacter
    simp only [by_letter, if_false]
    split
    next control =>
      have four := FourDigits.digits isHexDigit_zero isHexDigit_zero
        (isHexDigit_digitChar (by omega : character.toNat / 16 < 16))
        (isHexDigit_digitChar (by omega : character.toNat % 16 < 16))
      have whole : ((0 * 16 + 0) * 16 + character.toNat / 16) * 16 + character.toNat % 16 =
          character.toNat := by omega
      rw [whole] at four
      exact .number four
    next shown =>
      exact .itself fun _ =>
        standsInText_of_mem_encodeCharacter by_letter.1 by_letter.2.1 (Nat.le_of_not_lt shown)

/-! Reading a text. The bytes since the last escape are those of whole characters. -/

section Reading

variable {settled pending : List Char} {rest : List UInt8}

theorem settle_encode (settled pending : List Char) (rest : List UInt8) :
    TextDraft.settle ⟨settled, (encode pending).reverse⟩ rest =
      .ok (pending.reverse ++ settled) := by
  simp only [TextDraft.settle, List.reverse_reverse, decode?_encode]

theorem readTextFrom_of_standing {bytes : List UInt8} (settled : List Char) (chunk : List UInt8)
    (standing : ∀ byte ∈ bytes, StandsInText byte) (rest : List UInt8) :
    readTextFrom .plain ⟨settled, chunk⟩ (bytes ++ rest) =
      readTextFrom .plain ⟨settled, bytes.reverse ++ chunk⟩ rest := by
  induction bytes generalizing chunk with
  | nil => rfl
  | cons byte bytes ih =>
    obtain ⟨⟨no_quote, no_backslash, shown⟩, later⟩ := List.forall_mem_cons.mp standing
    have no_control : ¬ byte.toNat < 0x20 := Nat.not_lt.mpr shown
    rw [List.cons_append, readTextFrom]
    simp only [if_neg no_quote, if_neg no_backslash, if_neg no_control]
    rw [ih (byte :: chunk) later, List.reverse_cons, List.append_assoc, List.singleton_append]

theorem readTextFrom_backslash (settled pending : List Char) (rest : List UInt8) :
    readTextFrom .plain ⟨settled, (encode pending).reverse⟩ (byteOf '\\' :: rest) =
      readTextFrom .afterBackslash ⟨pending.reverse ++ settled, []⟩ rest := by
  rw [readTextFrom]
  simp only [if_neg (show byteOf '\\' ≠ byteOf '"' by decide), if_true, settle_encode]

theorem ne_number_of_meaning {byte : UInt8} {character : Char}
    (meaning : simpleEscape? byte = some character) : byte ≠ byteOf 'u' := by
  rintro rfl
  rw [show simpleEscape? (byteOf 'u') = none by decide] at meaning
  cases meaning

theorem readTextFrom_four {digits : List Char} {value : Nat} (four : FourDigits digits value)
    (lead : Option Nat) (settled : List Char) (rest : List UInt8) :
    readTextFrom (.inHex lead 0 0 true) ⟨settled, []⟩ (encode digits ++ rest) =
      match finishHex settled lead value rest with
      | .ok (stage, draft) => readTextFrom stage draft rest
      | .error fault => .error fault := by
  cases four with
  | digits first second third fourth =>
    rw [encode_cons_of_ascii first.ascii, encode_cons_of_ascii second.ascii,
      encode_cons_of_ascii third.ascii, encode_cons_of_ascii fourth.ascii]
    simp only [List.cons_append]
    simp only [readTextFrom, first.meaning, second.meaning, third.meaning, fourth.meaning,
      Option.isSome_some, Option.getD_some, Bool.and_self, Nat.zero_mul, Nat.zero_add,
      Nat.reduceAdd, Nat.reduceLT, if_true, if_false, Bool.not_true, Bool.false_eq_true]
    rfl

theorem readTextFrom_number {character : Char} {digits : List Char}
    (four : FourDigits digits character.toNat) (settled : List Char) (rest : List UInt8) :
    readTextFrom (.inHex none 0 0 true) ⟨settled, []⟩ (encode digits ++ rest) =
      readTextFrom .plain ⟨character :: settled, []⟩ rest := by
  have valid : character.toNat < 0xD800 ∨ 0xDFFF < character.toNat :=
    character.valid.imp id And.left
  have no_second : ¬ (0xDC00 ≤ character.toNat ∧ character.toNat ≤ 0xDFFF) := by omega
  have no_first : ¬ (0xD800 ≤ character.toNat ∧ character.toNat ≤ 0xDBFF) := by omega
  rw [readTextFrom_four four]
  simp only [finishHex, if_neg no_second, if_neg no_first, Char.ofNat_toNat]

/-- Behind a written character the reader holds it, settled or in the bytes since the last
escape. -/
theorem readTextFrom_character {character : Char} {form : List Char}
    (written : WrittenAs character form) (settled pending : List Char) (rest : List UInt8) :
    ∃ settled' pending', settled'.reverse ++ pending' =
        settled.reverse ++ pending ++ [character] ∧
      readTextFrom .plain ⟨settled, (encode pending).reverse⟩ (encode form ++ rest) =
        readTextFrom .plain ⟨settled', (encode pending').reverse⟩ rest := by
  cases written with
  | itself stands =>
    refine ⟨settled, pending ++ [character], by rw [List.append_assoc], ?_⟩
    rw [encode_append, List.reverse_append]
    rw [encode_singleton, readTextFrom_of_standing settled _ stands]
  | @letter letter ascii meaning =>
    refine ⟨character :: (pending.reverse ++ settled), [], by simp, ?_⟩
    rw [encode_cons_of_ascii (by decide), encode_cons_of_ascii ascii]
    simp only [List.cons_append]
    rw [readTextFrom_backslash, readTextFrom]
    simp only [if_neg (ne_number_of_meaning meaning), meaning]
    rfl
  | number four =>
    refine ⟨character :: (pending.reverse ++ settled), [], by simp, ?_⟩
    rw [encode_cons_of_ascii (by decide), encode_cons_of_ascii (by decide)]
    simp only [List.cons_append]
    rw [readTextFrom_backslash, readTextFrom]
    simp only [if_true]
    exact readTextFrom_number four _ rest
  | @pair digits digits' lead tail four four' leads trails whole =>
    refine ⟨character :: (pending.reverse ++ settled), [], by simp, ?_⟩
    have no_second : ¬ (0xDC00 ≤ lead ∧ lead ≤ 0xDFFF) := by omega
    rw [encode_cons_of_ascii (by decide), encode_cons_of_ascii (by decide), encode_append,
      encode_cons_of_ascii (by decide), encode_cons_of_ascii (by decide)]
    simp only [List.cons_append, List.append_assoc]
    rw [readTextFrom_backslash, readTextFrom]
    simp only [if_true]
    rw [readTextFrom_four four]
    simp only [finishHex, if_neg no_second, if_pos leads]
    rw [readTextFrom]
    simp only [if_true]
    rw [readTextFrom]
    simp only [if_true]
    rw [readTextFrom_four four']
    simp only [finishHex, if_pos trails, whole, Char.ofNat_toNat]
    rfl

theorem readTextFrom_spelled {text forms : List Char} (spelled : SpelledAs text forms)
    (settled pending : List Char) (rest : List UInt8) :
    readTextFrom .plain ⟨settled, (encode pending).reverse⟩
        (encode forms ++ byteOf '"' :: rest) =
      .ok (settled.reverse ++ pending ++ text, rest) := by
  induction spelled generalizing settled pending with
  | nil =>
    change readTextFrom .plain _ (byteOf '"' :: rest) = _
    rw [readTextFrom]
    simp only [if_true, settle_encode, List.reverse_append, List.reverse_reverse, List.append_nil]
  | @cons character form text forms here later ih =>
    obtain ⟨settled', pending', same, read⟩ :=
      readTextFrom_character here settled pending (encode forms ++ byteOf '"' :: rest)
    rw [encode_append, List.append_assoc, read, ih, same]
    simp only [List.append_assoc, List.singleton_append]

end Reading

theorem spelledAs_escapeCharacter (text : List Char) :
    SpelledAs text (text.flatMap escapeCharacter) := by
  induction text with
  | nil => exact .nil
  | cons character text ih => exact .cons (writtenAs_escapeCharacter character) ih

theorem encode_quoted (forms : List Char) (rest : List UInt8) :
    encode ('"' :: forms ++ ['"']) ++ rest =
      byteOf '"' :: (encode forms ++ byteOf '"' :: rest) := by
  rw [encode_append, encode_cons_of_ascii (by decide), List.append_assoc]
  rfl

theorem readText_spelled {text : String} {forms : List Char}
    (spelled : SpelledAs text.toList forms) (rest : List UInt8) :
    readText (encode forms ++ byteOf '"' :: rest) = .ok (text, rest) := by
  have read := readTextFrom_spelled spelled [] [] rest
  unfold readText
  rw [show (⟨[], []⟩ : TextDraft) = ⟨[], (encode []).reverse⟩ from rfl, read]
  simp only [List.reverse_nil, List.nil_append, String.ofList_toList]

/-! Nothing else is read as a text. -/

section Found

variable {bytes rest : List UInt8} {settled text : List Char} {chunk : List UInt8}

theorem exists_of_small_byte {byte : UInt8} (small : byte.toNat < 0x80) :
    ∃ character : Char, character.toNat < 0x80 ∧ character.toUInt8 = byte := by
  have same := toNat_ofNat_of_valid (.inl (by omega) : byte.toNat < 0xD800 ∨ _)
  have ascii : (Char.ofNat byte.toNat).toNat < 0x80 := same.symm ▸ small
  have encoded := encodeCharacter_one small
  rw [encodeCharacter_of_ascii ascii] at encoded
  exact ⟨_, ascii, (List.cons.inj encoded).1⟩

theorem small_of_hexDigit {byte : UInt8} {value : Nat} (digit : hexDigit? byte = some value) :
    byte.toNat < 0x80 ∧ value < 16 := by
  unfold hexDigit? at digit
  dsimp only at digit
  split at digit
  next => simp only [Option.some.injEq] at digit; omega
  next =>
    split at digit
    next => simp only [Option.some.injEq] at digit; omega
    next =>
      split at digit
      next => simp only [Option.some.injEq] at digit; omega
      next => cases digit

theorem exists_isHexDigit {byte : UInt8} {value : Nat} (digit : hexDigit? byte = some value) :
    ∃ character, IsHexDigit character value ∧ character.toUInt8 = byte := by
  obtain ⟨character, ascii, rfl⟩ := exists_of_small_byte (small_of_hexDigit digit).1
  exact ⟨character, ⟨ascii, digit⟩, rfl⟩

theorem IsHexDigit.lt {digit : Char} {value : Nat} (is_digit : IsHexDigit digit value) :
    value < 16 :=
  (small_of_hexDigit is_digit.meaning).2

theorem FourDigits.lt {digits : List Char} {value : Nat} (four : FourDigits digits value) :
    value < 0x10000 := by
  cases four with
  | digits first second third fourth =>
    have := first.lt
    have := second.lt
    have := third.lt
    have := fourth.lt
    omega

theorem small_of_simpleEscape {byte : UInt8} {character : Char}
    (meaning : simpleEscape? byte = some character) : byte.toNat < 0x80 := by
  unfold simpleEscape? at meaning
  iterate 8
    split at meaning
    next same =>
      subst same
      decide
  cases meaning

theorem exists_of_readTextFrom_inHex {lead : Option Nat} {read : List Char × List UInt8}
    (found : readTextFrom (.inHex lead 0 0 true) ⟨settled, chunk⟩ bytes = .ok read) :
    ∃ digits value after stage draft, FourDigits digits value ∧ bytes = encode digits ++ after ∧
      finishHex settled lead value after = .ok (stage, draft) ∧
      readTextFrom stage draft after = .ok read := by
  rcases bytes with _ | ⟨a, _ | ⟨b, _ | ⟨c, _ | ⟨d, after⟩⟩⟩⟩
  · cases found
  · cases found
  · cases found
  · cases found
  · simp only [readTextFrom, Nat.zero_mul, Nat.zero_add, Nat.reduceAdd, Nat.reduceLT, if_true,
      if_false, Bool.true_and] at found
    split at found
    next => cases found
    next well_formed =>
      simp only [Bool.not_eq_true', Bool.not_eq_false, Bool.and_eq_true,
        Option.isSome_iff_exists] at well_formed
      obtain ⟨⟨⟨⟨p, first⟩, q, second⟩, r, third⟩, s, fourth⟩ := well_formed
      obtain ⟨a, is_first, rfl⟩ := exists_isHexDigit first
      obtain ⟨b, is_second, rfl⟩ := exists_isHexDigit second
      obtain ⟨c, is_third, rfl⟩ := exists_isHexDigit third
      obtain ⟨d, is_fourth, rfl⟩ := exists_isHexDigit fourth
      simp only [first, second, third, fourth, Option.getD_some] at found
      split at found
      next stage draft finished =>
        refine ⟨_, _, after, stage, draft, .digits is_first is_second is_third is_fourth, ?_,
          finished, found⟩
        rw [encode_cons_of_ascii is_first.ascii, encode_cons_of_ascii is_second.ascii,
          encode_cons_of_ascii is_third.ascii, encode_cons_of_ascii is_fourth.ascii]
        rfl
      next => cases found

theorem exists_of_readTextFrom_afterLead {lead : Nat} {read : List Char × List UInt8}
    (found : readTextFrom (.afterLead lead) ⟨settled, chunk⟩ bytes = .ok read) :
    ∃ digits tail after, FourDigits digits tail ∧ 0xDC00 ≤ tail ∧ tail ≤ 0xDFFF ∧
      bytes = encode ('\\' :: 'u' :: digits) ++ after ∧
      readTextFrom .plain
        ⟨Char.ofNat (0x10000 + (lead - 0xD800) * 0x400 + (tail - 0xDC00)) :: settled, []⟩ after =
        .ok read := by
  rcases bytes with _ | ⟨backslash, _ | ⟨letter, bytes⟩⟩
  · cases found
  · rw [readTextFrom] at found
    split at found
    all_goals cases found
  · rw [readTextFrom] at found
    split at found
    next is_backslash =>
      rw [readTextFrom] at found
      split at found
      next is_letter =>
        obtain ⟨digits, tail, after, stage, draft, four, rfl, finished, found⟩ :=
          exists_of_readTextFrom_inHex found
        unfold finishHex at finished
        dsimp only at finished
        split at finished
        next trails =>
          cases finished
          refine ⟨digits, tail, after, four, trails.1, trails.2, ?_, found⟩
          rw [encode_cons_of_ascii (by decide), encode_cons_of_ascii (by decide), is_backslash,
            is_letter]
          rfl
        next => cases finished
      next => cases found
    next => cases found

theorem exists_of_readTextFrom_afterBackslash {read : List Char × List UInt8}
    (found : readTextFrom .afterBackslash ⟨settled, []⟩ bytes = .ok read) :
    ∃ character form after, WrittenAs character form ∧
      byteOf '\\' :: bytes = encode form ++ after ∧ after.length < bytes.length ∧
      readTextFrom .plain ⟨character :: settled, []⟩ after = .ok read := by
  cases bytes with
  | nil => cases found
  | cons byte bytes =>
    rw [readTextFrom] at found
    split at found
    next is_letter =>
      subst is_letter
      obtain ⟨digits, value, after, stage, draft, four, rfl, finished, found⟩ :=
        exists_of_readTextFrom_inHex found
      have small := four.lt
      unfold finishHex at finished
      dsimp only at finished
      split at finished
      next => cases finished
      next no_second =>
        split at finished
        next leads =>
          cases finished
          obtain ⟨digits', tail, after, four', least, greatest, rfl, behind⟩ :=
            exists_of_readTextFrom_afterLead found
          have whole := toNat_ofNat_of_valid
            (.inr (by omega) : 0x10000 + (value - 0xD800) * 0x400 + (tail - 0xDC00) < 0xD800 ∨ _)
          refine ⟨_, _, after, .pair four four' leads ⟨least, greatest⟩ whole.symm, ?_, ?_, behind⟩
          · simp only [encode_cons_of_ascii (show ('\\' : Char).toNat < 0x80 by decide),
              encode_cons_of_ascii (show ('u' : Char).toNat < 0x80 by decide), encode_append,
              List.cons_append, List.append_assoc]
          · simp only [List.length_cons, List.length_append]
            omega
        next no_first =>
          cases finished
          have whole := toNat_ofNat_of_valid (by omega : value < 0xD800 ∨ _)
          refine ⟨_, _, after, .number (whole.symm ▸ four), ?_, ?_, found⟩
          · rw [encode_cons_of_ascii (by decide), encode_cons_of_ascii (by decide)]
            rfl
          · simp only [List.length_cons, List.length_append]
            omega
    next =>
      split at found
      next character meaning =>
        obtain ⟨letter, ascii, rfl⟩ := exists_of_small_byte (small_of_simpleEscape meaning)
        refine ⟨character, _, bytes, .letter ascii meaning, ?_, Nat.lt_succ_self _, found⟩
        rw [encode_cons_of_ascii (by decide), encode_cons_of_ascii ascii]
        rfl
      next => cases found

theorem spelledAs_standing (standing : ∀ byte ∈ encode text, StandsInText byte) :
    SpelledAs text text := by
  induction text with
  | nil => exact .nil
  | cons character text ih =>
    rw [encode_cons] at standing
    have here : WrittenAs character [character] :=
      .itself fun byte member => standing byte (List.mem_append_left _ member)
    exact .cons here (ih fun byte member => standing byte (List.mem_append_right _ member))

theorem SpelledAs.append {first first' second second' : List Char}
    (spelled : SpelledAs first first') (later : SpelledAs second second') :
    SpelledAs (first ++ second) (first' ++ second') := by
  induction spelled with
  | nil => exact later
  | cons here _ ih =>
    rw [List.cons_append, List.append_assoc]
    exact .cons here ih

theorem exists_of_settle {fault_rest : List UInt8} {settled' : List Char}
    (standing : ∀ byte ∈ chunk, StandsInText byte)
    (done : TextDraft.settle ⟨settled, chunk⟩ fault_rest = .ok settled') :
    ∃ own, chunk.reverse = encode own ∧ SpelledAs own own ∧ settled' = own.reverse ++ settled := by
  unfold TextDraft.settle at done
  split at done
  next own decoded =>
    obtain encoded := decode?_eq_some_iff.mp decoded
    refine ⟨own, encoded, spelledAs_standing fun byte member => ?_, (Except.ok.inj done).symm⟩
    rw [← encoded] at member
    exact standing byte (List.mem_reverse.mp member)
  next => cases done

theorem exists_of_readTextFrom (standing : ∀ byte ∈ chunk, StandsInText byte)
    (found : readTextFrom .plain ⟨settled, chunk⟩ bytes = .ok (text, rest)) :
    ∃ own forms, SpelledAs own forms ∧ text = settled.reverse ++ own ∧
      chunk.reverse ++ bytes = encode forms ++ byteOf '"' :: rest := by
  -- By induction on the length, since an escape takes several bytes.
  induction length : bytes.length using Nat.strongRecOn generalizing bytes settled chunk with
  | ind length ih =>
    cases bytes with
    | nil => cases found
    | cons byte bytes =>
      rw [List.length_cons] at length
      rw [readTextFrom] at found
      split at found
      next quote =>
        split at found
        next settled' done =>
          cases found
          obtain ⟨own, encoded, spelled, rfl⟩ := exists_of_settle standing done
          exact ⟨own, own, spelled, by simp, by rw [encoded, quote]⟩
        next => cases found
      next no_quote =>
        split at found
        next backslash =>
          split at found
          next settled' done =>
            obtain ⟨own, encoded, spelled, rfl⟩ := exists_of_settle standing done
            obtain ⟨character, form, after, written, split, shorter, found⟩ :=
              exists_of_readTextFrom_afterBackslash found
            obtain ⟨later, forms, spelled_later, rfl, same⟩ :=
              ih _ (by omega) (List.forall_mem_nil _) found rfl
            refine ⟨own ++ character :: later, own ++ (form ++ forms),
              spelled.append (.cons written spelled_later), by simp, ?_⟩
            rw [List.reverse_nil, List.nil_append] at same
            rw [encoded, backslash, split, same, encode_append, encode_append]
            simp only [List.append_assoc]
          next => cases found
        next no_backslash =>
          split at found
          next => cases found
          next shown =>
            have standing' : ∀ other ∈ byte :: chunk, StandsInText other :=
              List.forall_mem_cons.mpr ⟨⟨no_quote, no_backslash, Nat.not_lt.mp shown⟩, standing⟩
            obtain ⟨own, forms, spelled, same, split⟩ := ih _ (by omega) standing' found rfl
            refine ⟨own, forms, spelled, same, ?_⟩
            rw [← split, List.reverse_cons, List.append_assoc]
            rfl

theorem exists_of_readText {text : String} (found : readText bytes = .ok (text, rest)) :
    ∃ forms, SpelledAs text.toList forms ∧ bytes = encode forms ++ byteOf '"' :: rest := by
  unfold readText at found
  split at found
  next characters after read =>
    cases found
    obtain ⟨own, forms, spelled, rfl, split⟩ := exists_of_readTextFrom (List.forall_mem_nil _) read
    refine ⟨forms, ?_, split⟩
    rwa [String.toList_ofList]
  next => cases found

end Found

end StylesheetRunner.Json
