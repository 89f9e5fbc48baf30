import StylesheetRunner.Failure
import StylesheetRunner.Proofs.Text.Lines

/-!
What quoting makes of a text. Each character is told from the front of its quoted form, whatever
stands behind, so a text is told from its quoted form; and a quoted text stays on one line, without
controls. Both go over to what is said about a rejected parameter, whose name may hold anything.
-/

namespace StylesheetRunner.Text

def IsControl (character : Char) : Prop :=
  character.toNat < 0x20 ∨ (0x7F ≤ character.toNat ∧ character.toNat < 0xA0)

/-- Ends a line for some reader: the line feed, the vertical tab, the form feed, the carriage
return, the next line, and the separators of lines and paragraphs. -/
def EndsLine (character : Char) : Prop :=
  (0xA ≤ character.toNat ∧ character.toNat ≤ 0xD) ∨ character.toNat = 0x85 ∨
    character.toNat = 0x2028 ∨ character.toNat = 0x2029

instance (character : Char) : Decidable (IsControl character) :=
  inferInstanceAs (Decidable (_ ∨ _))

instance (character : Char) : Decidable (EndsLine character) :=
  inferInstanceAs (Decidable (_ ∨ _))

def StaysOnLine (text : List Char) : Prop :=
  ∀ character ∈ text, ¬ IsControl character ∧ ¬ EndsLine character

instance (text : List Char) : Decidable (StaysOnLine text) :=
  List.decidableBAll (fun character => ¬ IsControl character ∧ ¬ EndsLine character) text

theorem staysOnLine_append {first second : List Char} :
    StaysOnLine (first ++ second) ↔ StaysOnLine first ∧ StaysOnLine second :=
  List.forall_mem_append

/-! Hexadecimal numerals. -/

def hexDigits : List Char := "0123456789abcdef".toList

def hexNumber (digits : List Char) : Nat :=
  digits.foldl (fun value digit => value * 16 + hexDigits.idxOf digit) 0

theorem digitChar_of_lt {value : Nat} (small : value < 16) :
    Nat.digitChar value ∈ hexDigits ∧ hexDigits.idxOf (Nat.digitChar value) = value := by
  have all : ∀ value < 16,
      Nat.digitChar value ∈ hexDigits ∧ hexDigits.idxOf (Nat.digitChar value) = value := by decide
  exact all value small

theorem hexNumber_concat (digits : List Char) (last : Char) :
    hexNumber (digits ++ [last]) = hexNumber digits * 16 + hexDigits.idxOf last := by
  simp only [hexNumber, List.foldl_append, List.foldl_cons, List.foldl_nil]

theorem hexNumber_toDigits (value : Nat) : hexNumber (Nat.toDigits 16 value) = value := by
  induction value using Nat.strongRecOn with
  | _ value ih =>
    by_cases small : value < 16
    · have single := (digitChar_of_lt small).2
      rwa [Nat.toDigits_of_lt_base small, hexNumber, List.foldl_cons, List.foldl_nil, Nat.zero_mul,
        Nat.zero_add]
    · have last := (digitChar_of_lt (Nat.mod_lt value (by decide : 0 < 16))).2
      rw [Nat.toDigits_of_base_le (by decide) (Nat.le_of_not_lt small), hexNumber_concat,
        ih (value / 16) (by omega), last]
      omega

theorem mem_hexDigits_of_mem_toDigits {value : Nat} {digit : Char}
    (member : digit ∈ Nat.toDigits 16 value) : digit ∈ hexDigits := by
  induction value using Nat.strongRecOn with
  | _ value ih =>
    by_cases small : value < 16
    · rw [Nat.toDigits_of_lt_base small, List.mem_singleton] at member
      exact member ▸ (digitChar_of_lt small).1
    · rw [Nat.toDigits_of_base_le (by decide) (Nat.le_of_not_lt small), List.mem_append,
        List.mem_singleton] at member
      rcases member with upper | rfl
      · exact ih (value / 16) (by omega) upper
      · exact (digitChar_of_lt (Nat.mod_lt value (by decide))).1

/-! Reading a quoted text. -/

def letterMeanings : List (Char × Char) :=
  [('0', '\x00'), ('t', '\t'), ('r', '\r'), ('n', '\n'), ('"', '"'), ('\\', '\\')]

def letterMeaning? (letter : Char) : Option Char :=
  letterMeanings.lookup letter

def readQuoted? : List Char → Option (Char × List Char)
  | '\\' :: 'u' :: '{' :: rest =>
    (splitAtFirst? '}' rest).map fun parts => (Char.ofNat (hexNumber parts.1), parts.2)
  | '\\' :: letter :: rest => (letterMeaning? letter).map fun character => (character, rest)
  | character :: rest => some (character, rest)
  | [] => none

/-- The forms in which characters are quoted: a letter behind a backslash, the number, or the
character itself. -/
inductive QuotedAs (character : Char) : List Char → Prop
  | letter {letter : Char} (meaning : letterMeaning? letter = some character) :
      QuotedAs character ['\\', letter]
  | number : QuotedAs character ('\\' :: 'u' :: '{' :: Nat.toDigits 16 character.toNat ++ ['}'])
  | itself (no_backslash : character ≠ '\\') (printed : isUnprinted character = false) :
      QuotedAs character [character]

theorem quotedAs_quoteCharacter (character : Char) :
    QuotedAs character (quoteCharacter character) := by
  unfold quoteCharacter
  -- The characters with a letter of their own come first, the backslash last among them.
  iterate 5
    split
    next same => subst same; exact .letter rfl
  split
  next same => subst same; exact .letter rfl
  next no_backslash =>
    split
    next => exact .number
    next printed => exact .itself no_backslash (by simpa using printed)

theorem readQuoted?_of_quotedAs {character : Char} {form : List Char}
    (shown : QuotedAs character form) (rest : List Char) :
    readQuoted? (form ++ rest) = some (character, rest) := by
  cases shown with
  | @letter letter meaning =>
    have no_number : letter ≠ 'u' := by
      rintro rfl
      cases meaning
    simp [readQuoted?, no_number, meaning]
  | number =>
    have no_brace : '}' ∉ Nat.toDigits 16 character.toNat := fun member =>
      absurd (mem_hexDigits_of_mem_toDigits member) (by decide)
    have parted : splitAtFirst? '}' (Nat.toDigits 16 character.toNat ++ '}' :: rest) =
        some (Nat.toDigits 16 character.toNat, rest) :=
      splitAtFirst?_eq_some_iff.mpr ⟨rfl, no_brace⟩
    simp [readQuoted?, parted, hexNumber_toDigits]
  | itself no_backslash printed => simp [readQuoted?, no_backslash]

theorem readQuoted?_flatMap (character : Char) (text : List Char) :
    readQuoted? ((character :: text).flatMap quoteCharacter) =
      some (character, text.flatMap quoteCharacter) :=
  readQuoted?_of_quotedAs (quotedAs_quoteCharacter character) _

theorem flatMap_quoteCharacter_injective :
    Function.Injective (List.flatMap quoteCharacter) := by
  intro first second same
  induction first generalizing second with
  | nil =>
    cases second with
    | nil => rfl
    | cons character rest => cases same ▸ readQuoted?_flatMap character rest
  | cons character rest ih =>
    have read := readQuoted?_flatMap character rest
    rw [same] at read
    cases second with
    | nil => cases read
    | cons other others =>
      rw [readQuoted?_flatMap] at read
      obtain ⟨rfl, behind⟩ := Prod.mk.inj (Option.some.inj read)
      rw [ih behind.symm]

theorem quoted_injective : Function.Injective quoted := by
  intro first second same
  have forms := List.append_cancel_right (List.cons.inj (String.ofList_inj.mp same)).2
  exact String.toList_inj.mp (flatMap_quoteCharacter_injective forms)

/-! What a quoted text shows. -/

theorem isUnprinted_of_isControl {character : Char} (control : IsControl character) :
    isUnprinted character = true := by
  rcases control with low | ⟨lower, upper⟩
  · simp [isUnprinted, low]
  · simp [isUnprinted, lower, upper]

theorem isUnprinted_of_endsLine {character : Char} (ends : EndsLine character) :
    isUnprinted character = true := by
  have separators : isUnprintedAbove 0x2028 = true ∧ isUnprintedAbove 0x2029 = true := by
    unfold isUnprintedAbove
    rw [← Array.any_toList, ← Array.any_toList]
    decide +kernel
  rcases ends with ⟨-, upper⟩ | next | line | paragraph
  · exact isUnprinted_of_isControl (.inl (Nat.lt_of_le_of_lt upper (by decide)))
  · exact isUnprinted_of_isControl (.inr (next ▸ by decide))
  · simp [isUnprinted, line, separators.1]
  · simp [isUnprinted, paragraph, separators.2]

theorem staysOnLine_hexDigits : StaysOnLine hexDigits := by decide

theorem staysOnLine_letter {letter character : Char}
    (meaning : letterMeaning? letter = some character) : StaysOnLine ['\\', letter] := by
  have all : ∀ pair ∈ letterMeanings, StaysOnLine ['\\', pair.1] := by decide
  obtain ⟨before, behind, listed, -⟩ := List.lookup_eq_some_iff.mp meaning
  exact all (letter, character) (listed ▸ List.mem_append_right before List.mem_cons_self)

theorem staysOnLine_of_quotedAs {character : Char} {form : List Char}
    (shown : QuotedAs character form) : StaysOnLine form := by
  cases shown with
  | letter meaning => exact staysOnLine_letter meaning
  | number =>
    have opening : StaysOnLine ['\\', 'u', '{'] := by decide
    have digits : StaysOnLine (Nat.toDigits 16 character.toNat) := fun digit member =>
      staysOnLine_hexDigits digit (mem_hexDigits_of_mem_toDigits member)
    have closing : StaysOnLine ['}'] := by decide
    exact staysOnLine_append.mpr ⟨staysOnLine_append.mpr ⟨opening, digits⟩, closing⟩
  | itself no_backslash printed =>
    intro other member
    rw [List.mem_singleton.mp member]
    refine ⟨fun control => ?_, fun ends => ?_⟩
    · rw [isUnprinted_of_isControl control] at printed
      cases printed
    · rw [isUnprinted_of_endsLine ends] at printed
      cases printed

theorem staysOnLine_quoted (text : String) : StaysOnLine (quoted text).toList := by
  have mark : StaysOnLine ['"'] := by decide
  have forms : StaysOnLine (text.toList.flatMap quoteCharacter) := by
    intro character member
    obtain ⟨shown, -, inside⟩ := List.mem_flatMap.mp member
    exact staysOnLine_of_quotedAs (quotedAs_quoteCharacter shown) character inside
  rw [quoted, String.toList_ofList]
  exact staysOnLine_append.mpr ⟨staysOnLine_append.mpr ⟨mark, forms⟩, mark⟩

end StylesheetRunner.Text

namespace StylesheetRunner.Failure

/-- Words around a quoted text stay on the line with it and leave it told from others. -/
theorem words_around_quoted (front back : String) (front_stays : Text.StaysOnLine front.toList)
    (back_stays : Text.StaysOnLine back.toList) :
    (∀ name, Text.StaysOnLine (front ++ Text.quoted name ++ back).toList) ∧
      Function.Injective fun name => front ++ Text.quoted name ++ back := by
  refine ⟨fun name => ?_, fun first second same => ?_⟩
  · rw [String.toList_append, String.toList_append]
    exact Text.staysOnLine_append.mpr
      ⟨Text.staysOnLine_append.mpr ⟨front_stays, Text.staysOnLine_quoted name⟩, back_stays⟩
  · exact Text.quoted_injective
      ((String.append_right_inj _).mp ((String.append_left_inj _).mp same))

/-- **A rejected name is quoted safely.** Whatever the name of a rejected parameter holds, both
messages about it stay on one line, without controls, and different names have different
messages. -/
theorem rejected_names_are_quoted :
    (∀ name, Text.StaysOnLine (invalidParameter name).message.toList ∧
      Text.StaysOnLine (invalidParameter name).publicMessage.toList) ∧
    (Function.Injective fun name => (invalidParameter name).message) ∧
    (Function.Injective fun name => (invalidParameter name).publicMessage) := by
  obtain ⟨full_stays, full_injective⟩ :=
    words_around_quoted "parameter " " contains a line break" (by decide) (by decide)
  obtain ⟨public_stays, public_injective⟩ :=
    words_around_quoted "invalid parameter "
      ": names and inline values cannot contain line breaks" (by decide) (by decide)
  exact ⟨fun name => ⟨full_stays name, public_stays name⟩, full_injective, public_injective⟩

example : (invalidParameter "\"a\\\n\x1b").message =
    "parameter \"\\\"a\\\\\\n\\u\x7b1b\x7d\" contains a line break" := by
  decide

end StylesheetRunner.Failure
