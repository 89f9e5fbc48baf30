import StylesheetRunner.Json.Reader
import StylesheetRunner.Proofs.Json.Skipping
import StylesheetRunner.Proofs.Json.SpelledForms
import StylesheetRunner.Proofs.TextMap

/-!
What typed readers make of bytes. A reader accepts some bytes as some data when it reads them so
wherever they stand and stops at their end; it reads a form when it accepts the bytes of that form
and nothing else. Texts, flags, optional texts and maps are read so. A reader takes a value when it
accepts all bytes of the value, however it is spelled.
-/

namespace StylesheetRunner.Json

open Text.Utf8

section Notions
variable {α : Type}

def Reader.Accepts (reader : Reader α) (bytes : List UInt8) (data : α) : Prop :=
  ∀ ⦃gap rest : List UInt8⦄, IsBlank gap → EndsValue rest →
    reader (gap ++ (bytes ++ rest)) = .ok (data, rest)

structure Reader.Reads (reader : Reader α) (form : Form α) : Prop where
  opens : ∀ ⦃bytes data⦄, form bytes data → Opened bytes
  accepts : ∀ ⦃bytes data⦄, form bytes data → reader.Accepts bytes data
  only : ∀ ⦃bytes data rest⦄, reader bytes = .ok (data, rest) →
    ∃ gap own, IsBlank gap ∧ form own data ∧ bytes = gap ++ (own ++ rest)

/-- The reader reads the texts of a value as some data, whatever stands around them. -/
def Reader.Takes (reader : Reader α) (value : Value) (data : α) : Prop :=
  ∀ ⦃bytes⦄, Form.spelled bytes value → reader.Accepts bytes data

theorem passable_of_form {value : Value} {bytes : List UInt8} (spelled : Form.spelled bytes value) :
    Passable bytes := by
  obtain ⟨text, spelled, rfl⟩ := spelled
  exact passable_of_spelled value spelled

end Notions

section Simple
variable {α : Type} {reader : Reader α} {form : Form α} {gap bytes rest : List UInt8} {byte : UInt8}

theorem readByFirst_of_shown {choose : UInt8 → List UInt8 → Scan α} (blank : IsBlank gap)
    (shown : isBlankByte byte = false) (bytes : List UInt8) :
    readByFirst choose (gap ++ byte :: bytes) = choose byte bytes := by
  simp only [readByFirst, skipBlanks_shown blank shown]

theorem exists_of_readByFirst {choose : UInt8 → List UInt8 → Scan α} {read : α × List UInt8}
    (found : readByFirst choose bytes = .ok read) :
    ∃ gap byte rest, IsBlank gap ∧ bytes = gap ++ byte :: rest ∧ choose byte rest = .ok read := by
  unfold readByFirst at found
  split at found
  next => cases found
  next byte rest front =>
    obtain ⟨gap, blank, rfl⟩ := exists_isBlank_of_skipBlanks front
    exact ⟨gap, byte, rest, blank, rfl, found⟩

theorem opened_text {text : String} (form : Form.text bytes text) :
    ∃ others, bytes = byteOf '"' :: others := by
  obtain ⟨_, ⟨_⟩, rfl⟩ := form
  exact ⟨_, encode_enclosed (by decide) (by decide) _⟩

theorem reads_string : readString.Reads .text where
  opens bytes text form := by
    obtain ⟨others, rfl⟩ := opened_text form
    exact ⟨_, others, rfl, by decide, by decide⟩
  accepts := by
    rintro _ text ⟨_, ⟨spelled⟩, rfl⟩ gap rest blank -
    unfold readString
    rw [encode_quoted, readByFirst_of_shown blank (by decide), if_pos rfl, readText_spelled spelled]
  only := by
    intro bytes text rest read
    obtain ⟨gap, byte, after, blank, rfl, chosen⟩ := exists_of_readByFirst read
    split at chosen
    next quote =>
      obtain ⟨forms, spelled, rfl⟩ := exists_of_readText chosen
      refine ⟨gap, _, blank, ⟨_, .quoted spelled, rfl⟩, ?_⟩
      rw [encode_quoted, quote]
    next => cases chosen

theorem takes_string (characters : String) : readString.Takes (.text characters) characters := by
  rintro _ ⟨_, spelled, rfl⟩
  cases spelled with
  | text quoted => exact reads_string.accepts ⟨_, quoted, rfl⟩

theorem opened_boolean {flag : Bool} (form : Form.boolean bytes flag) : Opened bytes := by
  obtain rfl := form
  cases flag with
  | true => exact ⟨byteOf 't', _, rfl, by decide, by decide⟩
  | false => exact ⟨byteOf 'f', _, rfl, by decide, by decide⟩

theorem accepts_boolean (flag : Bool) :
    readBoolean.Accepts (encode (if flag then "true" else "false").toList) flag := by
  intro gap rest blank ends
  unfold readBoolean
  cases flag with
  | true =>
    have word := readWord_encode ['r', 'u', 'e'] (by decide) rest
    refine (readByFirst_of_shown blank (by decide : isBlankByte (byteOf 't') = false)
      (encode ['r', 'u', 'e'] ++ rest)).trans ?_
    simp only [if_true, word]
  | false =>
    have word := readWord_encode ['a', 'l', 's', 'e'] (by decide) rest
    refine (readByFirst_of_shown blank (by decide : isBlankByte (byteOf 'f') = false)
      (encode ['a', 'l', 's', 'e'] ++ rest)).trans ?_
    simp only [if_neg (show byteOf 'f' ≠ byteOf 't' by decide), if_true, word]

theorem eq_of_read_flag {word : List Char} {meant flag : Bool} {after : List UInt8}
    (ascii : word.all fun character => character.toNat < 0x80)
    (read : (match readWord word after with
      | .ok behind => .ok (meant, behind)
      | .error fault => .error fault) = Except.ok (flag, rest)) :
    meant = flag ∧ after = encode word ++ rest := by
  split at read
  next behind word_read =>
    cases read
    exact ⟨rfl, exists_of_readWord ascii word_read⟩
  next => cases read

theorem reads_boolean : readBoolean.Reads .boolean where
  opens _ _ form := opened_boolean form
  accepts := by
    rintro _ flag rfl
    exact accepts_boolean flag
  only := by
    intro bytes flag rest read
    obtain ⟨gap, byte, after, blank, rfl, chosen⟩ := exists_of_readByFirst read
    dsimp only at chosen
    split at chosen
    next is_true =>
      obtain ⟨rfl, rfl⟩ := eq_of_read_flag (by decide) chosen
      exact ⟨gap, _, blank, rfl, by rw [is_true]; rfl⟩
    next =>
      split at chosen
      next is_false =>
        obtain ⟨rfl, rfl⟩ := eq_of_read_flag (by decide) chosen
        exact ⟨gap, _, blank, rfl, by rw [is_false]; rfl⟩
      next => cases chosen

theorem takes_boolean (flag : Bool) : readBoolean.Takes (.boolean flag) flag := by
  rintro _ ⟨_, ⟨_⟩, rfl⟩
  exact accepts_boolean flag

theorem exists_numeral_eq_cons (size : Nat) :
    ∃ first others, numeral size = first :: others ∧ isDigitByte first = true :=
  (isNumber_numeral size).opens

theorem takes_word64 (name : String) (number : UInt64) :
    (readWord64 name).Takes (.natural number.toNat) number := by
  rintro _ ⟨_, ⟨_⟩, rfl⟩ gap rest blank ends
  have small : number.toNat ≤ Text.wordLimit := Nat.le_of_lt_succ number.toNat_lt
  have read := readNumber_numeral small ends
  obtain ⟨first, others, shown, digit⟩ := exists_numeral_eq_cons number.toNat
  change readWord64 name (gap ++ (encode (Text.naturalText number.toNat) ++ rest)) = _
  rw [encode_naturalText, shown, List.cons_append]
  rw [shown, List.cons_append] at read
  unfold readWord64
  rw [readByFirst_of_shown blank (opensValue_of_isDigitByte digit).shown]
  simp only [if_neg (ne_of_isDigitByte digit (by decide : isDigitByte (byteOf '-') = false)), digit,
    if_true, read, UInt64.ofNat_toNat]

/-- What an untyped reader keeps of a number: its value, if it is natural and exact. -/
def Untyped.ofNumber : Number → Untyped
  | .natural value => .natural value
  | _ => .other

theorem readUntyped_numeral_eq (size depth : Nat) (blank : IsBlank gap) (rest : List UInt8) :
    readUntyped (depth + 1) (gap ++ (numeral size ++ rest)) =
      (readNumber false (numeral size ++ rest)).map fun read => (.ofNumber read.1, read.2) := by
  obtain ⟨first, others, shown, digit⟩ := exists_numeral_eq_cons size
  rw [shown, List.cons_append, readUntyped,
    readByFirst_of_shown blank (opensValue_of_isDigitByte digit).shown]
  simp only [if_neg (ne_of_isDigitByte digit (by decide : isDigitByte (byteOf 'n') = false)),
    if_neg (ne_of_isDigitByte digit (by decide : isDigitByte (byteOf 't') = false)),
    if_neg (ne_of_isDigitByte digit (by decide : isDigitByte (byteOf 'f') = false)),
    if_neg (ne_of_isDigitByte digit (by decide : isDigitByte (byteOf '-') = false)), digit, if_true]
  cases readNumber false (first :: (others ++ rest)) with
  | error fault => rfl
  | ok read =>
    obtain ⟨number, after⟩ := read
    cases number <;> rfl

theorem readUntyped_numeral {size : Nat} (small : size ≤ Text.wordLimit) (depth : Nat)
    (blank : IsBlank gap) (ends : EndsValue rest) :
    readUntyped (depth + 1) (gap ++ (numeral size ++ rest)) = .ok (.natural size, rest) := by
  rw [readUntyped_numeral_eq size depth blank, readNumber_numeral small ends]
  rfl

/-- A number that is too large to be exact counts as a value of another kind, if it is read. -/
theorem readUntyped_of_large {size : Nat} (large : Text.wordLimit < size) (depth : Nat)
    (blank : IsBlank gap) (ends : EndsValue rest) :
    readUntyped (depth + 1) (gap ++ (numeral size ++ rest)) = .ok (.other, rest) ∨
      ∃ fault, readUntyped (depth + 1) (gap ++ (numeral size ++ rest)) = .error fault := by
  rw [readUntyped_numeral_eq size depth blank]
  rcases readNumber_of_large large ends with ⟨real, read⟩ | ⟨fault, read⟩
  · left
    rw [read]
    rfl
  · right
    rw [read]
    exact ⟨fault, rfl⟩

theorem readUntyped_text {characters : String} {quoted : List Char} (depth : Nat)
    (blank : IsBlank gap) (spelled : Quoted characters quoted) (rest : List UInt8) :
    readUntyped (depth + 1) (gap ++ (encode quoted ++ rest)) = .ok (.text characters, rest) := by
  obtain ⟨spelled⟩ := spelled
  rw [encode_quoted, readUntyped, readByFirst_of_shown blank (by decide)]
  simp only [if_neg (show byteOf '"' ≠ byteOf 'n' by decide),
    if_neg (show byteOf '"' ≠ byteOf 't' by decide),
    if_neg (show byteOf '"' ≠ byteOf 'f' by decide),
    if_neg (show byteOf '"' ≠ byteOf '-' by decide),
    if_neg (show ¬ isDigitByte (byteOf '"') = true by decide), if_true, readText_spelled spelled]

theorem accepts_present {data : α} (accepts : reader.Accepts (byte :: bytes) data)
    (shown : isBlankByte byte = false) (no_word : byte ≠ byteOf 'n') :
    (readOptional reader).Accepts (byte :: bytes) (some data) := by
  intro gap rest blank ends
  have read := accepts isBlank_nil ends
  rw [List.nil_append, List.cons_append] at read
  unfold readOptional
  rw [List.cons_append, skipBlanks_shown blank shown]
  simp only [if_neg no_word, read]

theorem accepts_absent : (readOptional reader).Accepts (encode "null".toList) none := by
  intro gap rest blank ends
  have word := readWord_encode ['u', 'l', 'l'] (by decide) rest
  have front : skipBlanks (gap ++ (encode "null".toList ++ rest)) =
      byteOf 'n' :: (encode ['u', 'l', 'l'] ++ rest) := skipBlanks_shown blank (by decide) _
  unfold readOptional
  rw [front]
  simp only [if_true, word]

theorem Reader.Reads.exists_of_present {data? : Option α} (reads : reader.Reads form)
    (read : (match reader (skipBlanks bytes) with
      | .ok (value, after) => .ok (some value, after)
      | .error fault => .error fault) = Except.ok (data?, rest)) :
    ∃ gap own, IsBlank gap ∧ Form.optional form own data? ∧ bytes = gap ++ (own ++ rest) := by
  split at read
  next data after found =>
    cases read
    obtain ⟨gap, blank, split⟩ := exists_isBlank_of_skipBlanks (rfl : skipBlanks bytes = _)
    obtain ⟨between, own, blank_between, here, same⟩ := reads.only found
    refine ⟨gap ++ between, own, isBlank_append blank blank_between, .inr ⟨data, rfl, here⟩, ?_⟩
    rw [split, same, List.append_assoc]
  next => cases read

theorem reads_optional (reads : reader.Reads form)
    (no_word : ∀ ⦃bytes data⦄, form bytes data → bytes.head? ≠ some (byteOf 'n')) :
    (readOptional reader).Reads (.optional form) where
  opens := by
    rintro bytes data? (⟨rfl, rfl⟩ | ⟨data, rfl, here⟩)
    · exact ⟨byteOf 'n', _, rfl, by decide, by decide⟩
    · exact reads.opens here
  accepts := by
    rintro bytes data? (⟨rfl, rfl⟩ | ⟨data, rfl, here⟩)
    · exact accepts_absent
    · obtain ⟨byte, others, rfl, opens⟩ := reads.opens here
      exact accepts_present (reads.accepts here) opens.shown fun same =>
        no_word here (congrArg some same)
  only := by
    intro bytes data? rest read
    unfold readOptional at read
    dsimp only at read
    split at read
    next byte after front =>
      split at read
      next word =>
        split at read
        next behind word_read =>
          cases read
          obtain ⟨gap, blank, rfl⟩ := exists_isBlank_of_skipBlanks front
          have whole := exists_of_readWord (by decide) word_read
          exact ⟨gap, _, blank, .inl ⟨rfl, rfl⟩, by rw [word, whole]; rfl⟩
        next => cases read
      next => exact reads.exists_of_present read
    next => exact reads.exists_of_present read

/-- A text is present: it does not begin as the word for an absent value does. -/
theorem takes_optional {characters : String} {data : α}
    (takes : reader.Takes (.text characters) data) :
    (readOptional reader).Takes (.text characters) (some data) := by
  intro bytes spelled
  have accepts := takes spelled
  obtain ⟨_, spelled, rfl⟩ := spelled
  cases spelled with
  | text quoted =>
    obtain ⟨others, shown⟩ := opened_text ⟨_, quoted, rfl⟩
    rw [shown] at accepts ⊢
    exact accepts_present accepts (by decide) (by decide)

end Simple

/-! Lists. What stands behind a comma is read as what stands behind the opening bracket. -/

section Lists
variable {α : Type} {item : Reader α} {first : Bool} {gap body bytes rest : List UInt8}
  {pieces : List (List UInt8)}

theorem nextItem_end (first : Bool) (blank : IsBlank gap) (rest : List UInt8) :
    nextItem first (gap ++ byteOf ']' :: rest) = .ok (false, byteOf ']' :: rest) := by
  unfold nextItem
  rw [skipBlanks_shown blank (by decide)]
  simp only [if_true]

theorem nextItem_leads {lead : List UInt8} (leads : Leads first lead) (opened : Opened bytes)
    (rest : List UInt8) : nextItem first (lead ++ (bytes ++ rest)) = .ok (true, bytes ++ rest) := by
  obtain ⟨byte, others, rfl, opens⟩ := opened
  unfold nextItem
  cases leads with
  | opening blank =>
    rw [List.cons_append, skipBlanks_shown blank opens.shown]
    simp only [if_neg opens.no_bracket, if_true]
  | comma blank blank_before =>
    rw [List.append_assoc, List.cons_append, skipBlanks_shown blank (by decide)]
    simp only [if_neg (show byteOf ',' ≠ byteOf ']' by decide), Bool.false_eq_true, if_false,
      if_true, List.cons_append, skipBlanks_shown blank_before opens.shown,
      if_neg opens.no_bracket]

theorem exists_of_nextItem (next : nextItem first bytes = .ok (true, rest)) :
    ∃ lead, Leads first lead ∧ bytes = lead ++ rest := by
  unfold nextItem at next
  split at next
  next => cases next
  next byte after front =>
    obtain ⟨gap, blank, rfl⟩ := exists_isBlank_of_skipBlanks front
    split at next
    next => cases next
    next =>
      split at next
      next is_first =>
        cases next
        exact ⟨gap, is_first ▸ .opening blank, rfl⟩
      next is_later =>
        obtain rfl := Bool.eq_false_iff.mpr is_later
        split at next
        next comma =>
          split at next
          next => cases next
          next byte others front =>
            obtain ⟨before, blank_before, rfl⟩ := exists_isBlank_of_skipBlanks front
            split at next
            next => cases next
            next =>
              cases next
              exact ⟨_, .comma blank blank_before, by simp [comma]⟩
        next => cases next

theorem exists_of_nextItem_end (next : nextItem first bytes = .ok (false, rest)) :
    ∃ gap, IsBlank gap ∧ bytes = gap ++ rest ∧ rest.head? = some (byteOf ']') := by
  unfold nextItem at next
  split at next
  next => cases next
  next byte after front =>
    obtain ⟨gap, blank, rfl⟩ := exists_isBlank_of_skipBlanks front
    split at next
    next bracket =>
      cases next
      exact ⟨gap, blank, rfl, congrArg some bracket⟩
    next =>
      split at next
      next => cases next
      next =>
        split at next
        next =>
          split at next
          next => cases next
          next => split at next <;> cases next
        next => cases next

theorem readItemsWithin_row {data : List α} {bound : Nat} (row : Row first pieces body)
    (each : List.Forall₂ (fun piece data => Opened piece ∧ item.Accepts piece data) pieces data)
    (enough : pieces.length < bound) (rest : List UInt8) :
    readItemsWithin item bound first (body ++ byteOf ']' :: rest) =
      .ok (data, byteOf ']' :: rest) := by
  induction row generalizing bound data with
  | nil blank =>
    cases each
    obtain ⟨fewer, rfl⟩ := Nat.exists_eq_add_of_le' (Nat.zero_lt_of_lt enough)
    rw [readItemsWithin, nextItem_end _ blank]
  | cons leads later ih =>
    cases each with
    | cons here others =>
      obtain ⟨opened, accepts⟩ := here
      obtain ⟨fewer, rfl⟩ := Nat.exists_eq_add_of_le' (Nat.zero_lt_of_lt enough)
      have read := accepts isBlank_nil (later.endsValue (.inr (.inl rfl)) rest)
      rw [List.nil_append] at read
      rw [List.append_assoc, List.append_assoc, readItemsWithin, nextItem_leads leads opened]
      simp only [read, ih others (Nat.lt_of_succ_lt_succ enough)]

theorem closeList_written {data : α} (blank : IsBlank gap) (rest : List UInt8) :
    closeList (.ok (data, gap ++ byteOf ']' :: rest)) = .ok (data, rest) := by
  simp only [closeList, endList, skipBlanks_shown blank
    (show isBlankByte (byteOf ']') = false by decide), if_true]

theorem exists_of_closeList {scan : Scan α} {data : α}
    (closed : closeList scan = .ok (data, rest)) :
    ∃ gap, IsBlank gap ∧ scan = .ok (data, gap ++ byteOf ']' :: rest) := by
  unfold closeList at closed
  split at closed
  next value inner =>
    split at closed
    next after ended =>
      cases closed
      unfold endList at ended
      split at ended
      next => cases ended
      next byte others front =>
        split at ended
        next bracket =>
          cases ended
          obtain ⟨gap, blank, rfl⟩ := exists_isBlank_of_skipBlanks front
          exact ⟨gap, blank, by rw [bracket]⟩
        next =>
          split at ended
          next => split at ended <;> cases ended
          next => cases ended
    next => cases closed
  next => cases closed

theorem accepts_list {data : List α} (split : Form.list bytes pieces)
    (each : List.Forall₂ (fun piece data => Opened piece ∧ item.Accepts piece data) pieces data) :
    (readList item).Accepts bytes data := by
  intro gap rest blank ends
  obtain ⟨body, row, rfl⟩ := split
  have fewer := row.length_le fun piece member => by
    obtain ⟨_, -, opened, -⟩ := exists_related_of_mem each member
    exact opened.length_pos
  unfold readList
  rw [List.cons_append, List.append_assoc, readByFirst_of_shown blank (by decide), if_pos rfl]
  have read := readItemsWithin_row row each
    (show pieces.length < (body ++ byteOf ']' :: rest).length + 1 by
      simp only [List.length_append]
      omega) rest
  rw [List.singleton_append, read]
  exact closeList_written isBlank_nil rest

theorem takes_list {values : List Value} {data : List α}
    (takes : List.Forall₂ item.Takes values data) : (readList item).Takes (.list values) data := by
  rintro _ ⟨text, spelled, rfl⟩
  obtain ⟨pieces, split, spelled_pieces⟩ := spelled.list_form
  refine accepts_list split ?_
  clear split spelled
  induction spelled_pieces generalizing data with
  | nil =>
    cases takes
    exact .nil
  | cons here _ ih =>
    cases takes with
    | cons takes_here takes_later =>
      exact .cons ⟨(passable_of_form here).opens, takes_here here⟩ (ih takes_later)

end Lists

/-! Objects whose members are all read in the same way. -/

section Members
variable {α : Type} {value : Reader α} {first : Bool} {gap body bytes rest : List UInt8}
  {pieces : List (List UInt8)} {name : String}

theorem nextKey_end (first : Bool) (blank : IsBlank gap) (rest : List UInt8) :
    nextKey first (gap ++ byteOf '}' :: rest) = .ok (none, byteOf '}' :: rest) := by
  unfold nextKey
  rw [skipBlanks_shown blank (by decide)]
  simp only [if_true]

theorem nextKey_leads {lead named : List UInt8} (leads : Leads first lead)
    (form : Form.text named name) (rest : List UInt8) :
    nextKey first (lead ++ (named ++ rest)) = .ok (some name, rest) := by
  obtain ⟨_, ⟨spelled⟩, rfl⟩ := form
  unfold nextKey
  rw [encode_quoted]
  cases leads with
  | opening blank =>
    rw [skipBlanks_shown blank (by decide)]
    simp only [if_neg (show byteOf '"' ≠ byteOf '}' by decide), nextKey.key, if_true,
      readText_spelled spelled]
  | comma blank blank_before =>
    rw [List.append_assoc, List.cons_append, skipBlanks_shown blank (by decide)]
    simp only [if_neg (show byteOf ',' ≠ byteOf '}' by decide), Bool.false_eq_true, if_false,
      if_true, skipBlanks_shown blank_before (show isBlankByte (byteOf '"') = false by decide),
      nextKey.key, readText_spelled spelled]

theorem exists_of_key (key : nextKey.key bytes = .ok (some name, rest)) :
    ∃ named, Form.text named name ∧ bytes = named ++ rest := by
  unfold nextKey.key at key
  split at key
  next => cases key
  next byte after =>
    split at key
    next quote =>
      split at key
      next read_name behind read =>
        cases key
        obtain ⟨forms, spelled, rfl⟩ := exists_of_readText read
        refine ⟨_, ⟨_, .quoted spelled, rfl⟩, ?_⟩
        rw [encode_quoted, quote]
      next => cases key
    next => split at key <;> cases key

theorem key_ne_none : nextKey.key bytes ≠ .ok (none, rest) := by
  intro key
  unfold nextKey.key at key
  split at key
  next => cases key
  next =>
    split at key
    next => split at key <;> cases key
    next => split at key <;> cases key

theorem exists_of_nextKey (next : nextKey first bytes = .ok (some name, rest)) :
    ∃ lead named, Leads first lead ∧ Form.text named name ∧ bytes = lead ++ (named ++ rest) := by
  unfold nextKey at next
  split at next
  next => cases next
  next byte after front =>
    obtain ⟨gap, blank, rfl⟩ := exists_isBlank_of_skipBlanks front
    split at next
    next => cases next
    next =>
      split at next
      next is_first =>
        obtain ⟨named, form, same⟩ := exists_of_key next
        exact ⟨gap, named, is_first ▸ .opening blank, form, by rw [same]⟩
      next is_later =>
        obtain rfl := Bool.eq_false_iff.mpr is_later
        split at next
        next comma =>
          obtain ⟨named, form, same⟩ := exists_of_key next
          obtain ⟨before, blank_before, rfl⟩ := exists_isBlank_of_skipBlanks same
          exact ⟨_, named, .comma blank blank_before, form, by simp [comma]⟩
        next => cases next

theorem exists_of_nextKey_end (next : nextKey first bytes = .ok (none, rest)) :
    ∃ gap, IsBlank gap ∧ bytes = gap ++ rest := by
  unfold nextKey at next
  split at next
  next => cases next
  next byte after front =>
    obtain ⟨gap, blank, rfl⟩ := exists_isBlank_of_skipBlanks front
    split at next
    next =>
      cases next
      exact ⟨gap, blank, rfl⟩
    next =>
      split at next
      next => exact absurd next key_ne_none
      next =>
        split at next
        next => exact absurd next key_ne_none
        next => cases next

theorem readColon_written (blank : IsBlank gap) (rest : List UInt8) :
    readColon (gap ++ byteOf ':' :: rest) = .ok rest := by
  unfold readColon
  rw [skipBlanks_shown blank (by decide)]
  simp only [if_true]

theorem exists_of_readColon (read : readColon bytes = .ok rest) :
    ∃ gap, IsBlank gap ∧ bytes = gap ++ byteOf ':' :: rest := by
  unfold readColon at read
  split at read
  next => cases read
  next byte after front =>
    split at read
    next colon =>
      cases read
      obtain ⟨gap, blank, rfl⟩ := exists_isBlank_of_skipBlanks front
      exact ⟨gap, blank, by rw [colon]⟩
    next => cases read

theorem closeObject_written {data : α} (blank : IsBlank gap) (rest : List UInt8) :
    closeObject (.ok (data, gap ++ byteOf '}' :: rest)) = .ok (data, rest) := by
  simp only [closeObject, endObject, skipBlanks_shown blank
    (show isBlankByte (byteOf '}') = false by decide), if_true]

theorem exists_of_closeObject {scan : Scan α} {data : α}
    (closed : closeObject scan = .ok (data, rest)) :
    ∃ gap, IsBlank gap ∧ scan = .ok (data, gap ++ byteOf '}' :: rest) := by
  unfold closeObject at closed
  split at closed
  next value inner =>
    split at closed
    next after ended =>
      cases closed
      unfold endObject at ended
      split at ended
      next => cases ended
      next byte others front =>
        split at ended
        next brace =>
          cases ended
          obtain ⟨gap, blank, rfl⟩ := exists_isBlank_of_skipBlanks front
          exact ⟨gap, blank, by rw [brace]⟩
        next => cases ended
    next => cases closed
  next => cases closed

/-- What a reader of members makes of one member: its name, and the data of its value. -/
def Reader.Pairs (value : Reader α) (member : String × List UInt8) (entry : String × α) : Prop :=
  member.1 = entry.1 ∧ value.Accepts member.2 entry.2

theorem readMembersWithin_row {members : List (String × List UInt8)} {data : List (String × α)}
    {bound : Nat} (row : Row first pieces body)
    (forms : List.Forall₂ (Form.Member .text) pieces members)
    (each : List.Forall₂ value.Pairs members data) (enough : pieces.length < bound)
    (rest : List UInt8) :
    readMembersWithin value bound first (body ++ byteOf '}' :: rest) =
      .ok (data, byteOf '}' :: rest) := by
  induction row generalizing bound members data with
  | nil blank =>
    cases forms
    cases each
    obtain ⟨fewer, rfl⟩ := Nat.exists_eq_add_of_le' (Nat.zero_lt_of_lt enough)
    rw [readMembersWithin, nextKey_end _ blank]
  | cons leads later ih =>
    cases forms with
    | cons form forms =>
      cases each with
      | cons here others =>
        obtain ⟨same, accepts⟩ := here
        obtain ⟨fewer, rfl⟩ := Nat.exists_eq_add_of_le' (Nat.zero_lt_of_lt enough)
        have read_later := ih forms others (Nat.lt_of_succ_lt_succ enough)
        cases form with
        | named spelled blank_before blank_behind =>
          subst same
          have read := accepts blank_behind (later.endsValue (.inr (.inr rfl)) rest)
          simp only [List.append_assoc, List.cons_append]
          rw [readMembersWithin, nextKey_leads leads spelled]
          simp only [readColon_written blank_before, read, read_later]

theorem exists_of_readMembersWithin {form : Form α} {data : List (String × α)} {bound : Nat}
    (reads : value.Reads form)
    (found : readMembersWithin value bound first bytes = .ok (data, rest)) :
    ∃ pieces members body, Row first pieces body ∧
      List.Forall₂ (Form.Member .text) pieces members ∧
      List.Forall₂ (fun member entry => member.1 = entry.1 ∧ form member.2 entry.2) members data ∧
      bytes = body ++ rest := by
  induction bound generalizing first bytes data with
  | zero =>
    rw [readMembersWithin] at found
    cases found
  | succ bound ih =>
    rw [readMembersWithin] at found
    split at found
    next => cases found
    next behind next =>
      cases found
      obtain ⟨gap, blank, rfl⟩ := exists_of_nextKey_end next
      exact ⟨[], [], gap, .nil blank, .nil, .nil, rfl⟩
    next name behind next =>
      obtain ⟨lead, named, leads, spelled, rfl⟩ := exists_of_nextKey next
      split at found
      next => cases found
      next after_colon colon =>
        obtain ⟨before, blank_before, rfl⟩ := exists_of_readColon colon
        split at found
        next => cases found
        next entry after_value read =>
          obtain ⟨gap, own, blank, here, rfl⟩ := reads.only read
          split at found
          next => cases found
          next entries behind later =>
            cases found
            obtain ⟨pieces, members, body, row, forms, each, rfl⟩ := ih later
            have form : Form.Member .text _ (name, own) := .named spelled blank_before blank
            refine ⟨_, _, _, Row.cons leads row, .cons form forms, .cons ⟨rfl, here⟩ each, ?_⟩
            simp only [List.append_assoc, List.cons_append]

theorem accepts_textMap_ofList {members : List (String × List UInt8)}
    {entries : List (String × String)} (split : Form.object .text bytes members)
    (each : List.Forall₂ readString.Pairs members entries) :
    readTextMap.Accepts bytes (.ofList entries) := by
  intro gap rest blank ends
  obtain ⟨pieces, body, row, forms, rfl⟩ := split
  have fewer := row.length_le fun piece member => by
    obtain ⟨_, -, form⟩ := exists_related_of_mem forms member
    exact form.length_pos
  have read := readMembersWithin_row row forms each
    (show pieces.length < (body ++ byteOf '}' :: rest).length + 1 by
      simp only [List.length_append]
      omega) rest
  unfold readTextMap
  rw [List.cons_append, List.append_assoc, readByFirst_of_shown blank (by decide), if_pos rfl,
    List.singleton_append, read]
  have closed : closeObject (.ok (entries, byteOf '}' :: rest)) = .ok (entries, rest) :=
    closeObject_written isBlank_nil rest
  rw [closed]

theorem reads_textMap : readTextMap.Reads .textMap where
  opens := by
    rintro _ map ⟨members, entries, ⟨pieces, body, -, -, rfl⟩, -, -⟩
    exact ⟨byteOf '{', _, rfl, by decide, by decide⟩
  accepts := by
    rintro bytes map ⟨members, entries, split, each, rfl⟩
    exact accepts_textMap_ofList split (each.imp fun member entry here =>
      ⟨here.1, reads_string.accepts here.2⟩)
  only := by
    intro bytes map rest read
    obtain ⟨gap, byte, after, blank, rfl, chosen⟩ := exists_of_readByFirst read
    split at chosen
    next brace =>
      split at chosen
      next entries behind closed =>
        cases chosen
        obtain ⟨between, blank_between, scanned⟩ := exists_of_closeObject closed
        obtain ⟨pieces, members, body, row, forms, each, rfl⟩ :=
          exists_of_readMembersWithin reads_string scanned
        refine ⟨gap, _, blank, ⟨members, entries,
          ⟨pieces, _, row.before_blank blank_between, forms, rfl⟩, each, rfl⟩, ?_⟩
        simp [brace]
      next => cases chosen
    next => cases chosen

theorem takes_textMap_ofList (entries : List (String × String)) :
    readTextMap.Takes (.object (entries.map fun entry => (entry.1, .text entry.2)))
      (.ofList entries) := by
  rintro _ ⟨text, spelled, rfl⟩
  obtain ⟨members, split, each⟩ := spelled.object_form
  refine accepts_textMap_ofList split ?_
  rw [List.forall₂_map_right_iff] at each
  exact each.imp fun member entry here => ⟨here.1, takes_string entry.2 here.2⟩

theorem takes_textMap {entries : List (String × String)} {map : TextMap}
    (same : entries.Perm map.entries) :
    readTextMap.Takes (.object (entries.map fun entry => (entry.1, .text entry.2))) map := by
  rw [← TextMap.ofList_of_perm same]
  exact takes_textMap_ofList entries

end Members

/-! Whole texts, which may have blanks around the value. -/

section Whole
variable {α : Type} {reader : Reader α} {value : Value} {data : α} {text : List Char}

theorem readWhole_accepts {before own after : List UInt8} (accepts : reader.Accepts own data)
    (blank_before : IsBlank before) (blank_after : IsBlank after) :
    readWhole reader (before ++ (own ++ after)) = .ok data := by
  have ends := endsValue_nil.behind_blank blank_after
  have behind := skipBlanks_of_isBlank blank_after []
  rw [List.append_nil] at ends behind
  unfold readWhole
  rw [accepts blank_before ends]
  simp only [behind]
  rfl

/-- A text is read as a whole if it holds the bytes of the form and nothing else, and only then. -/
theorem readWhole_eq_ok_iff {form : Form α} {bytes : List UInt8} (reads : reader.Reads form) :
    readWhole reader bytes = .ok data ↔ form.alone bytes data := by
  constructor
  · intro read
    unfold readWhole at read
    split at read
    next => cases read
    next value rest found =>
      split at read
      next behind =>
        cases read
        obtain ⟨before, own, blank, here, rfl⟩ := reads.only found
        obtain ⟨after, blank_after, same⟩ := exists_isBlank_of_skipBlanks behind
        rw [List.append_nil] at same
        exact ⟨before, own, rest, blank, here, same ▸ blank_after, rfl⟩
      next => cases read
  · rintro ⟨before, own, after, blank, here, blank_after, rfl⟩
    exact readWhole_accepts (reads.accepts here) blank blank_after

theorem readWhole_spelled (takes : reader.Takes value data) {before after : List Char}
    (spelled : Spelled value text) (blank_before : IsGap before) (blank_after : IsGap after) :
    readWhole reader (encode (before ++ text ++ after)) = .ok data := by
  rw [List.append_assoc, encode_append, encode_append]
  exact readWhole_accepts (takes ⟨text, spelled, rfl⟩) (isBlank_encode blank_before)
    (isBlank_encode blank_after)

theorem readWhole_written (takes : reader.Takes value data) {before after : List Char}
    (written : Written value text) (blank_before : IsGap before) (blank_after : IsGap after) :
    readWhole reader (encode (before ++ text ++ after)) = .ok data :=
  readWhole_spelled takes written.spelled blank_before blank_after

theorem readWhole_of_written (takes : reader.Takes value data) (written : Written value text) :
    readWhole reader (encode text) = .ok data := by
  have read := readWhole_written takes written isGap_nil isGap_nil
  rwa [List.append_nil, List.nil_append] at read

end Whole

end StylesheetRunner.Json
