import StylesheetRunner.Json.Skip
import StylesheetRunner.Proofs.Json.Passing

/-!
A value that nobody asks for is passed over up to exactly its end, however deep it is nested, and
nothing else is passed over as one. The steps that this takes are bounded by the length of its
bytes.
-/

namespace StylesheetRunner.Json

open Text.Utf8

/-! Passing over values, items and members within a number of steps. -/

section Values
variable {gap body value bytes rest : List UInt8} {pieces : List (List UInt8)} {bound : Nat}

/-- A value is passed over whatever stands behind it, in steps that its length bounds. -/
def IsPassed (value : List UInt8) : Prop :=
  ∀ ⦃bound rest⦄, EndsValue rest → 2 * value.length ≤ bound →
    skipValueWithin bound (value ++ rest) = .ok rest

theorem readWord_encode (word : List Char)
    (ascii : word.all fun character => character.toNat < 0x80) (rest : List UInt8) :
    readWord word (encode word ++ rest) = .ok rest := by
  induction word with
  | nil => rfl
  | cons character word ih =>
    rw [List.all_cons, Bool.and_eq_true, decide_eq_true_iff] at ascii
    rw [encode_cons_of_ascii ascii.1, List.cons_append, readWord, if_pos rfl, ih ascii.2]

theorem skipValueWithin_blank (enough : 0 < bound) (blank : IsBlank gap) (bytes : List UInt8) :
    skipValueWithin bound (gap ++ bytes) = skipValueWithin bound bytes := by
  obtain ⟨fewer, rfl⟩ := Nat.exists_eq_add_of_le' enough
  rw [skipValueWithin, skipValueWithin, skipBlanks_of_isBlank blank]

theorem skipKey_passable {name before : List UInt8} (blank : IsBlank gap)
    (named : PassableName name ()) (blank_before : IsBlank before) (rest : List UInt8) :
    skipMembersWithin.skipKey (gap ++ (name ++ (before ++ byteOf ':' :: rest))) = .ok rest := by
  obtain ⟨inside, passable, rfl⟩ := named
  unfold skipMembersWithin.skipKey
  rw [List.cons_append, skipBlanks_shown blank (by decide)]
  simp only [if_true, List.append_assoc, List.singleton_append, skipText_passable passable]
  rw [skipBlanks_shown blank_before (by decide)]
  simp only [if_true]

theorem skipItemsWithin_item {first : Bool} {lead : List UInt8} (leads : Leads first lead)
    (passable : Passable value) (passed : IsPassed value) (ends : EndsValue rest)
    (enough : 2 * value.length ≤ bound) :
    skipItemsWithin (bound + 1) first (lead ++ (value ++ rest)) =
      skipItemsWithin bound false rest := by
  have positive := passable.opens.length_pos
  have skipped := passed ends enough
  cases leads with
  | opening blank =>
    obtain ⟨byte, others, rfl, opens⟩ := passable.opens
    rw [List.cons_append] at skipped ⊢
    rw [skipItemsWithin, skipBlanks_shown blank opens.shown]
    simp only [if_neg opens.no_bracket, Bool.true_or, if_true, skipped]
  | comma blank blank_before =>
    rw [← skipValueWithin_blank (by omega) blank_before] at skipped
    rw [List.append_assoc, List.cons_append, skipItemsWithin, skipBlanks_shown blank (by decide)]
    simp only [if_neg (show byteOf ',' ≠ byteOf ']' by decide), decide_true, Bool.or_true, if_true,
      Bool.false_eq_true, if_false, skipped]

theorem skipItemsWithin_row {first : Bool} (row : Row first pieces body)
    (each : ∀ piece ∈ pieces, Passable piece ∧ IsPassed piece)
    (enough : 2 * body.length + 1 ≤ bound) (rest : List UInt8) :
    skipItemsWithin bound first (body ++ byteOf ']' :: rest) = .ok rest := by
  induction row generalizing bound with
  | nil blank =>
    obtain ⟨fewer, rfl⟩ := Nat.exists_eq_add_of_le' (Nat.zero_lt_of_lt enough)
    rw [skipItemsWithin, skipBlanks_shown blank (by decide)]
    simp only [if_true]
  | cons leads later ih =>
    obtain ⟨fewer, rfl⟩ := Nat.exists_eq_add_of_le' (Nat.zero_lt_of_lt enough)
    obtain ⟨⟨passable, passed⟩, each_later⟩ := List.forall_mem_cons.mp each
    have positive := passable.opens.length_pos
    have ends := later.endsValue (.inr (.inl rfl)) rest
    simp only [List.length_append] at enough
    rw [List.append_assoc, List.append_assoc,
      skipItemsWithin_item leads passable passed ends (by omega)]
    exact ih each_later (by omega)

theorem skipMembersWithin_member {first : Bool} {lead piece : List UInt8}
    {member : Unit × List UInt8} (leads : Leads first lead)
    (form : Form.Member PassableName piece member) (passed : IsPassed member.2)
    (ends : EndsValue rest) (positive : 0 < member.2.length)
    (enough : 2 * member.2.length ≤ bound) :
    skipMembersWithin (bound + 1) first (lead ++ (piece ++ rest)) =
      skipMembersWithin bound false rest := by
  cases form with
  | @named _ name before behind value named blank_before blank_behind =>
    have skipped := passed ends enough
    rw [← skipValueWithin_blank (by omega) blank_behind] at skipped
    cases leads with
    | opening blank =>
      have key := skipKey_passable isBlank_nil named blank_before (behind ++ (value ++ rest))
      obtain ⟨inside, -, rfl⟩ := named
      simp only [List.append_assoc, List.cons_append, List.nil_append] at key ⊢
      rw [skipMembersWithin, skipBlanks_shown blank (by decide)]
      simp only [if_neg (show byteOf '"' ≠ byteOf '}' by decide), Bool.true_or, if_true, key,
        skipped]
    | comma blank blank_lead =>
      have key := skipKey_passable blank_lead named blank_before (behind ++ (value ++ rest))
      simp only [List.append_assoc, List.cons_append] at key ⊢
      rw [skipMembersWithin, skipBlanks_shown blank (by decide)]
      simp only [if_neg (show byteOf ',' ≠ byteOf '}' by decide), decide_true, Bool.or_true,
        if_true, Bool.false_eq_true, if_false, key, skipped]

theorem skipMembersWithin_row {first : Bool} {members : List (Unit × List UInt8)}
    (row : Row first pieces body) (forms : List.Forall₂ (Form.Member PassableName) pieces members)
    (each : ∀ member ∈ members, Passable member.2 ∧ IsPassed member.2)
    (enough : 2 * body.length + 1 ≤ bound) (rest : List UInt8) :
    skipMembersWithin bound first (body ++ byteOf '}' :: rest) = .ok rest := by
  induction row generalizing bound members with
  | nil blank =>
    obtain ⟨fewer, rfl⟩ := Nat.exists_eq_add_of_le' (Nat.zero_lt_of_lt enough)
    rw [skipMembersWithin, skipBlanks_shown blank (by decide)]
    simp only [if_true]
  | cons leads later ih =>
    obtain ⟨fewer, rfl⟩ := Nat.exists_eq_add_of_le' (Nat.zero_lt_of_lt enough)
    cases forms with
    | @cons _ member _ members form forms =>
      obtain ⟨⟨passable, passed⟩, each_later⟩ := List.forall_mem_cons.mp each
      have positive := passable.opens.length_pos
      have shorter := form.length_le
      have ends := later.endsValue (.inr (.inr rfl)) rest
      simp only [List.length_append] at enough
      rw [List.append_assoc, List.append_assoc,
        skipMembersWithin_member leads form passed ends positive (by omega)]
      exact ih forms each_later (by omega)

theorem skipValueWithin_number {number : List UInt8} (is_number : IsNumber number)
    (ends : EndsValue rest) : skipValueWithin (bound + 1) (number ++ rest) = .ok rest := by
  have skipped := skipNumber_isNumber is_number ends
  obtain ⟨first, others, rfl, digit⟩ := is_number.opens
  rw [List.cons_append] at skipped ⊢
  rw [skipValueWithin, skipBlanks_of_shown (opensValue_of_isDigitByte digit).shown]
  simp only [if_neg (ne_of_isDigitByte digit (by decide : isDigitByte (byteOf 'n') = false)),
    if_neg (ne_of_isDigitByte digit (by decide : isDigitByte (byteOf 't') = false)),
    if_neg (ne_of_isDigitByte digit (by decide : isDigitByte (byteOf 'f') = false)),
    if_neg (ne_of_isDigitByte digit (by decide : isDigitByte (byteOf '-') = false)), digit, if_true]
  exact skipped

/-- A value has bytes, so there is a step to pass over it. -/
theorem isPassed_of_succ (opened : Opened value)
    (passed : ∀ ⦃bound rest⦄, EndsValue rest → 2 * value.length ≤ bound + 1 →
      skipValueWithin (bound + 1) (value ++ rest) = .ok rest) : IsPassed value := by
  intro bound rest ends enough
  have positive := opened.length_pos
  obtain ⟨fewer, rfl⟩ := Nat.exists_eq_add_of_le' (show 1 ≤ bound by omega)
  exact passed ends enough

theorem isPassed_of_passable (passable : Passable value) : IsPassed value := by
  induction passable with
  | null =>
    apply isPassed_of_succ Passable.null.opens
    intro bound rest ends enough
    exact readWord_encode ['u', 'l', 'l'] (by decide) rest
  | boolean flag =>
    apply isPassed_of_succ (Passable.boolean flag).opens
    intro bound rest ends enough
    cases flag with
    | false => exact readWord_encode ['a', 'l', 's', 'e'] (by decide) rest
    | true => exact readWord_encode ['r', 'u', 'e'] (by decide) rest
  | number unsigned =>
    apply isPassed_of_succ (Passable.number unsigned).opens
    intro bound rest ends enough
    exact skipValueWithin_number unsigned ends
  | negative unsigned =>
    apply isPassed_of_succ (Passable.negative unsigned).opens
    intro bound rest ends enough
    exact skipNumber_isNumber unsigned ends
  | text named =>
    apply isPassed_of_succ (Passable.text named).opens
    intro bound rest ends enough
    obtain ⟨inside, passable, rfl⟩ := named
    have skipped := skipText_passable passable rest
    rw [List.cons_append, List.append_assoc]
    exact skipped
  | list split each ih =>
    apply isPassed_of_succ (Passable.list split each).opens
    intro bound rest ends enough
    obtain ⟨body, row, rfl⟩ := split
    simp only [List.length_cons, List.length_append] at enough
    have skipped := skipItemsWithin_row row
      (fun piece member => ⟨each piece member, ih piece member⟩)
      (by omega : 2 * body.length + 1 ≤ bound) rest
    rw [List.cons_append, List.append_assoc]
    exact skipped
  | object split each ih =>
    apply isPassed_of_succ (Passable.object split each).opens
    intro bound rest ends enough
    obtain ⟨pieces, body, row, forms, rfl⟩ := split
    simp only [List.length_cons, List.length_append] at enough
    have skipped := skipMembersWithin_row row forms
      (fun member mem => ⟨each member mem, ih member mem⟩)
      (by omega : 2 * body.length + 1 ≤ bound) rest
    rw [List.cons_append, List.append_assoc]
    exact skipped

theorem skipValue_passable (blank : IsBlank gap) (passable : Passable value)
    (ends : EndsValue rest) : skipValue (gap ++ (value ++ rest)) = .ok rest := by
  unfold skipValue
  rw [skipValueWithin_blank (by omega) blank]
  refine isPassed_of_passable passable ends ?_
  simp only [List.length_append]
  omega

/-! Nothing else is passed over. -/

theorem exists_of_readWord {word : List Char}
    (ascii : word.all fun character => character.toNat < 0x80)
    (read : readWord word bytes = .ok rest) : bytes = encode word ++ rest := by
  induction word generalizing bytes with
  | nil => exact Except.ok.inj read
  | cons character word ih =>
    rw [List.all_cons, Bool.and_eq_true, decide_eq_true_iff] at ascii
    cases bytes with
    | nil => cases read
    | cons byte bytes =>
      rw [readWord] at read
      split at read
      next same =>
        rw [encode_cons_of_ascii ascii.1, List.cons_append, ← ih ascii.2 read, same]
      next => cases read

theorem exists_of_skipKey (skipped : skipMembersWithin.skipKey bytes = .ok rest) :
    ∃ gap name before, IsBlank gap ∧ PassableName name () ∧ IsBlank before ∧
      bytes = gap ++ (name ++ (before ++ byteOf ':' :: rest)) := by
  unfold skipMembersWithin.skipKey at skipped
  split at skipped
  next => cases skipped
  next byte after front =>
    obtain ⟨gap, blank, rfl⟩ := exists_isBlank_of_skipBlanks front
    split at skipped
    next quote =>
      subst quote
      split at skipped
      next => cases skipped
      next behind passed =>
        obtain ⟨inside, passable, rfl⟩ := exists_of_skipText passed
        split at skipped
        next => cases skipped
        next colon tail front =>
          obtain ⟨before, blank_before, rfl⟩ := exists_isBlank_of_skipBlanks front
          split at skipped
          next same =>
            cases skipped
            exact ⟨gap, _, before, blank, ⟨inside, passable, rfl⟩, blank_before, by simp [same]⟩
          next => cases skipped
    next => cases skipped

theorem exists_leads {first : Bool} {byte : UInt8} {after before piece : List UInt8}
    (blank : IsBlank gap) (opens : (first || decide (byte = byteOf ',')) = true)
    (blank_before : IsBlank before)
    (split : (if first = true then byte :: after else after) = before ++ piece) :
    ∃ lead, Leads first lead ∧ gap ++ byte :: after = lead ++ piece := by
  cases first with
  | true =>
    rw [if_pos rfl] at split
    exact ⟨_, .opening (isBlank_append blank blank_before), by rw [split, List.append_assoc]⟩
  | false =>
    rw [if_neg Bool.false_ne_true] at split
    obtain rfl : byte = byteOf ',' := by simpa using opens
    exact ⟨_, .comma blank blank_before, by rw [split, List.append_assoc, List.cons_append]⟩

/-- Within a number of steps nothing is passed over as a value that is none. -/
def PassesValues (bound : Nat) : Prop :=
  ∀ ⦃bytes rest⦄, skipValueWithin bound bytes = .ok rest →
    ∃ gap value, IsBlank gap ∧ Passable value ∧ bytes = gap ++ (value ++ rest)

def PassesItems (bound : Nat) : Prop :=
  ∀ ⦃first bytes rest⦄, skipItemsWithin bound first bytes = .ok rest →
    ∃ pieces body, Row first pieces body ∧ (∀ piece ∈ pieces, Passable piece) ∧
      bytes = body ++ byteOf ']' :: rest

def PassesMembers (bound : Nat) : Prop :=
  ∀ ⦃first bytes rest⦄, skipMembersWithin bound first bytes = .ok rest →
    ∃ pieces members body, Row first pieces body ∧
      List.Forall₂ (Form.Member PassableName) pieces members ∧
      (∀ member ∈ members, Passable member.2) ∧ bytes = body ++ byteOf '}' :: rest

theorem passesValues_succ (of_items : PassesItems bound) (of_members : PassesMembers bound) :
    PassesValues (bound + 1) := by
  intro bytes rest skipped
  rw [skipValueWithin] at skipped
  split at skipped
  next => cases skipped
  next byte after front =>
    obtain ⟨gap, blank, rfl⟩ := exists_isBlank_of_skipBlanks front
    have found {value : List UInt8} (passable : Passable value)
        (split : byte :: after = value ++ rest) :
        ∃ gap' value, IsBlank gap' ∧ Passable value ∧
          gap ++ byte :: after = gap' ++ (value ++ rest) :=
      ⟨gap, value, blank, passable, by rw [split]⟩
    split at skipped
    next null =>
      have split := exists_of_readWord (by decide) skipped
      exact found .null (by rw [null, split]; rfl)
    split at skipped
    next is_true =>
      have split := exists_of_readWord (by decide) skipped
      exact found (.boolean true) (by rw [is_true, split]; rfl)
    split at skipped
    next is_false =>
      have split := exists_of_readWord (by decide) skipped
      exact found (.boolean false) (by rw [is_false, split]; rfl)
    split at skipped
    next minus =>
      obtain ⟨number, is_number, rfl⟩ := exists_of_skipNumber skipped
      exact found (.negative is_number) (by rw [minus]; rfl)
    split at skipped
    next digit =>
      obtain ⟨number, is_number, split⟩ := exists_of_skipNumber skipped
      exact found (.number is_number) split
    split at skipped
    next quote =>
      obtain ⟨inside, passable, rfl⟩ := exists_of_skipText skipped
      exact found (.text ⟨inside, passable, rfl⟩) (by simp [quote])
    split at skipped
    next bracket =>
      obtain ⟨pieces, body, row, each, rfl⟩ := of_items skipped
      exact found (.list ⟨body, row, rfl⟩ each) (by simp [bracket])
    split at skipped
    next brace =>
      obtain ⟨pieces, members, body, row, forms, each, rfl⟩ := of_members skipped
      exact found (.object ⟨pieces, body, row, forms, rfl⟩ each) (by simp [brace])
    next => cases skipped

theorem passesItems_succ (of_value : PassesValues bound) (of_items : PassesItems bound) :
    PassesItems (bound + 1) := by
  intro first bytes rest skipped
  rw [skipItemsWithin] at skipped
  split at skipped
  next => cases skipped
  next byte after front =>
    obtain ⟨gap, blank, rfl⟩ := exists_isBlank_of_skipBlanks front
    split at skipped
    next bracket =>
      cases skipped
      exact ⟨[], gap, .nil blank, nofun, by rw [bracket]⟩
    split at skipped
    next opens =>
      split at skipped
      next behind passed =>
        obtain ⟨before, value, blank_before, passable, split⟩ := of_value passed
        obtain ⟨pieces, body, row, each, rfl⟩ := of_items skipped
        have each_piece : ∀ piece ∈ value :: pieces, Passable piece :=
          List.forall_mem_cons.mpr ⟨passable, each⟩
        obtain ⟨lead, leads, same⟩ := exists_leads blank opens blank_before split
        exact ⟨value :: pieces, _, .cons leads row, each_piece, by simp [same]⟩
      next => cases skipped
    next => cases skipped

theorem passesMembers_succ (of_value : PassesValues bound) (of_members : PassesMembers bound) :
    PassesMembers (bound + 1) := by
  intro first bytes rest skipped
  rw [skipMembersWithin] at skipped
  split at skipped
  next => cases skipped
  next byte after front =>
    obtain ⟨gap, blank, rfl⟩ := exists_isBlank_of_skipBlanks front
    split at skipped
    next brace =>
      cases skipped
      exact ⟨[], [], gap, .nil blank, .nil, nofun, by rw [brace]⟩
    split at skipped
    next opens =>
      split at skipped
      next => cases skipped
      next behind_colon key =>
        obtain ⟨between, name, before, blank_between, named, blank_before, split⟩ :=
          exists_of_skipKey key
        split at skipped
        next behind passed =>
          obtain ⟨gap', value, blank', passable, rfl⟩ := of_value passed
          obtain ⟨pieces, members, body, row, forms, each, rfl⟩ := of_members skipped
          have form : Form.Member PassableName _ ((), value) := .named named blank_before blank'
          have each_member : ∀ member ∈ ((), value) :: members, Passable member.2 :=
            List.forall_mem_cons.mpr ⟨passable, each⟩
          obtain ⟨lead, leads, same⟩ := exists_leads blank opens blank_between split
          exact ⟨_, _, _, .cons leads row, .cons form forms, each_member, by simp [same]⟩
        next => cases skipped
    next => cases skipped

theorem passes_all (bound : Nat) :
    PassesValues bound ∧ PassesItems bound ∧ PassesMembers bound := by
  induction bound with
  | zero =>
    refine ⟨fun bytes rest skipped => ?_, fun first bytes rest skipped => ?_,
      fun first bytes rest skipped => ?_⟩
    · rw [skipValueWithin] at skipped
      cases skipped
    · rw [skipItemsWithin] at skipped
      cases skipped
    · rw [skipMembersWithin] at skipped
      cases skipped
  | succ bound ih =>
    obtain ⟨of_value, of_items, of_members⟩ := ih
    exact ⟨passesValues_succ of_items of_members, passesItems_succ of_value of_items,
      passesMembers_succ of_value of_members⟩

theorem exists_of_skipValue (skipped : skipValue bytes = .ok rest) :
    ∃ gap value, IsBlank gap ∧ Passable value ∧ bytes = gap ++ (value ++ rest) :=
  (passes_all _).1 skipped

end Values

end StylesheetRunner.Json
