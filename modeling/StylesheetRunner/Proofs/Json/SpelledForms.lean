import StylesheetRunner.Proofs.Json.Grammar

/-!
Spelled values have the forms of the grammar: their items and members are rows, whose pieces are the
spelled items and members, and each of them may be passed over.
-/

namespace StylesheetRunner.Json

open Text.Utf8

def Form.spelled : Form Value := fun bytes value => ∃ text, Spelled value text ∧ bytes = encode text

theorem exists_related_of_mem {α β : Type} {related : α → β → Prop} {first : List α}
    {second : List β} (all : List.Forall₂ related first second) {item : α} (member : item ∈ first) :
    ∃ other ∈ second, related item other := by
  induction all with
  | nil => cases member
  | cons here _ ih =>
    rcases List.mem_cons.mp member with rfl | later
    · exact ⟨_, List.mem_cons_self, here⟩
    · obtain ⟨other, mem, related⟩ := ih later
      exact ⟨other, List.mem_cons_of_mem _ mem, related⟩

section
variable {gap text body piece : List Char} {value : Value} {items : List Value}
  {members : List (String × Value)} {byte : UInt8}

theorem isBlank_encode (blank : IsGap gap) : IsBlank (encode gap) := by
  intro byte member
  obtain ⟨character, in_gap, in_bytes⟩ := List.mem_flatMap.mp member
  have one_of := blank character in_gap
  simp only [List.mem_cons, List.not_mem_nil, or_false] at one_of
  rcases one_of with rfl | rfl | rfl | rfl
  all_goals
    rw [encodeCharacter_of_ascii (by decide), List.mem_singleton] at in_bytes
    subst in_bytes
    decide

theorem encode_enclosed {opening closing : Char} (ascii : opening.toNat < 0x80)
    (ascii' : closing.toNat < 0x80) (body : List Char) :
    encode (opening :: body ++ [closing]) =
      byteOf opening :: (encode body ++ [byteOf closing]) := by
  rw [encode_append, encode_cons_of_ascii ascii, encode_cons_of_ascii ascii']
  rfl

theorem SpelledItems.row (spelled : SpelledItems items body) :
    ∃ pieces, Row true pieces (encode body) ∧ List.Forall₂ Form.spelled pieces items := by
  induction items generalizing body with
  | nil =>
    cases spelled with
    | none blank => exact ⟨[], .nil (isBlank_encode blank), .nil⟩
  | cons item others ih =>
    cases spelled with
    | @last _ before text after blank_before here blank_after =>
      refine ⟨[encode text], ?_, .cons ⟨text, here, rfl⟩ .nil⟩
      rw [List.append_assoc, encode_append, encode_append]
      exact .cons (.opening (isBlank_encode blank_before)) (.nil (isBlank_encode blank_after))
    | @more _ next others before text after body blank_before here blank_after later =>
      obtain ⟨pieces, row, each⟩ := ih later
      cases each with
      | cons first rest =>
        refine ⟨encode text :: _, ?_, .cons ⟨text, here, rfl⟩ (.cons first rest)⟩
        rw [List.append_assoc, List.append_assoc, encode_append, encode_append, encode_append,
          encode_cons_of_ascii (by decide)]
        exact .cons (.opening (isBlank_encode blank_before))
          (row.behind_comma (isBlank_encode blank_after))

theorem SpelledMember.exists_piece {member : String × Value} (spelled : SpelledMember member text) :
    ∃ before piece after named, IsBlank before ∧ IsBlank after ∧
      encode text = before ++ (piece ++ after) ∧ Form.Member .text piece named ∧
      named.1 = member.1 ∧ Form.spelled named.2 member.2 := by
  cases spelled with
  | @named name value before quoted colon behind text after blank_before name_spelled blank_colon
      blank_behind here blank_after =>
    have form : Form.Member .text _ (name, encode text) :=
      .named ⟨quoted, name_spelled, rfl⟩ (isBlank_encode blank_colon) (isBlank_encode blank_behind)
    refine ⟨encode before, _, encode after, _, isBlank_encode blank_before,
      isBlank_encode blank_after, ?_, form, rfl, text, here, rfl⟩
    simp only [encode_append, encode_cons_of_ascii (show (':' : Char).toNat < 0x80 by decide),
      List.append_assoc, List.cons_append]

theorem SpelledMembers.row (spelled : SpelledMembers members body) :
    ∃ pieces named, Row true pieces (encode body) ∧
      List.Forall₂ (Form.Member .text) pieces named ∧
      List.Forall₂ (fun piece member => piece.1 = member.1 ∧ Form.spelled piece.2 member.2)
        named members := by
  induction members generalizing body with
  | nil =>
    cases spelled with
    | none blank => exact ⟨[], [], .nil (isBlank_encode blank), .nil, .nil⟩
  | cons member others ih =>
    cases spelled with
    | last here =>
      obtain ⟨before, piece, after, named, blank_before, blank_after, same, form, spelled⟩ :=
        here.exists_piece
      refine ⟨[piece], [named], ?_, .cons form .nil, .cons spelled .nil⟩
      rw [same]
      exact .cons (.opening blank_before) (.nil blank_after)
    | more here later =>
      obtain ⟨before, piece, after, named, blank_before, blank_after, same, form, spelled⟩ :=
        here.exists_piece
      obtain ⟨pieces, others, row, forms, each⟩ := ih later
      cases forms with
      | nil => cases each
      | cons first rest =>
        refine ⟨piece :: _, named :: _, ?_, .cons form (.cons first rest), .cons spelled each⟩
        rw [encode_append, encode_cons_of_ascii (by decide), same, List.append_assoc,
          List.append_assoc]
        exact .cons (.opening blank_before) (row.behind_comma blank_after)

theorem Spelled.list_form (spelled : Spelled (.list items) text) :
    ∃ pieces, Form.list (encode text) pieces ∧ List.Forall₂ Form.spelled pieces items := by
  cases spelled with
  | list inside =>
    obtain ⟨pieces, row, each⟩ := inside.row
    exact ⟨pieces, ⟨_, row, encode_enclosed (by decide) (by decide) _⟩, each⟩

theorem Spelled.object_form (spelled : Spelled (.object members) text) :
    ∃ named, Form.object .text (encode text) named ∧
      List.Forall₂ (fun piece member => piece.1 = member.1 ∧ Form.spelled piece.2 member.2)
        named members := by
  cases spelled with
  | object inside =>
    obtain ⟨pieces, named, row, forms, each⟩ := inside.row
    exact ⟨named, ⟨pieces, _, row, forms, encode_enclosed (by decide) (by decide) _⟩, each⟩

/-! What is a text, or a number, is one as far as its form goes. -/

theorem passableText_append {first second : List UInt8} (passable : PassableText first)
    (later : PassableText second) : PassableText (first ++ second) := by
  induction passable with
  | nil => exact later
  | plain stands _ ih => exact .plain stands ih
  | letter known _ ih => exact .letter known ih
  | number digits _ ih => exact .number digits ih

theorem passableText_four {digits : List Char} {number : Nat} (four : FourDigits digits number)
    {rest : List UInt8} (later : PassableText rest) :
    PassableText (encode ('\\' :: 'u' :: digits) ++ rest) := by
  cases four with
  | digits first second third fourth =>
    rw [encode_cons_of_ascii (by decide), encode_cons_of_ascii (by decide),
      encode_cons_of_ascii first.ascii, encode_cons_of_ascii second.ascii,
      encode_cons_of_ascii third.ascii, encode_cons_of_ascii fourth.ascii]
    refine .number ?_ later
    simp [first.meaning, second.meaning, third.meaning, fourth.meaning]

theorem passableText_standing {bytes : List UInt8}
    (standing : ∀ byte ∈ bytes, StandsInText byte) : PassableText bytes := by
  induction bytes with
  | nil => exact .nil
  | cons byte bytes ih =>
    obtain ⟨here, later⟩ := List.forall_mem_cons.mp standing
    exact .plain here (ih later)

theorem passableText_of_writtenAs {character : Char} {form : List Char}
    (written : WrittenAs character form) : PassableText (encode form) := by
  cases written with
  | itself stands =>
    rw [encode_singleton]
    exact passableText_standing stands
  | letter ascii meaning =>
    rw [encode_cons_of_ascii (by decide), encode_cons_of_ascii ascii]
    exact .letter (by rw [meaning]; rfl) .nil
  | number four =>
    rw [← List.append_nil (encode _)]
    exact passableText_four four .nil
  | pair four four' _ _ _ =>
    -- Each half of a pair has the form of a number of its own.
    have tail := passableText_four four' .nil
    rw [List.append_nil] at tail
    rw [← List.cons_append, ← List.cons_append, encode_append]
    exact passableText_four four tail

theorem passableText_of_spelledAs {text forms : List Char} (spelled : SpelledAs text forms) :
    PassableText (encode forms) := by
  induction spelled with
  | nil => exact .nil
  | cons here _ ih =>
    rw [encode_append]
    exact passableText_append (passableText_of_writtenAs here) ih

theorem passableName_of_text {bytes : List UInt8} {name : String} (form : Form.text bytes name) :
    PassableName bytes () := by
  obtain ⟨_, ⟨spelled⟩, rfl⟩ := form
  exact ⟨_, passableText_of_spelledAs spelled, encode_enclosed (by decide) (by decide) _⟩

theorem Form.Member.unread {bytes : List UInt8} {member : String × List UInt8}
    (form : Form.Member .text bytes member) :
    Form.Member PassableName bytes ((), member.2) := by
  cases form with
  | named spelled blank_before blank_behind =>
    exact .named (passableName_of_text spelled) blank_before blank_behind

theorem isNumber_numeral (size : Nat) : IsNumber (numeral size) := by
  have whole : IsWhole (numeral size) := by
    rcases numeral_cases size with ⟨-, zero⟩ | ⟨first, others, shown, digit, no_zero⟩
    · rw [zero]
      exact .zero
    · rw [shown]
      refine .other digit no_zero fun byte member => @isDigitByte_of_mem_numeral size byte ?_
      exact shown ▸ List.mem_cons_of_mem _ member
  have number := IsNumber.number whole .none .none
  rwa [List.append_nil, List.append_nil] at number

theorem passable_integer (number : Int) : Passable (encode (Text.integerText number)) := by
  cases number with
  | ofNat size =>
    rw [show Text.integerText (.ofNat size) = Text.naturalText size from rfl, encode_naturalText]
    exact .number (isNumber_numeral size)
  | negSucc size =>
    rw [Text.integerText, encode_cons_of_ascii (by decide), encode_naturalText]
    exact .negative (isNumber_numeral (size + 1))

theorem passable_of_spelled : (value : Value) → ∀ {text : List Char}, Spelled value text →
    Passable (encode text)
  | .null, _, .null => .null
  | .boolean flag, _, .boolean _ => .boolean flag
  | .integer number, _, .integer _ => passable_integer number
  | .text characters, _, .text quoted => .text (passableName_of_text ⟨_, quoted, rfl⟩)
  | .list items, _, spelled => by
    obtain ⟨pieces, split, each⟩ := spelled.list_form
    refine .list split fun piece member => ?_
    obtain ⟨item, in_items, text, here, rfl⟩ := exists_related_of_mem each member
    exact passable_of_spelled item here
  | .object members, _, spelled => by
    obtain ⟨named, ⟨pieces, body, row, forms, same⟩, each⟩ := spelled.object_form
    have unread : List.Forall₂ (Form.Member PassableName) pieces
        (named.map fun member => ((), member.2)) := by
      rw [List.forall₂_map_right_iff]
      exact forms.imp fun piece member form => form.unread
    refine .object ⟨pieces, body, row, unread, same⟩ fun member mem => ?_
    obtain ⟨piece, in_named, rfl⟩ := List.mem_map.mp mem
    obtain ⟨⟨name, value⟩, in_members, -, text, here, shown⟩ :=
      exists_related_of_mem each in_named
    change Passable piece.2
    rw [shown]
    exact passable_of_spelled value here
termination_by value => sizeOf value
decreasing_by
  · have smaller := List.sizeOf_lt_of_mem in_items
    simp only [Value.list.sizeOf_spec]
    omega
  · have smaller := List.sizeOf_lt_of_mem in_members
    simp only [Value.object.sizeOf_spec, Prod.mk.sizeOf_spec] at smaller ⊢
    omega

end

end StylesheetRunner.Json
