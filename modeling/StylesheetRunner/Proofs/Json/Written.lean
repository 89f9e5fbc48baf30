import StylesheetRunner.Json.Printer

/-!
The texts of a value. Its parts stand in order, and blanks may stand between any two of them; a
value on one line and a value over several lines are two such texts.
-/

namespace StylesheetRunner.Json

def IsGap (text : List Char) : Prop :=
  ∀ character ∈ text, character ∈ [' ', '\n', '\t', '\r']

mutual

inductive Written : Value → List Char → Prop
  | null : Written .null "null".toList
  | boolean (flag : Bool) : Written (.boolean flag) (if flag then "true" else "false").toList
  | integer (number : Int) : Written (.integer number) (Text.integerText number)
  | text (characters : String) : Written (.text characters) (writeText characters)
  | list {items : List Value} {body : List Char} (inside : WrittenItems items body) :
      Written (.list items) ('[' :: body ++ [']'])
  | object {members : List (String × Value)} {body : List Char}
      (inside : WrittenMembers members body) : Written (.object members) ('{' :: body ++ ['}'])

inductive WrittenItems : List Value → List Char → Prop
  | none {gap : List Char} (blank : IsGap gap) : WrittenItems [] gap
  | last {item : Value} {before text after : List Char} (blank_before : IsGap before)
      (written : Written item text) (blank_after : IsGap after) :
      WrittenItems [item] (before ++ text ++ after)
  | more {item next : Value} {others : List Value} {before text after body : List Char}
      (blank_before : IsGap before) (written : Written item text) (blank_after : IsGap after)
      (later : WrittenItems (next :: others) body) :
      WrittenItems (item :: next :: others) (before ++ text ++ after ++ ',' :: body)

inductive WrittenMembers : List (String × Value) → List Char → Prop
  | none {gap : List Char} (blank : IsGap gap) : WrittenMembers [] gap
  | last {member : String × Value} {piece : List Char} (here : WrittenMember member piece) :
      WrittenMembers [member] piece
  | more {member next : String × Value} {others : List (String × Value)} {piece body : List Char}
      (here : WrittenMember member piece) (later : WrittenMembers (next :: others) body) :
      WrittenMembers (member :: next :: others) (piece ++ ',' :: body)

inductive WrittenMember : String × Value → List Char → Prop
  | named (name : String) {value : Value} {before colon behind text after : List Char}
      (blank_before : IsGap before) (blank_colon : IsGap colon) (blank_behind : IsGap behind)
      (written : Written value text) (blank_after : IsGap after) :
      WrittenMember (name, value)
        (before ++ writeText name ++ colon ++ ':' :: (behind ++ text ++ after))

end

theorem isGap_nil : IsGap [] := nofun

theorem isGap_space : IsGap [' '] := by
  intro character member
  rw [List.mem_singleton.mp member]
  decide

theorem isGap_append {first second : List Char} (blank_first : IsGap first)
    (blank_second : IsGap second) : IsGap (first ++ second) := by
  intro character member
  exact (List.mem_append.mp member).elim (blank_first character) (blank_second character)

theorem isGap_newLine (level : Nat) : IsGap (Value.newLine level) := by
  intro character member
  rcases List.mem_cons.mp member with rfl | spaces
  · decide
  · rw [(List.mem_replicate.mp spaces).2]
    decide

/-! Values on one line. -/

mutual

theorem written_compact : (value : Value) → Written value value.compact
  | .null => .null
  | .boolean flag => .boolean flag
  | .integer number => .integer number
  | .text characters => .text characters
  | .list items => by
    rw [Value.compact]
    exact .list (writtenItems_compact items)
  | .object members => by
    rw [Value.compact]
    exact .object (writtenMembers_compact members)

theorem writtenItems_compact : (items : List Value) → WrittenItems items (Value.compactItems items)
  | [] => .none isGap_nil
  | [only] => by
    have last := WrittenItems.last isGap_nil (written_compact only) isGap_nil
    rwa [List.append_nil, List.nil_append] at last
  | first :: second :: others => by
    have more := WrittenItems.more isGap_nil (written_compact first) isGap_nil
      (writtenItems_compact (second :: others))
    rwa [List.append_nil, List.nil_append] at more

theorem writtenMembers_compact : (members : List (String × Value)) →
    WrittenMembers members (Value.compactMembers members)
  | [] => .none isGap_nil
  | [(name, only)] => by
    have here := WrittenMember.named name isGap_nil isGap_nil isGap_nil (written_compact only)
      isGap_nil
    rw [Value.compactMembers]
    exact .last (by simpa using here)
  | (name, first) :: second :: others => by
    have here := WrittenMember.named name isGap_nil isGap_nil isGap_nil (written_compact first)
      isGap_nil
    have more := WrittenMembers.more here (writtenMembers_compact (second :: others))
    rw [Value.compactMembers]
    · simpa using more
    · nofun

end

/-! Values over several lines. The gap before a closing bracket belongs to what stands before it. -/

theorem WrittenItems.append_gap {gap : List Char} (blank : IsGap gap) :
    {items : List Value} → {body : List Char} → WrittenItems items body →
      WrittenItems items (body ++ gap)
  | [], _, .none before => .none (isGap_append before blank)
  | [_], _, .last before written after => by
    rw [List.append_assoc]
    exact .last before written (isGap_append after blank)
  | _ :: _ :: _, _, .more before written after later => by
    rw [List.append_assoc, List.cons_append]
    exact .more before written after (later.append_gap blank)

theorem WrittenMember.append_gap {member : String × Value} {piece gap : List Char}
    (here : WrittenMember member piece) (blank : IsGap gap) :
    WrittenMember member (piece ++ gap) := by
  cases here with
  | named name before colon behind written after =>
    rw [List.append_assoc, List.cons_append, List.append_assoc _ _ gap]
    exact .named name before colon behind written (isGap_append after blank)

theorem WrittenMembers.append_gap {gap : List Char} (blank : IsGap gap) :
    {members : List (String × Value)} → {body : List Char} → WrittenMembers members body →
      WrittenMembers members (body ++ gap)
  | [], _, .none before => .none (isGap_append before blank)
  | [_], _, .last here => .last (here.append_gap blank)
  | _ :: _ :: _, _, .more here later => by
    rw [List.append_assoc, List.cons_append]
    exact .more here (later.append_gap blank)

mutual

theorem written_indented (level : Nat) : (value : Value) → Written value (value.indented level)
  | .null => .null
  | .boolean flag => .boolean flag
  | .integer number => .integer number
  | .text characters => .text characters
  | .list items => by
    rw [Value.indented]
    split
    next empty =>
      rw [List.isEmpty_iff.mp empty]
      exact .list (.none isGap_nil)
    next nonempty =>
      have inside := (writtenItems_indented (level + 1) items).append_gap (isGap_newLine level)
      exact .list inside
  | .object members => by
    rw [Value.indented]
    split
    next empty =>
      rw [List.isEmpty_iff.mp empty]
      exact .object (.none isGap_nil)
    next nonempty =>
      have inside := (writtenMembers_indented (level + 1) members).append_gap (isGap_newLine level)
      exact .object inside

theorem writtenItems_indented (level : Nat) : (items : List Value) →
    WrittenItems items (Value.indentedItems level items)
  | [] => .none isGap_nil
  | [only] => by
    have last := WrittenItems.last (isGap_newLine level) (written_indented level only) isGap_nil
    rwa [List.append_nil] at last
  | first :: second :: others => by
    have more := WrittenItems.more (isGap_newLine level) (written_indented level first) isGap_nil
      (writtenItems_indented level (second :: others))
    rwa [List.append_nil] at more

theorem writtenMembers_indented (level : Nat) : (members : List (String × Value)) →
    WrittenMembers members (Value.indentedMembers level members)
  | [] => .none isGap_nil
  | [(name, only)] => by
    have here := WrittenMember.named name (isGap_newLine level) isGap_nil isGap_space
      (written_indented level only) isGap_nil
    rw [Value.indentedMembers]
    exact .last (by simpa using here)
  | (name, first) :: second :: others => by
    have here := WrittenMember.named name (isGap_newLine level) isGap_nil isGap_space
      (written_indented level first) isGap_nil
    have more := WrittenMembers.more here (writtenMembers_indented level (second :: others))
    rw [Value.indentedMembers]
    · simpa using more
    · nofun

end

theorem written_pretty (value : Value) : Written value value.pretty :=
  written_indented 0 value

end StylesheetRunner.Json
