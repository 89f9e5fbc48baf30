import StylesheetRunner.Proofs.Json.Texts
import StylesheetRunner.Proofs.Json.Written

/-!
All texts of a value. Besides the blanks between its parts, each text in it and each name may be
spelled in its own way. What is written without needless escapes is one such text.
-/

namespace StylesheetRunner.Json

inductive Quoted (text : String) : List Char → Prop
  | quoted {forms : List Char} (spelled : SpelledAs text.toList forms) :
      Quoted text ('"' :: forms ++ ['"'])

theorem quoted_writeText (text : String) : Quoted text (writeText text) :=
  .quoted (spelledAs_escapeCharacter text.toList)

mutual

inductive Spelled : Value → List Char → Prop
  | null : Spelled .null "null".toList
  | boolean (flag : Bool) : Spelled (.boolean flag) (if flag then "true" else "false").toList
  | integer (number : Int) : Spelled (.integer number) (Text.integerText number)
  | text {characters : String} {quoted : List Char} (spelled : Quoted characters quoted) :
      Spelled (.text characters) quoted
  | list {items : List Value} {body : List Char} (inside : SpelledItems items body) :
      Spelled (.list items) ('[' :: body ++ [']'])
  | object {members : List (String × Value)} {body : List Char}
      (inside : SpelledMembers members body) : Spelled (.object members) ('{' :: body ++ ['}'])

inductive SpelledItems : List Value → List Char → Prop
  | none {gap : List Char} (blank : IsGap gap) : SpelledItems [] gap
  | last {item : Value} {before text after : List Char} (blank_before : IsGap before)
      (spelled : Spelled item text) (blank_after : IsGap after) :
      SpelledItems [item] (before ++ text ++ after)
  | more {item next : Value} {others : List Value} {before text after body : List Char}
      (blank_before : IsGap before) (spelled : Spelled item text) (blank_after : IsGap after)
      (later : SpelledItems (next :: others) body) :
      SpelledItems (item :: next :: others) (before ++ text ++ after ++ ',' :: body)

inductive SpelledMembers : List (String × Value) → List Char → Prop
  | none {gap : List Char} (blank : IsGap gap) : SpelledMembers [] gap
  | last {member : String × Value} {piece : List Char} (here : SpelledMember member piece) :
      SpelledMembers [member] piece
  | more {member next : String × Value} {others : List (String × Value)} {piece body : List Char}
      (here : SpelledMember member piece) (later : SpelledMembers (next :: others) body) :
      SpelledMembers (member :: next :: others) (piece ++ ',' :: body)

inductive SpelledMember : String × Value → List Char → Prop
  | named {name : String} {value : Value} {before quoted colon behind text after : List Char}
      (blank_before : IsGap before) (name_spelled : Quoted name quoted) (blank_colon : IsGap colon)
      (blank_behind : IsGap behind) (spelled : Spelled value text) (blank_after : IsGap after) :
      SpelledMember (name, value)
        (before ++ quoted ++ colon ++ ':' :: (behind ++ text ++ after))

end

mutual

theorem Written.spelled {value : Value} {text : List Char} : Written value text → Spelled value text
  | .null => .null
  | .boolean flag => .boolean flag
  | .integer number => .integer number
  | .text characters => .text (quoted_writeText characters)
  | .list inside => .list inside.spelled
  | .object inside => .object inside.spelled

theorem WrittenItems.spelled {items : List Value} {body : List Char} :
    WrittenItems items body → SpelledItems items body
  | .none blank => .none blank
  | .last before written after => .last before written.spelled after
  | .more before written after later => .more before written.spelled after later.spelled

theorem WrittenMembers.spelled {members : List (String × Value)} {body : List Char} :
    WrittenMembers members body → SpelledMembers members body
  | .none blank => .none blank
  | .last here => .last here.spelled
  | .more here later => .more here.spelled later.spelled

theorem WrittenMember.spelled {member : String × Value} {piece : List Char} :
    WrittenMember member piece → SpelledMember member piece
  | .named name before colon behind written after =>
    .named before (quoted_writeText name) colon behind written.spelled after

end

end StylesheetRunner.Json
