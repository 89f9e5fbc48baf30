import StylesheetRunner.History
import StylesheetRunner.Proofs.History.Instants
import StylesheetRunner.Proofs.Records.RoundTrip

/-!
Rows of the history as a client reads them: by their members, all of which must be there, and with
the time that its text says. What the service writes of a row is read back as the row.
-/

namespace StylesheetRunner

open Json

namespace HistoryRow

def readInstant : Reader Instant := fun bytes =>
  match readString bytes with
  | .ok (text, rest) =>
    match Instant.ofText? text.toList with
    | some instant => .ok (instant, rest)
    | none => .error (.before .expectedValue rest)
  | .error fault => .error fault

structure Draft where
  id : Option UInt64
  user : Option String
  xslt : Option String
  parameters : Option TextMap
  note : Option String
  createdAt : Option Instant

def present {α : Type} (name : String) (member : Option α) : Except String α :=
  member.elim (.error name) .ok

def shape : RecordShape Draft HistoryRow where
  name := "Transformation"
  blank := ⟨none, none, none, none, none, none⟩
  slots :=
    [.ofMember "id" false Draft.id (fun held value => { held with id := some value })
      (readWord64 "u64"),
    .ofMember "user_id" false Draft.user (fun held value => { held with user := some value })
      readString,
    .ofMember "xslt" false Draft.xslt (fun held value => { held with xslt := some value })
      readString,
    .ofMember "parameters" false Draft.parameters
      (fun held value => { held with parameters := some value }) readTextMap,
    .ofMember "note" false Draft.note (fun held value => { held with note := some value })
      readString,
    .ofMember "created_at" false Draft.createdAt
      (fun held value => { held with createdAt := some value }) readInstant]
  finish held := do
    let id ← present "id" held.id
    let user ← present "user_id" held.user
    let xslt ← present "xslt" held.xslt
    let parameters ← present "parameters" held.parameters
    let note ← present "note" held.note
    let createdAt ← present "created_at" held.createdAt
    return ⟨id, user, ⟨xslt, parameters, note⟩, createdAt⟩

def read (text : List UInt8) : Except Fault HistoryRow :=
  readWhole shape.reader text

def readAll (text : List UInt8) : Except Fault (List HistoryRow) :=
  readWhole (readList shape.reader) text

def schema : Schema := shape.schema fun name => if name = "parameters" then .map else .plain

def partly (row : HistoryRow) (names : List String) : Draft where
  id := heldOnce "id" row.id names
  user := heldOnce "user_id" row.user names
  xslt := heldOnce "xslt" row.record.xslt names
  parameters := heldOnce "parameters" row.record.parameters names
  note := heldOnce "note" row.record.note names
  createdAt := heldOnce "created_at" row.createdAt names

theorem takes_instant {instant : Instant} {text : String}
    (told : Instant.ofText? text.toList = some instant) :
    readInstant.Takes (.text text) instant := by
  intro bytes spelled gap rest blank ends
  have read := takes_string text spelled blank ends
  simp only [readInstant, read, told]

theorem takes_rearranged {row : HistoryRow} {value : Value}
    (rearranged : schema.Rearranged row.toValue value) : shape.reader.Takes value row := by
  refine RecordShape.takes_rearranged row.partly rfl rearranged (by simp [HistoryRecord.members])
    ?_ ?_
  · intro member mem value inside
    simp only [HistoryRecord.members, List.cons_append, List.nil_append, List.mem_cons,
      List.not_mem_nil, or_false] at mem
    rcases mem with rfl | rfl | rfl | rfl | rfl | rfl
    · exact RecordShape.recalls_ofMember rfl (fun _ => rfl) (fun _ => by simp [partly])
        (takes_plain (takes_word64 "u64" _) inside)
    · exact RecordShape.recalls_ofMember rfl (fun _ => rfl) (fun _ => by simp [partly])
        (takes_plain (takes_string _) inside)
    · exact RecordShape.recalls_ofMember rfl (fun _ => rfl) (fun _ => by simp [partly])
        (takes_plain (takes_string _) inside)
    · exact RecordShape.recalls_ofMember rfl (fun _ => rfl) (fun _ => by simp [partly])
        (takes_rearranged_textMap inside)
    · exact RecordShape.recalls_ofMember rfl (fun _ => rfl) (fun _ => by simp [partly])
        (takes_plain (takes_string _) inside)
    · exact RecordShape.recalls_ofMember rfl (fun _ => rfl) (fun _ => by simp [partly])
        (takes_plain (takes_instant row.createdAt.ofText?_text) inside)
  · intro names same
    simp [shape, partly, present, heldOnce, same.mem_iff, HistoryRecord.members]
    rfl

theorem takes_toValue (row : HistoryRow) : shape.reader.Takes row.toValue row :=
  takes_rearranged (schema.rearranged_self row.toValue)

theorem read_compact (row : HistoryRow) :
    read (Text.Utf8.encode row.toValue.compact) = .ok row :=
  readWhole_of_written (takes_toValue row) (written_compact _)

theorem readAll_compact (rows : List HistoryRow) :
    readAll (Text.Utf8.encode (Value.list (rows.map toValue)).compact) = .ok rows :=
  readWhole_of_written
    (takes_list (List.forall₂_map_left_iff.mpr
      (List.forall₂_same.mpr fun row _ => takes_toValue row)))
    (written_compact _)

end HistoryRow

end StylesheetRunner
