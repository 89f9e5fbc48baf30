import StylesheetRunner.Proofs.Records.Schemas

/-!
Records come back from writing. The texts of a record are those of its value, on one line or over
several, and those of every value that rearranges it: with the members of its objects in any order,
and with members that a record does not know added to it.
-/

namespace StylesheetRunner

open Json Text.Utf8

def ReadsBack {α : Type} (schema : Schema) (toValue : α → Value)
    (read : List UInt8 → Except Fault α) : Prop :=
  ∀ record,
    read (encode (toValue record).compact) = .ok record ∧
    read (encode (toValue record).pretty) = .ok record ∧
    ∀ value before text after, schema.Rearranged (toValue record) value → Written value text →
      IsGap before → IsGap after → read (encode (before ++ text ++ after)) = .ok record

theorem Json.Schema.rearranged_self (schema : Schema) (value : Value) :
    schema.Rearranged value value := by
  induction schema generalizing value with
  | plain => cases value <;> exact rfl
  | map => cases value with
    | object members => exact .refl members
    | _ => exact rfl
  | list item ih => cases value with
    | list items => exact List.forall₂_same.mpr fun inside _ => ih inside
    | _ => exact rfl
  | record names inner ih => cases value with
    | object members =>
      refine ⟨members, [], List.forall₂_same.mpr fun member _ => ⟨rfl, ih _ _⟩, nofun, ?_⟩
      rw [List.append_nil]
    | _ => exact rfl

theorem readsBack_of_takes {α : Type} {reader : Reader α} {schema : Schema} {toValue : α → Value}
    (takes : ∀ {record value}, schema.Rearranged (toValue record) value →
      reader.Takes value record) : ReadsBack schema toValue (readWhole reader) := by
  intro record
  have own := takes (schema.rearranged_self (toValue record))
  exact ⟨readWhole_of_written own (written_compact _), readWhole_of_written own (written_pretty _),
    fun value before text after rearranged written blank_before blank_after =>
      readWhole_written (takes rearranged) written blank_before blank_after⟩

/-- Requests, history records, results and settings are read back from all their texts. -/
theorem records_read_back :
    ReadsBack Request.schema Request.toValue Request.read ∧
    ReadsBack HistoryRecord.schema HistoryRecord.toValue HistoryRecord.read ∧
    ReadsBack Result.schema Result.toValue Result.read ∧
    ReadsBack Configuration.schema Configuration.toValue Configuration.read :=
  ⟨readsBack_of_takes Request.takes_rearranged, readsBack_of_takes HistoryRecord.takes_rearranged,
    readsBack_of_takes Result.takes_rearranged, readsBack_of_takes Configuration.takes_rearranged⟩

/-- A result with its members, and those of its trace entry, in the opposite order behind members
that nothing knows. -/
theorem result_reads_back_reversed :
    Result.read (encode (Value.object
      [("stats", .object [("lines", .list [.null, .integer (-7)])]),
        ("trace", .list
          [.object [("level", .boolean true), ("value", .text "1\n"), ("name", .text "größe")]]),
        ("duration_ms", .natural 18446744073709551615), ("result", .text "<a/>")]).pretty) =
      .ok ⟨"<a/>", 18446744073709551615, [⟨"größe", "1\n"⟩], ""⟩ := by
  let entry : List (String × Value) := [("name", .text "größe"), ("value", .text "1\n")]
  let level : String × Value := ("level", .boolean true)
  let stats : String × Value := ("stats", .object [("lines", .list [.null, .integer (-7)])])
  have in_entry : TraceEntry.schema.Rearranged (.object entry)
      (.object (entry ++ [level]).reverse) :=
    ⟨entry, [level], .cons ⟨rfl, rfl⟩ (.cons ⟨rfl, rfl⟩ .nil), by decide, List.reverse_perm _⟩
  have rearranged : Result.schema.Rearranged
      (Result.toValue ⟨"<a/>", 18446744073709551615, [⟨"größe", "1\n"⟩], ""⟩)
      (.object [stats, ("trace", .list [.object (entry ++ [level]).reverse]),
        ("duration_ms", .natural 18446744073709551615), ("result", .text "<a/>")]) :=
    ⟨[("result", .text "<a/>"), ("duration_ms", .natural 18446744073709551615),
        ("trace", .list [.object (entry ++ [level]).reverse])], [stats],
      .cons ⟨rfl, rfl⟩ (.cons ⟨rfl, rfl⟩ (.cons ⟨rfl, .cons in_entry .nil⟩ .nil)),
      by decide, List.reverse_perm [_, _, _, _]⟩
  have read := (records_read_back.2.2.1 ⟨"<a/>", 18446744073709551615, [⟨"größe", "1\n"⟩], ""⟩).2.2
    _ [] _ [] rearranged (written_pretty _) isGap_nil isGap_nil
  rwa [List.nil_append, List.append_nil] at read

end StylesheetRunner
