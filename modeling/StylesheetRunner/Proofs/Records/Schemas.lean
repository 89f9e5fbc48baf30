import StylesheetRunner.Configuration.Format
import StylesheetRunner.History.Record
import StylesheetRunner.Proofs.Json.Records
import StylesheetRunner.Transformation.Request
import StylesheetRunner.Transformation.Result

/-!
How each record of the service may be rearranged in writing, and what its drafts hold on the way
through the members.
-/

namespace StylesheetRunner

open Json

theorem Json.takes_plain {α : Type} {reader : Reader α} {data : α} {written value : Value}
    (takes : reader.Takes written data) (rearranged : Schema.plain.Rearranged written value) :
    reader.Takes value data := by
  obtain rfl : value = written := by cases written <;> exact rearranged
  exact takes

theorem Json.takes_rearranged_textMap {map : TextMap} {value : Value}
    (rearranged : Schema.map.Rearranged
      (.object (map.entries.map fun entry => (entry.1, .text entry.2))) value) :
    readTextMap.Takes value map := by
  cases value with
  | object others =>
    obtain ⟨entries, rfl, same⟩ :=
      (congrFun₂ (List.eq_map_comp_perm _) others map.entries).mpr rearranged
    exact takes_textMap same
  | _ => cases rearranged

namespace TraceEntry

def schema : Schema := shape.schema fun _ => .plain

def partly (entry : TraceEntry) (names : List String) : Draft where
  name := heldOnce "name" entry.name names
  value := heldOnce "value" entry.value names

theorem takes_rearranged {entry : TraceEntry} {value : Value}
    (rearranged : schema.Rearranged entry.toValue value) : shape.reader.Takes value entry := by
  refine RecordShape.takes_rearranged entry.partly rfl rearranged (by simp) ?_ ?_
  · intro member mem value inside
    rcases List.mem_pair.mp mem with rfl | rfl
    all_goals
      exact RecordShape.recalls_ofMember rfl (fun _ => rfl) (fun _ => by simp [partly])
        (takes_plain (takes_string _) inside)
  · intro names same
    simp [shape, partly, heldOnce, same.mem_iff]

end TraceEntry

namespace HistorySettings

def schema : Schema := shape.schema fun name => if name = "tokens" then .map else .plain

def partly (settings : HistorySettings) (names : List String) : Draft where
  enabled := heldOnce "enabled" settings.enabled names
  tokens := heldOnce "tokens" settings.tokens names

theorem takes_rearranged {settings : HistorySettings} {value : Value}
    (rearranged : schema.Rearranged settings.toValue value) :
    shape.reader.Takes value settings := by
  refine RecordShape.takes_rearranged settings.partly rfl rearranged (by simp) ?_ ?_
  · intro member mem value inside
    rcases List.mem_pair.mp mem with rfl | rfl
    · exact RecordShape.recalls_ofMember rfl (fun _ => rfl) (fun _ => by simp [partly])
        (takes_plain (takes_boolean _) inside)
    · exact RecordShape.recalls_ofMember rfl (fun _ => rfl) (fun _ => by simp [partly])
        (takes_rearranged_textMap inside)
  · intro names same
    simp [shape, partly, heldOnce, same.mem_iff]

end HistorySettings

namespace Request

def schema : Schema := shape.schema fun name => if name = "parameters" then .map else .plain

/-- A draft holds the version as what stands for it in the request: it may be read or absent. -/
def partly (request : Request) (names : List String) : Draft where
  xslt := heldOnce "xslt" request.xslt names
  version := heldOnce "version" request.version names
  parameters := heldOnce "parameters" request.parameters names
  trace := heldOnce "trace" request.trace names

theorem takes_rearranged {request : Request} {value : Value}
    (rearranged : schema.Rearranged request.toValue value) : shape.reader.Takes value request := by
  obtain ⟨xslt, version, parameters, trace⟩ := request
  refine RecordShape.takes_rearranged (partly ⟨xslt, version, parameters, trace⟩) rfl rearranged
    ?_ ?_ ?_
  · cases version <;> simp
  · intro member mem value inside
    simp only [List.mem_append, List.mem_map, Option.mem_toList, List.mem_cons, List.not_mem_nil,
      or_false] at mem
    rcases mem with (rfl | ⟨text, rfl, rfl⟩) | rfl | rfl
    · exact RecordShape.recalls_ofMember rfl (fun _ => rfl) (fun _ => by simp [partly])
        (takes_plain (takes_string _) inside)
    · exact RecordShape.recalls_ofMember rfl (fun _ => rfl) (fun _ => by simp [partly])
        (takes_plain (takes_optional (takes_string _)) inside)
    · exact RecordShape.recalls_ofMember rfl (fun _ => rfl) (fun _ => by simp [partly])
        (takes_rearranged_textMap inside)
    · exact RecordShape.recalls_ofMember rfl (fun _ => rfl) (fun _ => by simp [partly])
        (takes_plain (takes_boolean _) inside)
  · intro names same
    cases version <;> simp [shape, partly, heldOnce, same.mem_iff, blank]

end Request

namespace HistoryRecord

def schema : Schema := shape.schema fun name => if name = "parameters" then .map else .plain

def partly (record : HistoryRecord) (names : List String) : Draft where
  xslt := heldOnce "xslt" record.xslt names
  parameters := heldOnce "parameters" record.parameters names
  note := heldOnce "note" record.note names

theorem takes_rearranged {record : HistoryRecord} {value : Value}
    (rearranged : schema.Rearranged record.toValue value) : shape.reader.Takes value record := by
  refine RecordShape.takes_rearranged record.partly rfl rearranged (by simp [members]) ?_ ?_
  · intro member mem value inside
    simp only [members, List.mem_cons, List.not_mem_nil, or_false] at mem
    rcases mem with rfl | rfl | rfl
    · exact RecordShape.recalls_ofMember rfl (fun _ => rfl) (fun _ => by simp [partly])
        (takes_plain (takes_string _) inside)
    · exact RecordShape.recalls_ofMember rfl (fun _ => rfl) (fun _ => by simp [partly])
        (takes_rearranged_textMap inside)
    · exact RecordShape.recalls_ofMember rfl (fun _ => rfl) (fun _ => by simp [partly])
        (takes_plain (takes_string _) inside)
  · intro names same
    simp [shape, partly, heldOnce, same.mem_iff, members]

end HistoryRecord

namespace Result

def schema : Schema :=
  shape.schema fun name => if name = "trace" then .list TraceEntry.schema else .plain

def partly (result : Result) (names : List String) : Draft where
  result := heldOnce "result" result.result names
  durationMilliseconds := heldOnce "duration_ms" result.durationMilliseconds names
  trace := heldOnce "trace" result.trace names
  traceText := heldOnce "trace_text" result.traceText names

theorem takes_rearranged_trace {entries : List TraceEntry} {value : Value}
    (rearranged : (Schema.list TraceEntry.schema).Rearranged
      (.list (entries.map TraceEntry.toValue)) value) :
    (readList TraceEntry.shape.reader).Takes value entries := by
  cases value with
  | list others =>
    have each := List.forall₂_map_left_iff.mp rearranged
    exact takes_list (each.flip.imp fun _ _ inside => TraceEntry.takes_rearranged inside)
  | _ => cases rearranged

theorem takes_rearranged {result : Result} {value : Value}
    (rearranged : schema.Rearranged result.toValue value) : shape.reader.Takes value result := by
  refine RecordShape.takes_rearranged result.partly rfl rearranged ?_ ?_ ?_
  · split <;> split <;> simp
  · intro member mem value inside
    simp only [List.mem_append, List.mem_cons, List.not_mem_nil, or_false, List.mem_ite_nil_left]
      at mem
    rcases mem with ((rfl | rfl) | ⟨-, rfl⟩) | ⟨-, rfl⟩
    · exact RecordShape.recalls_ofMember rfl (fun _ => rfl) (fun _ => by simp [partly])
        (takes_plain (takes_string _) inside)
    · exact RecordShape.recalls_ofMember rfl (fun _ => rfl) (fun _ => by simp [partly])
        (takes_plain (takes_word64 "u64" _) inside)
    · exact RecordShape.recalls_ofMember rfl (fun _ => rfl) (fun _ => by simp [partly])
        (takes_rearranged_trace inside)
    · exact RecordShape.recalls_ofMember rfl (fun _ => rfl) (fun _ => by simp [partly])
        (takes_plain (takes_string _) inside)
  · intro names same
    have lists : "trace" ∈ names ↔ result.trace ≠ [] := by
      rw [same.mem_iff]
      split <;> split <;> simp [*]
    have text : "trace_text" ∈ names ↔ result.traceText ≠ "" := by
      rw [same.mem_iff]
      split <;> split <;> simp [*]
    have first : "result" ∈ names := same.mem_iff.mpr (by simp)
    have second : "duration_ms" ∈ names := same.mem_iff.mpr (by simp)
    -- A member that was left out has the value that the reader gives to a missing one.
    have restored {α : Type} [DecidableEq α] (value absent : α) :
        (if value = absent then none else some value).getD absent = value := by
      split
      next left_out => exact left_out.symm
      next => rfl
    simp [shape, partly, heldOnce, first, second, lists, text, restored]

end Result

namespace Configuration

def schema : Schema :=
  shape.schema fun name => if name = "history" then HistorySettings.schema else .plain

def memberSchema (name : String) : Schema :=
  if name = "history" then HistorySettings.schema else .plain

def partly (configuration : Configuration) (names : List String) : Draft where
  port := heldOnce "port" configuration.port names
  classpath := heldOnce "saxon_classpath" configuration.classpath names
  launcher := heldOnce "java_bin" configuration.launcher names
  launcherArguments := heldOnce "launcher_args" configuration.launcherArguments names
  entryPoint := heldOnce "entry_point" configuration.entryPoint names
  timeoutMilliseconds := heldOnce "timeout_ms" configuration.timeoutMilliseconds names
  bodyLimit := heldOnce "max_body_bytes" configuration.bodyLimit names
  history := heldOnce "history" configuration.history names

theorem takes_port (port : UInt16) : readPort.Takes (.natural port.toNat) port := by
  rintro _ ⟨_, ⟨_⟩, rfl⟩ gap rest blank ends
  have in_range : port.toNat ≤ Text.portLimit := Nat.le_of_lt_succ port.toNat_lt
  have small : port.toNat ≤ Text.wordLimit := Nat.le_trans in_range (by decide)
  change readPort (gap ++ (Text.Utf8.encode (Text.naturalText port.toNat) ++ rest)) = _
  rw [encode_naturalText]
  unfold readPort
  rw [innerDepth, readUntyped_numeral small 126 blank ends]
  simp only [if_pos in_range, UInt16.ofNat_toNat]

theorem takes_texts (texts : List String) :
    (readList readString).Takes (.list (texts.map .text)) texts :=
  takes_list (List.forall₂_map_left_iff.mpr (List.forall₂_same.mpr fun text _ => takes_string text))

theorem recalls {configuration : Configuration} {members : List (String × Value)}
    (written : configuration.toValue = .object members) {member : String × Value}
    (mem : member ∈ members) {value : Value}
    (inside : (memberSchema member.1).Rearranged member.2 value) :
    shape.Recalls configuration.partly (member.1, value) := by
  cases written
  simp only [List.mem_cons, List.not_mem_nil, or_false] at mem
  rcases mem with rfl | rfl | rfl | rfl | rfl | rfl | rfl | rfl
  · exact RecordShape.recalls_ofMember rfl (fun _ => rfl) (fun _ => by simp [partly])
      (takes_plain (takes_port _) inside)
  · exact RecordShape.recalls_ofMember rfl (fun _ => rfl) (fun _ => by simp [partly])
      (takes_plain (takes_string _) inside)
  · exact RecordShape.recalls_ofMember rfl (fun _ => rfl) (fun _ => by simp [partly])
      (takes_plain (takes_string _) inside)
  · exact RecordShape.recalls_ofMember rfl (fun _ => rfl) (fun _ => by simp [partly])
      (takes_plain (takes_texts _) inside)
  · exact RecordShape.recalls_ofMember rfl (fun _ => rfl) (fun _ => by simp [partly])
      (takes_plain (takes_string _) inside)
  · exact RecordShape.recalls_ofMember rfl (fun _ => rfl) (fun _ => by simp [partly])
      (takes_plain (takes_word64 "u64" _) inside)
  · exact RecordShape.recalls_ofMember rfl (fun _ => rfl) (fun _ => by simp [partly])
      (takes_plain (takes_word64 "usize" _) inside)
  · exact RecordShape.recalls_ofMember rfl (fun _ => rfl) (fun _ => by simp [partly])
      (HistorySettings.takes_rearranged inside)

theorem takes_rearranged {configuration : Configuration} {value : Value}
    (rearranged : schema.Rearranged configuration.toValue value) :
    shape.reader.Takes value configuration := by
  refine RecordShape.takes_rearranged configuration.partly rfl rearranged (by simp)
    (fun member mem value inside => recalls rfl mem inside) ?_
  intro names same
  simp [shape, partly, heldOnce, same.mem_iff, Draft.complete]

end Configuration

end StylesheetRunner
