import StylesheetRunner.Proofs.Json.RecordForms
import StylesheetRunner.Proofs.Records.Schemas

/-!
What a body says. A request or a history record is read from a body exactly when the body says it,
member by member, and any other body is refused; whatever is left out has its default.
-/

namespace StylesheetRunner

open Json

theorem eq_ok_of_toOption {fault α : Type} {outcome : Except fault α} {value : α}
    (found : outcome.toOption = some value) : outcome = .ok value := by
  cases outcome with
  | error fault => cases found
  | ok read => exact congrArg Except.ok (Option.some.inj found)

namespace Request

structure Told (members : List (String × List UInt8)) (request : Request) : Prop where
  xslt : Given members "xslt" .text "" request.xslt
  version : Given members "version" (.optional .text) none request.version
  parameters : Given members "parameters" .textMap .empty request.parameters
  trace : Given members "trace" .boolean false request.trace

def form : Form Request := fun bytes request =>
  ∃ members, Form.record ["xslt", "version", "parameters", "trace"] bytes members ∧
    Told members request

def WrittenIn (body : List UInt8) (request : Request) : Prop :=
  form.alone body request

theorem reads_version : (readOptional readString).Reads (.optional .text) := by
  refine reads_optional reads_string fun bytes text form => ?_
  obtain ⟨others, rfl⟩ := opened_text form
  rw [List.head?_cons]
  decide

structure Keeps (members : List (String × List UInt8)) (held : Draft) : Prop where
  xslt : Holds members "xslt" .text held.xslt
  version : Holds members "version" (.optional .text) held.version
  parameters : Holds members "parameters" .textMap held.parameters
  trace : Holds members "trace" .boolean held.trace

theorem tracks : shape.Tracks Keeps where
  start := ⟨List.not_mem_nil, List.not_mem_nil, List.not_mem_nil, List.not_mem_nil⟩
  known := by
    intro members held slot bytes held' rest mem before read
    obtain ⟨xslt, version, parameters, trace⟩ := before
    simp only [shape, List.mem_cons, List.not_mem_nil, or_false] at mem
    rcases mem with rfl | rfl | rfl | rfl
    · obtain ⟨gap, own, data, blank, here, rfl, split⟩ := exists_of_read_ofMember reads_string read
      exact ⟨gap, own, blank, ⟨holds_of_form here, version.behind_other (by decide),
        parameters.behind_other (by decide), trace.behind_other (by decide)⟩, split⟩
    · obtain ⟨gap, own, data, blank, here, rfl, split⟩ := exists_of_read_ofMember reads_version read
      exact ⟨gap, own, blank, ⟨xslt.behind_other (by decide), holds_of_form here,
        parameters.behind_other (by decide), trace.behind_other (by decide)⟩, split⟩
    · obtain ⟨gap, own, data, blank, here, rfl, split⟩ := exists_of_read_ofMember reads_textMap read
      exact ⟨gap, own, blank, ⟨xslt.behind_other (by decide), version.behind_other (by decide),
        holds_of_form here, trace.behind_other (by decide)⟩, split⟩
    · obtain ⟨gap, own, data, blank, here, rfl, split⟩ := exists_of_read_ofMember reads_boolean read
      exact ⟨gap, own, blank, ⟨xslt.behind_other (by decide), version.behind_other (by decide),
        parameters.behind_other (by decide), holds_of_form here⟩, split⟩
  unknown := by
    intro members held name value unknown before
    have other {own : String} (known : own ∈ shape.names) : own ≠ name := by
      rintro rfl
      exact unknown known
    exact ⟨before.xslt.behind_other (other (by decide)),
      before.version.behind_other (other (by decide)),
      before.parameters.behind_other (other (by decide)),
      before.trace.behind_other (other (by decide))⟩
  unfilled := by
    intro members held slot mem before unfilled
    simp only [shape, List.mem_cons, List.not_mem_nil, or_false] at mem
    rcases mem with rfl | rfl | rfl | rfl
    · exact before.xslt.not_mem unfilled
    · exact before.version.not_mem unfilled
    · exact before.parameters.not_mem unfilled
    · exact before.trace.not_mem unfilled

theorem restores {members : List (String × List UInt8)} {request : Request}
    (told : Told members request) (once : (shape.known members).Nodup) :
    shape.Restores members request request.partly where
  start := rfl
  keeps := by
    intro member mem known
    have one_of : member.1 ∈ ["xslt", "version", "parameters", "trace"] := known
    simp only [List.mem_cons, List.not_mem_nil, or_false] at one_of
    rcases one_of with same | same | same | same
    · exact RecordShape.keeps_of_given reads_string told.xslt once mem same rfl (fun _ => rfl)
        fun _ => by simp [partly]
    · exact RecordShape.keeps_of_given reads_version told.version once mem same rfl (fun _ => rfl)
        fun _ => by simp [partly]
    · exact RecordShape.keeps_of_given reads_textMap told.parameters once mem same rfl
        (fun _ => rfl) fun _ => by simp [partly]
    · exact RecordShape.keeps_of_given reads_boolean told.trace once mem same rfl (fun _ => rfl)
        fun _ => by simp [partly]
  finished := by
    intro names all
    have xslt := RecordShape.getD_heldOnce_of_given told.xslt all (by decide)
    have version := RecordShape.getD_heldOnce_of_given told.version all (by decide)
    have parameters := RecordShape.getD_heldOnce_of_given told.parameters all (by decide)
    have trace := RecordShape.getD_heldOnce_of_given told.trace all (by decide)
    simp only [shape, partly, blank, xslt, version, parameters, trace]

theorem reads : shape.reader.Reads form := by
  refine RecordShape.reads_record tracks (by decide) (by decide) ?_ fun members request told once =>
    ⟨_, restores told once⟩
  intro members held request before finished
  cases finished
  exact ⟨before.xslt.given _, before.version.given _, before.parameters.given _,
    before.trace.given _⟩

theorem read_eq_ok_iff {body : List UInt8} {request : Request} :
    read body = .ok request ↔ WrittenIn body request :=
  readWhole_eq_ok_iff reads

end Request

namespace HistoryRecord

structure Told (members : List (String × List UInt8)) (record : HistoryRecord) : Prop where
  xslt : Given members "xslt" .text "" record.xslt
  parameters : Given members "parameters" .textMap .empty record.parameters
  note : Given members "note" .text "" record.note

def form : Form HistoryRecord := fun bytes record =>
  ∃ members, Form.record ["xslt", "parameters", "note"] bytes members ∧ Told members record

def WrittenIn (body : List UInt8) (record : HistoryRecord) : Prop :=
  form.alone body record

structure Keeps (members : List (String × List UInt8)) (held : Draft) : Prop where
  xslt : Holds members "xslt" .text held.xslt
  parameters : Holds members "parameters" .textMap held.parameters
  note : Holds members "note" .text held.note

theorem tracks : shape.Tracks Keeps where
  start := ⟨List.not_mem_nil, List.not_mem_nil, List.not_mem_nil⟩
  known := by
    intro members held slot bytes held' rest mem before read
    obtain ⟨xslt, parameters, note⟩ := before
    simp only [shape, List.mem_cons, List.not_mem_nil, or_false] at mem
    rcases mem with rfl | rfl | rfl
    · obtain ⟨gap, own, data, blank, here, rfl, split⟩ := exists_of_read_ofMember reads_string read
      exact ⟨gap, own, blank, ⟨holds_of_form here, parameters.behind_other (by decide),
        note.behind_other (by decide)⟩, split⟩
    · obtain ⟨gap, own, data, blank, here, rfl, split⟩ := exists_of_read_ofMember reads_textMap read
      exact ⟨gap, own, blank, ⟨xslt.behind_other (by decide), holds_of_form here,
        note.behind_other (by decide)⟩, split⟩
    · obtain ⟨gap, own, data, blank, here, rfl, split⟩ := exists_of_read_ofMember reads_string read
      exact ⟨gap, own, blank, ⟨xslt.behind_other (by decide), parameters.behind_other (by decide),
        holds_of_form here⟩, split⟩
  unknown := by
    intro members held name value unknown before
    have other {own : String} (known : own ∈ shape.names) : own ≠ name := by
      rintro rfl
      exact unknown known
    exact ⟨before.xslt.behind_other (other (by decide)),
      before.parameters.behind_other (other (by decide)),
      before.note.behind_other (other (by decide))⟩
  unfilled := by
    intro members held slot mem before unfilled
    simp only [shape, List.mem_cons, List.not_mem_nil, or_false] at mem
    rcases mem with rfl | rfl | rfl
    · exact before.xslt.not_mem unfilled
    · exact before.parameters.not_mem unfilled
    · exact before.note.not_mem unfilled

theorem restores {members : List (String × List UInt8)} {record : HistoryRecord}
    (told : Told members record) (once : (shape.known members).Nodup) :
    shape.Restores members record record.partly where
  start := rfl
  keeps := by
    intro member mem known
    have one_of : member.1 ∈ ["xslt", "parameters", "note"] := known
    simp only [List.mem_cons, List.not_mem_nil, or_false] at one_of
    rcases one_of with same | same | same
    · exact RecordShape.keeps_of_given reads_string told.xslt once mem same rfl (fun _ => rfl)
        fun _ => by simp [partly]
    · exact RecordShape.keeps_of_given reads_textMap told.parameters once mem same rfl
        (fun _ => rfl) fun _ => by simp [partly]
    · exact RecordShape.keeps_of_given reads_string told.note once mem same rfl (fun _ => rfl)
        fun _ => by simp [partly]
  finished := by
    intro names all
    have xslt := RecordShape.getD_heldOnce_of_given told.xslt all (by decide)
    have parameters := RecordShape.getD_heldOnce_of_given told.parameters all (by decide)
    have note := RecordShape.getD_heldOnce_of_given told.note all (by decide)
    simp only [shape, partly, xslt, parameters, note]

theorem reads : shape.reader.Reads form := by
  refine RecordShape.reads_record tracks (by decide) (by decide) ?_ fun members record told once =>
    ⟨_, restores told once⟩
  intro members held record before finished
  cases finished
  exact ⟨before.xslt.given _, before.parameters.given _, before.note.given _⟩

theorem read_eq_ok_iff {body : List UInt8} {record : HistoryRecord} :
    read body = .ok record ↔ WrittenIn body record :=
  readWhole_eq_ok_iff reads

end HistoryRecord

end StylesheetRunner
