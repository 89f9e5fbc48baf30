import StylesheetRunner.Proofs.Json.Records

/-!
Written values that a reader refuses, however they are spelled and whatever stands around them. A
record with a member that is refused is refused as a whole: what is right about its other members
does not help, in whichever order they stand.
-/

namespace StylesheetRunner.Json

open Text.Utf8

def Reader.Rejects {α : Type} (reader : Reader α) (bytes : List UInt8) : Prop :=
  ∀ ⦃gap rest : List UInt8⦄, IsBlank gap → EndsValue rest →
    ∃ fault, reader (gap ++ (bytes ++ rest)) = .error fault

/-- The reader finds a fault in each text of a value. -/
def Reader.Refuses {α : Type} (reader : Reader α) (value : Value) : Prop :=
  ∀ ⦃bytes⦄, Form.spelled bytes value → reader.Rejects bytes

theorem readWhole_refused {α : Type} {reader : Reader α} {value : Value} {text : List Char}
    (refuses : reader.Refuses value) {before after : List Char} (spelled : Spelled value text)
    (blank_before : IsGap before) (blank_after : IsGap after) :
    ∃ fault, readWhole reader (encode (before ++ text ++ after)) = .error fault := by
  have ends := endsValue_nil.behind_blank (isBlank_encode blank_after)
  rw [List.append_nil] at ends
  obtain ⟨fault, read⟩ := refuses ⟨text, spelled, rfl⟩ (isBlank_encode blank_before) ends
  refine ⟨fault, ?_⟩
  unfold readWhole
  rw [List.append_assoc, encode_append, encode_append, read]

namespace RecordShape

variable {draft record : Type} {shape : RecordShape draft record} {partly : List String → draft}

/-- Whether the member stands for a slot that rejects its bytes, whatever the draft holds. -/
def Rejects (shape : RecordShape draft record) (member : String × List UInt8) : Prop :=
  ∃ slot, (shape.slots.find? fun slot => slot.name = member.1) = some slot ∧
    ∀ held, Reader.Rejects (slot.read held) member.2

/-- Whether the member stands for a slot that refuses its value, whatever the draft holds. -/
def Refuses (shape : RecordShape draft record) (member : String × Value) : Prop :=
  ∃ slot, (shape.slots.find? fun slot => slot.name = member.1) = some slot ∧
    ∀ held, Reader.Refuses (slot.read held) member.2

theorem refuses_ofMember {α : Type} {name : String} {value : Value} {mayBeAbsent : Bool}
    {held : draft → Option α} {fill : draft → α → draft} {reader : Reader α}
    (found : (shape.slots.find? fun slot => slot.name = name) =
      some (.ofMember name mayBeAbsent held fill reader))
    (refuses : reader.Refuses value) : shape.Refuses (name, value) := by
  refine ⟨_, found, fun partial_draft bytes spelled gap rest blank ends => ?_⟩
  obtain ⟨fault, read⟩ := refuses spelled blank ends
  exact ⟨fault, by simp only [Slot.ofMember, read]⟩

section Members
variable {first : Bool} {member : String × List UInt8} {members : List (String × List UInt8)}
  {pieces : List (List UInt8)} {piece lead body rest : List UInt8} {names : List String}

theorem readObjectWithin_rejected_member (bound : Nat) (leads : Leads first lead)
    (form : Form.Member .text piece member) (rejects : shape.Rejects member) (held : draft)
    (ends : EndsValue rest) :
    ∃ fault, shape.readObjectWithin (bound + 1) first held (lead ++ (piece ++ rest)) =
      .error fault := by
  obtain ⟨slot, found, rejects⟩ := rejects
  cases form with
  | named spelled blank_before blank_behind =>
    obtain ⟨fault, read⟩ := rejects held blank_behind ends
    simp only [List.append_assoc, List.cons_append]
    rw [readObjectWithin, nextKey_leads leads spelled]
    simp only [found]
    split
    next => exact ⟨_, rfl⟩
    next => exact ⟨fault, by simp only [readColon_written blank_before, read]⟩

theorem readObjectWithin_rejected {bound : Nat} (row : Row first pieces body)
    (forms : List.Forall₂ (Form.Member .text) pieces members)
    (outcome : ∀ member ∈ members, member.1 ∈ shape.names →
      shape.Keeps partly member ∨ shape.Rejects member)
    (passable : ∀ member ∈ members, member.1 ∉ shape.names → Passable member.2)
    (rejected : ∃ member ∈ members, shape.Rejects member)
    (distinct : (shape.known members ++ names).Nodup) (enough : pieces.length < bound)
    (rest : List UInt8) :
    ∃ fault, shape.readObjectWithin bound first (partly names) (body ++ byteOf '}' :: rest) =
      .error fault := by
  -- By induction on the row, from any draft that the names read so far describe.
  induction row generalizing names members bound with
  | nil =>
    cases forms
    obtain ⟨member, mem, -⟩ := rejected
    cases mem
  | cons leads later ih =>
    obtain ⟨fewer, rfl⟩ := Nat.exists_eq_add_of_le' (Nat.zero_lt_of_lt enough)
    cases forms with
    | @cons _ member _ _ form forms =>
      obtain ⟨outcome_here, outcome_later⟩ := List.forall_mem_cons.mp outcome
      obtain ⟨passable_here, passable_later⟩ := List.forall_mem_cons.mp passable
      have ends := later.endsValue (.inr (.inr rfl)) rest
      rw [List.append_assoc, List.append_assoc]
      by_cases here : shape.Rejects member
      · exact readObjectWithin_rejected_member fewer leads form here _ ends
      · have keeps : member.1 ∈ shape.names → shape.Keeps partly member := fun known =>
          (outcome_here known).resolve_right here
        obtain ⟨other, mem, rejects⟩ := rejected
        have rejected_later : ∃ member ∈ _, shape.Rejects member :=
          ⟨other, (List.mem_cons.mp mem).resolve_left fun same => here (same ▸ rejects), rejects⟩
        obtain ⟨names', distinct, -, read⟩ := readObjectWithin_member fewer leads form keeps
          passable_here distinct ends
        rw [read]
        exact ih forms outcome_later passable_later rejected_later distinct
          (Nat.lt_of_succ_lt_succ enough)

end Members

/-- A record is refused if one of its members is, and the others that it knows are taken or
refused too. -/
theorem refuses_object {members : List (String × Value)} (start : partly [] = shape.blank)
    (outcome : ∀ member ∈ members, member.1 ∈ shape.names →
      shape.Recalls partly member ∨ shape.Refuses member)
    (refused : ∃ member ∈ members, shape.Refuses member)
    (distinct : (shape.known members).Nodup) : shape.reader.Refuses (.object members) := by
  rintro _ ⟨text, spelled, rfl⟩ gap rest blank ends
  obtain ⟨named, ⟨pieces, body, row, forms, same_bytes⟩, each⟩ := spelled.object_form
  have same : shape.known named = shape.known members := known_eq_of_related each
  have outcome_named : ∀ piece ∈ named, piece.1 ∈ shape.names →
      shape.Keeps partly piece ∨ shape.Rejects piece := by
    intro piece mem is_known
    obtain ⟨member, in_members, same_name, here⟩ := exists_related_of_mem each mem
    rcases outcome member in_members (same_name ▸ is_known) with
      ⟨slot, found, keeps⟩ | ⟨slot, found, refuses⟩
    · exact .inl ⟨slot, same_name ▸ found, keeps _ here⟩
    · exact .inr ⟨slot, same_name ▸ found, fun held => refuses held here⟩
  have rejected : ∃ piece ∈ named, shape.Rejects piece := by
    obtain ⟨member, mem, slot, found, refuses⟩ := refused
    obtain ⟨piece, in_named, same_name, here⟩ := exists_related_of_mem each.flip mem
    exact ⟨piece, in_named, slot, same_name ▸ found, fun held => refuses held here⟩
  have passable : ∀ piece ∈ named, piece.1 ∉ shape.names → Passable piece.2 := by
    intro piece mem _
    obtain ⟨member, -, -, here⟩ := exists_related_of_mem each mem
    exact passable_of_form here
  have fewer := row.length_le fun piece member => by
    obtain ⟨_, -, form⟩ := exists_related_of_mem forms member
    exact form.length_pos
  have enough : pieces.length < (body ++ byteOf '}' :: rest).length + 1 := by
    simp only [List.length_append]
    omega
  obtain ⟨fault, read⟩ := readObjectWithin_rejected row forms outcome_named passable rejected
    (by rw [List.append_nil, same]; exact distinct) enough rest
  rw [start] at read
  refine ⟨placeInObject fault, ?_⟩
  unfold reader
  rw [same_bytes, List.cons_append, List.append_assoc, readByFirst_of_shown blank (by decide)]
  simp only [if_true, List.singleton_append, read, finishScan, closeObject]

end RecordShape

end StylesheetRunner.Json
