import Mathlib.Data.List.Forall2
import Mathlib.Data.List.Nodup
import Mathlib.Data.List.Perm.Basic
import StylesheetRunner.Proofs.Json.Reading

/-!
Records read from bytes. In an object the members may stand in any order, and members that the
record does not know may stand among them; in a list the values of the first members stand in order.
What a draft holds depends on the names that were read and on nothing else.
-/

namespace StylesheetRunner.Json

open Text.Utf8

/-- How the parts of a value may be rearranged so that it still says the same. -/
inductive Schema where
  | plain
  | map
  | list (item : Schema)
  /-- The members have known names and stand in any order, perhaps with others among them. -/
  | record (names : List String) (inner : String → Schema)

/-- Whether a value can be had from another by rearranging what the schema lets be rearranged, and
by adding members with unknown names to records. -/
def Schema.Rearranged : Schema → Value → Value → Prop
  | .map, .object members, .object others => others.Perm members
  | .list item, .list items, .list others => List.Forall₂ item.Rearranged items others
  | .record names inner, .object members, .object others =>
    ∃ kept added : List (String × Value),
      List.Forall₂ (fun member other => other.1 = member.1 ∧
        (inner member.1).Rearranged member.2 other.2) members kept ∧
      (∀ member ∈ added, member.1 ∉ names) ∧ others.Perm (kept ++ added)
  | _, value, other => other = value

/-- What a draft holds of a member once the members of some names are read. -/
def heldOnce {α : Type} (name : String) (data : α) (names : List String) : Option α :=
  if name ∈ names then some data else none

@[simp]
theorem heldOnce_cons_self {α : Type} (name : String) (data : α) (names : List String) :
    heldOnce name data (name :: names) = some data :=
  if_pos List.mem_cons_self

@[simp]
theorem heldOnce_cons_of_ne {α : Type} {name other : String} (different : name ≠ other) (data : α)
    (names : List String) : heldOnce name data (other :: names) = heldOnce name data names := by
  simp only [heldOnce, List.mem_cons, different, false_or]

/-- Whether reading the bytes leads from the draft that holds the members of some names to the draft
that holds the member of this slot with them. -/
def Slot.Keeps {draft : Type} (slot : Slot draft) (partly : List String → draft)
    (value : List UInt8) : Prop :=
  ∀ names, slot.name ∉ names → slot.isFilled (partly names) = false ∧
    (slot.read (partly names)).Accepts value (partly (slot.name :: names))

theorem Slot.keeps_ofMember {draft α : Type} {partly : List String → draft} {name : String}
    {value : List UInt8} {data : α} {mayBeAbsent : Bool} {held : draft → Option α}
    {fill : draft → α → draft} {reader : Reader α}
    (holds : ∀ names, held (partly names) = heldOnce name data names)
    (fills : ∀ names, fill (partly names) data = partly (name :: names))
    (accepts : reader.Accepts value data) :
    (Slot.ofMember name mayBeAbsent held fill reader).Keeps partly value := by
  intro names absent
  change name ∉ names at absent
  constructor
  · simp only [Slot.ofMember, holds, heldOnce, if_neg absent, Option.isSome_none]
  · intro gap rest blank ends
    simp only [Slot.ofMember, accepts blank ends, fills]

namespace RecordShape

variable {draft record : Type} {shape : RecordShape draft record}
  {partly : List String → draft}

def names (shape : RecordShape draft record) : List String :=
  shape.slots.map Slot.name

def schema (shape : RecordShape draft record) (inner : String → Schema) : Schema :=
  .record shape.names inner

/-- Whether the slot of the member keeps the bytes of its value. -/
def Keeps (shape : RecordShape draft record) (partly : List String → draft)
    (member : String × List UInt8) : Prop :=
  ∃ slot, (shape.slots.find? fun slot => slot.name = member.1) = some slot ∧
    slot.Keeps partly member.2

/-- Whether the member is kept however its value is spelled. -/
def Recalls (shape : RecordShape draft record) (partly : List String → draft)
    (member : String × Value) : Prop :=
  ∃ slot, (shape.slots.find? fun slot => slot.name = member.1) = some slot ∧
    ∀ value, Form.spelled value member.2 → slot.Keeps partly value

def known {α : Type} (shape : RecordShape draft record) (members : List (String × α)) :
    List String :=
  (members.map Prod.fst).filter (· ∈ shape.names)

section Known
variable {α : Type} {member : String × α} {members : List (String × α)}

theorem known_cons_of_mem (mem : member.1 ∈ shape.names) :
    shape.known (member :: members) = member.1 :: shape.known members :=
  List.filter_cons_of_pos (by simpa using mem)

theorem known_cons_of_not_mem (absent : member.1 ∉ shape.names) :
    shape.known (member :: members) = shape.known members :=
  List.filter_cons_of_neg (by simpa using absent)

theorem eq_of_known_nodup {other : String × α} (distinct : (shape.known members).Nodup)
    (mem : member ∈ members) (mem_other : other ∈ members) (is_known : member.1 ∈ shape.names)
    (same : other.1 = member.1) : other = member := by
  unfold known at distinct
  rw [List.filter_map] at distinct
  have known_other : other.1 ∈ shape.names := same ▸ is_known
  exact List.inj_on_of_nodup_map distinct
    (List.mem_filter.mpr ⟨mem_other, decide_eq_true known_other⟩)
    (List.mem_filter.mpr ⟨mem, decide_eq_true is_known⟩) same

end Known

theorem find?_eq_none_of_not_mem {name : String} (absent : name ∉ shape.names) :
    (shape.slots.find? fun slot => slot.name = name) = none := by
  rw [List.find?_eq_none]
  intro slot member same
  exact absent (List.mem_map.mpr ⟨slot, member, of_decide_eq_true same⟩)

theorem name_of_find? {slot : Slot draft} {name : String}
    (found : (shape.slots.find? fun slot => slot.name = name) = some slot) :
    slot.name = name ∧ slot ∈ shape.slots :=
  ⟨by simpa using List.find?_some found, List.mem_of_find?_eq_some found⟩

theorem Recalls.mem_names {member : String × Value} (recalls : shape.Recalls partly member) :
    member.1 ∈ shape.names := by
  obtain ⟨slot, found, -⟩ := recalls
  obtain ⟨same, mem⟩ := name_of_find? found
  exact List.mem_map.mpr ⟨slot, mem, same⟩

theorem recalls_ofMember {α : Type} {name : String} {value : Value} {data : α} {mayBeAbsent : Bool}
    {held : draft → Option α} {fill : draft → α → draft} {reader : Reader α}
    (found : (shape.slots.find? fun slot => slot.name = name) =
      some (.ofMember name mayBeAbsent held fill reader))
    (holds : ∀ names, held (partly names) = heldOnce name data names)
    (fills : ∀ names, fill (partly names) data = partly (name :: names))
    (takes : reader.Takes value data) : shape.Recalls partly (name, value) :=
  ⟨_, found, fun _ spelled => Slot.keeps_ofMember holds fills (takes spelled)⟩

/-! Objects. -/

section Members
variable {first : Bool} {member : String × List UInt8} {members : List (String × List UInt8)}
  {pieces : List (List UInt8)} {piece lead body rest : List UInt8} {names : List String}

theorem readObjectWithin_end {bound : Nat} (enough : 0 < bound) (first : Bool) {gap : List UInt8}
    (blank : IsBlank gap) (held : draft) (rest : List UInt8) :
    shape.readObjectWithin bound first held (gap ++ byteOf '}' :: rest) =
      .ok (held, byteOf '}' :: rest) := by
  obtain ⟨fewer, rfl⟩ := Nat.exists_eq_add_of_le' enough
  rw [readObjectWithin, nextKey_end first blank]

theorem readObjectWithin_member (bound : Nat) (leads : Leads first lead)
    (form : Form.Member .text piece member)
    (keeps : member.1 ∈ shape.names → shape.Keeps partly member)
    (passable : member.1 ∉ shape.names → Passable member.2)
    (distinct : (shape.known (member :: members) ++ names).Nodup) (ends : EndsValue rest) :
    ∃ names', (shape.known members ++ names').Nodup ∧
      (shape.known members).reverse ++ names' =
        (shape.known (member :: members)).reverse ++ names ∧
      shape.readObjectWithin (bound + 1) first (partly names) (lead ++ (piece ++ rest)) =
        shape.readObjectWithin bound false (partly names') rest := by
  cases form with
  | @named name _ before behind value spelled blank_before blank_behind =>
    simp only [List.append_assoc, List.cons_append]
    by_cases mem : name ∈ shape.names
    · -- The name moves from the names to be read to those that were read.
      rw [known_cons_of_mem mem] at distinct ⊢
      have moved := List.perm_middle.nodup_iff.mpr distinct
      have new : name ∉ names := fun present =>
        (List.nodup_cons.mp distinct).1 (List.mem_append_right _ present)
      obtain ⟨slot, found, keeps⟩ := keeps mem
      obtain rfl := (name_of_find? found).1
      obtain ⟨unfilled, accepts⟩ := keeps names new
      refine ⟨slot.name :: names, moved, by simp, ?_⟩
      rw [readObjectWithin, nextKey_leads leads spelled]
      simp only [found, unfilled, Bool.false_eq_true, if_false, readColon_written blank_before,
        accepts blank_behind ends]
    · rw [known_cons_of_not_mem mem] at distinct ⊢
      refine ⟨names, distinct, rfl, ?_⟩
      rw [readObjectWithin, nextKey_leads leads spelled]
      simp only [find?_eq_none_of_not_mem mem, readColon_written blank_before,
        skipValue_passable blank_behind (passable mem) ends]

theorem readObjectWithin_row {bound : Nat} (row : Row first pieces body)
    (forms : List.Forall₂ (Form.Member .text) pieces members)
    (keeps : ∀ member ∈ members, member.1 ∈ shape.names → shape.Keeps partly member)
    (passable : ∀ member ∈ members, member.1 ∉ shape.names → Passable member.2)
    (distinct : (shape.known members ++ names).Nodup) (enough : pieces.length < bound)
    (rest : List UInt8) :
    shape.readObjectWithin bound first (partly names) (body ++ byteOf '}' :: rest) =
      .ok (partly ((shape.known members).reverse ++ names), byteOf '}' :: rest) := by
  -- By induction on the row, from any draft that the names read so far describe.
  induction row generalizing names members bound with
  | nil blank =>
    cases forms
    exact readObjectWithin_end (Nat.zero_lt_of_lt enough) _ blank (partly names) rest
  | cons leads later ih =>
    obtain ⟨fewer, rfl⟩ := Nat.exists_eq_add_of_le' (Nat.zero_lt_of_lt enough)
    cases forms with
    | cons form forms =>
      obtain ⟨keeps_here, keeps_later⟩ := List.forall_mem_cons.mp keeps
      obtain ⟨passable_here, passable_later⟩ := List.forall_mem_cons.mp passable
      obtain ⟨names', distinct, same, read⟩ := readObjectWithin_member fewer leads form keeps_here
        passable_here distinct (later.endsValue (.inr (.inr rfl)) rest)
      rw [List.append_assoc, List.append_assoc, read,
        ih forms keeps_later passable_later distinct (Nat.lt_of_succ_lt_succ enough), same]

theorem accepts_object {bytes : List UInt8} {data : record} (start : partly [] = shape.blank)
    (split : Form.object .text bytes members)
    (keeps : ∀ member ∈ members, member.1 ∈ shape.names → shape.Keeps partly member)
    (passable : ∀ member ∈ members, member.1 ∉ shape.names → Passable member.2)
    (distinct : (shape.known members).Nodup)
    (finished : shape.finish (partly (shape.known members).reverse) = .ok data) :
    shape.reader.Accepts bytes data := by
  intro gap rest blank ends
  obtain ⟨pieces, body, row, forms, rfl⟩ := split
  have fewer := row.length_le fun piece member => by
    obtain ⟨_, -, form⟩ := exists_related_of_mem forms member
    exact form.length_pos
  have enough : pieces.length < (body ++ byteOf '}' :: rest).length + 1 := by
    simp only [List.length_append]
    omega
  have read := readObjectWithin_row row forms keeps passable (by rwa [List.append_nil]) enough rest
  rw [start, List.append_nil] at read
  have closed : closeObject (.ok (data, byteOf '}' :: rest)) = .ok (data, rest) :=
    closeObject_written isBlank_nil rest
  unfold reader
  rw [List.cons_append, List.append_assoc, readByFirst_of_shown blank (by decide)]
  simp only [if_true, List.singleton_append, read, finishScan, complete, finished, closed]

end Members

/-! Lists of the values of the first members. -/

section Values
variable {first : Bool} {slots : List (Slot draft)} {pieces : List (List UInt8)}
  {body rest : List UInt8} {names : List String}

theorem readListFrom_end (may_be_absent : ∀ slot ∈ slots, slot.mayBeAbsent = true) (count : Nat)
    (held : draft) (rest : List UInt8) :
    shape.readListFrom count held slots (byteOf ']' :: rest) = .ok (held, byteOf ']' :: rest) := by
  induction slots generalizing count with
  | nil => rfl
  | cons slot slots ih =>
    obtain ⟨here, later⟩ := List.forall_mem_cons.mp may_be_absent
    have next := nextItem_end (count == 0) isBlank_nil rest
    rw [List.nil_append] at next
    rw [readListFrom, next]
    simp only [here, if_true, ih later]

theorem readListFrom_row {count : Nat} (row : Row first pieces body)
    (is_first : (count == 0) = first)
    (may_be_absent : ∀ slot ∈ slots, slot.mayBeAbsent = true)
    (few : pieces.length ≤ slots.length)
    (each : ∀ pair ∈ slots.zip pieces, Opened pair.2 ∧ pair.1.Keeps partly pair.2)
    (distinct : (slots.map Slot.name ++ names).Nodup) (rest : List UInt8) :
    ∃ gap, IsBlank gap ∧
      shape.readListFrom count (partly names) slots (body ++ byteOf ']' :: rest) =
        .ok (partly (((slots.map Slot.name).take pieces.length).reverse ++ names),
          gap ++ byteOf ']' :: rest) := by
  -- By induction on the slots, from any draft that the names read so far describe.
  induction slots generalizing first count pieces names body with
  | nil =>
    obtain rfl := List.eq_nil_of_length_eq_zero (Nat.le_zero.mp few)
    cases row with
    | nil blank => exact ⟨body, blank, rfl⟩
  | cons slot slots ih =>
    obtain ⟨may_here, may_later⟩ := List.forall_mem_cons.mp may_be_absent
    cases row with
    | nil blank =>
      refine ⟨[], isBlank_nil, ?_⟩
      rw [readListFrom, is_first, nextItem_end _ blank]
      simp only [may_here, if_true, readListFrom_end may_later]
      rfl
    | @cons _ lead piece body pieces leads later =>
      obtain ⟨opened, keeps⟩ : Opened piece ∧ slot.Keeps partly piece :=
        each (slot, piece) List.mem_cons_self
      have each_later : ∀ pair ∈ slots.zip pieces, Opened pair.2 ∧ pair.1.Keeps partly pair.2 :=
        fun pair mem => each pair (List.mem_cons_of_mem _ mem)
      rw [List.map_cons, List.cons_append, List.nodup_cons] at distinct
      obtain ⟨new, distinct_later⟩ := distinct
      have absent : slot.name ∉ names := fun present => new (List.mem_append_right _ present)
      have moved : (slots.map Slot.name ++ slot.name :: names).Nodup :=
        List.perm_middle.nodup_iff.mpr (List.nodup_cons.mpr ⟨new, distinct_later⟩)
      have read := (keeps names absent).2 isBlank_nil (later.endsValue (.inr (.inl rfl)) rest)
      rw [List.nil_append] at read
      obtain ⟨gap, blank, read_later⟩ := @ih _ _ _ _ (count + 1) later rfl may_later
        (Nat.le_of_succ_le_succ few) each_later moved
      refine ⟨gap, blank, ?_⟩
      rw [List.append_assoc, List.append_assoc, readListFrom, is_first, nextItem_leads leads opened]
      simp only [read, read_later, List.map_cons, List.length_cons, List.take_succ_cons,
        List.reverse_cons, List.append_assoc, List.singleton_append]

theorem accepts_values {bytes : List UInt8} {data : record} (start : partly [] = shape.blank)
    (may_be_absent : ∀ slot ∈ shape.slots, slot.mayBeAbsent = true)
    (split : Form.list bytes pieces) (few : pieces.length ≤ shape.slots.length)
    (each : ∀ pair ∈ shape.slots.zip pieces, Opened pair.2 ∧ pair.1.Keeps partly pair.2)
    (distinct : shape.names.Nodup)
    (finished : shape.finish (partly (shape.names.take pieces.length).reverse) = .ok data) :
    shape.reader.Accepts bytes data := by
  intro gap rest blank ends
  obtain ⟨body, row, rfl⟩ := split
  obtain ⟨behind, blank_behind, read⟩ : ∃ gap, IsBlank gap ∧
      shape.readListFrom 0 (partly []) shape.slots (body ++ byteOf ']' :: rest) =
        .ok (partly ((shape.names.take pieces.length).reverse ++ []), gap ++ byteOf ']' :: rest) :=
    readListFrom_row row rfl may_be_absent few each (by rwa [List.append_nil]) rest
  rw [start, List.append_nil] at read
  have closed : closeList (.ok (data, behind ++ byteOf ']' :: rest)) = .ok (data, rest) :=
    closeList_written blank_behind rest
  unfold reader
  rw [List.cons_append, List.append_assoc, readByFirst_of_shown blank (by decide)]
  simp only [if_neg (show byteOf '[' ≠ byteOf '{' by decide), if_true, List.singleton_append,
    read, finishScan, complete, finished, closed]

end Values

/-! Records as values. -/

section Rearranged
variable {members : List (String × Value)}

theorem known_eq_of_related {α β : Type} {related : α → β → Prop} {first : List (String × α)}
    {second : List (String × β)}
    (each : List.Forall₂ (fun one other => one.1 = other.1 ∧ related one.2 other.2) first second) :
    shape.known first = shape.known second := by
  have names_eq : first.map Prod.fst = second.map Prod.fst := by
    rw [← List.forall₂_eq_eq_eq, List.forall₂_map_left_iff, List.forall₂_map_right_iff]
    exact each.imp fun _ _ facts => facts.1
  rw [known, known, names_eq]

theorem takes_object {data : record} (start : partly [] = shape.blank)
    (recalls : ∀ member ∈ members, member.1 ∈ shape.names → shape.Recalls partly member)
    (distinct : (shape.known members).Nodup)
    (finished : shape.finish (partly (shape.known members).reverse) = .ok data) :
    shape.reader.Takes (.object members) data := by
  rintro _ ⟨text, spelled, rfl⟩
  obtain ⟨named, split, each⟩ := spelled.object_form
  have same : shape.known named = shape.known members := known_eq_of_related each
  refine accepts_object start split ?_ ?_ (same ▸ distinct) (same ▸ finished)
  · intro piece mem is_known
    obtain ⟨member, in_members, same_name, here⟩ := exists_related_of_mem each mem
    obtain ⟨slot, found, keeps⟩ := recalls member in_members (same_name ▸ is_known)
    exact ⟨slot, same_name ▸ found, keeps _ here⟩
  · intro piece mem _
    obtain ⟨member, -, -, here⟩ := exists_related_of_mem each mem
    exact passable_of_form here

theorem known_perm {kept added others : List (String × Value)} (same : others.Perm (kept ++ added))
    (recalls : ∀ member ∈ kept, member.1 ∈ shape.names)
    (unknown : ∀ member ∈ added, member.1 ∉ shape.names) :
    (shape.known others).Perm (kept.map Prod.fst) := by
  have split : (shape.known (kept ++ added)) = kept.map Prod.fst := by
    unfold known
    rw [List.map_append, List.filter_append, List.filter_eq_self.mpr, List.filter_eq_nil_iff.mpr,
      List.append_nil]
    · simpa using fun name value member => unknown (name, value) member
    · simpa using fun name value member => recalls (name, value) member
  exact split ▸ (same.map Prod.fst).filter _

/-- A record is taken from its own members rearranged, if it recalls each of them rearranged and
what it recalls of them all is the record. -/
theorem takes_rearranged {data : record} {inner : String → Schema} {value : Value}
    (partly : List String → draft) (start : partly [] = shape.blank)
    (rearranged : (shape.schema inner).Rearranged (.object members) value)
    (distinct : (members.map Prod.fst).Nodup)
    (recalls : ∀ member ∈ members, ∀ value, (inner member.1).Rearranged member.2 value →
      shape.Recalls partly (member.1, value))
    (finished : ∀ names, names.Perm (members.map Prod.fst) →
      shape.finish (partly names) = .ok data) :
    shape.reader.Takes value data := by
  obtain ⟨others, rfl⟩ : ∃ others, value = .object others := by
    cases value with
    | object others => exact ⟨others, rfl⟩
    | _ => cases rearranged
  obtain ⟨kept, added, same_members, unknown, same⟩ := rearranged
  -- What the record knows among the members are its own names, in some order.
  have names_eq : kept.map Prod.fst = members.map Prod.fst := by
    rw [← List.forall₂_eq_eq_eq, List.forall₂_map_left_iff, List.forall₂_map_right_iff]
    exact same_members.flip.imp fun _ _ facts => facts.1
  have kept_recalls : ∀ member ∈ kept, shape.Recalls partly member := by
    intro other other_mem
    obtain ⟨place, in_kept, rfl⟩ := List.getElem_of_mem other_mem
    have in_members : place < members.length := same_members.length_eq ▸ in_kept
    obtain ⟨same_name, inside⟩ := same_members.get in_members in_kept
    have recalled := recalls _ (List.get_mem members ⟨place, in_members⟩) _ inside
    rwa [← same_name] at recalled
  have known_names :=
    known_perm same (fun member mem => (kept_recalls member mem).mem_names) unknown
  rw [names_eq] at known_names
  refine takes_object start ?_ (known_names.nodup_iff.mpr distinct)
    (finished _ ((List.reverse_perm _).trans known_names))
  intro member mem in_names
  rcases List.mem_append.mp (same.mem_iff.mp mem) with of_kept | of_added
  · exact kept_recalls member of_kept
  · exact absurd in_names (unknown member of_added)

end Rearranged

end RecordShape

end StylesheetRunner.Json
