import StylesheetRunner.Proofs.Json.Records

/-!
The form of a record. Nothing is read as a record but its members, each known name once, or the
values of its first members; and each member is read by the form of its slot. So a record reader
reads exactly the texts that say, member by member, what the record holds.
-/

namespace StylesheetRunner.Json

def Holds {α : Type} (members : List (String × List UInt8)) (name : String) (form : Form α) :
    Option α → Prop
  | none => name ∉ members.map Prod.fst
  | some data => ∃ value, (name, value) ∈ members ∧ form value data

section Held
variable {α : Type} {members : List (String × List UInt8)} {name : String} {form : Form α}
  {held : Option α} {value : List UInt8} {data : α}

theorem holds_of_form (here : form value data) :
    Holds (members ++ [(name, value)]) name form (some data) :=
  ⟨value, List.mem_append_right _ List.mem_cons_self, here⟩

theorem Holds.behind_other {other : String} (holds : Holds members name form held)
    (different : name ≠ other) : Holds (members ++ [(other, value)]) name form held := by
  cases held with
  | none =>
    change name ∉ (members ++ [(other, value)]).map Prod.fst
    rw [List.map_append, List.mem_append, not_or]
    exact ⟨holds, fun mem => different (List.mem_singleton.mp mem)⟩
  | some data =>
    obtain ⟨value, mem, here⟩ := holds
    exact ⟨value, List.mem_append_left _ mem, here⟩

theorem Holds.given (holds : Holds members name form held) (missing : α) :
    Given members name form missing (held.getD missing) := by
  cases held with
  | none => exact .missing holds
  | some data =>
    obtain ⟨value, mem, here⟩ := holds
    exact .value mem here

theorem Holds.not_mem (holds : Holds members name form held) (unfilled : held.isSome = false) :
    name ∉ members.map Prod.fst := by
  cases held with
  | none => exact holds
  | some data => cases unfilled

theorem exists_of_read_ofMember {draft : Type} {mayBeAbsent : Bool} {member : draft → Option α}
    {fill : draft → α → draft} {reader : Reader α} (reads : reader.Reads form)
    {before after : draft} {bytes rest : List UInt8}
    (read : (Slot.ofMember name mayBeAbsent member fill reader).read before bytes =
      .ok (after, rest)) :
    ∃ gap own data, IsBlank gap ∧ form own data ∧ after = fill before data ∧
      bytes = gap ++ (own ++ rest) := by
  dsimp only [Slot.ofMember] at read
  split at read
  next value behind found =>
    cases read
    obtain ⟨gap, own, blank, here, rfl⟩ := reads.only found
    exact ⟨gap, own, value, blank, here, rfl, rfl⟩
  next => cases read

end Held

namespace RecordShape

variable {draft record : Type} {shape : RecordShape draft record}

/-- A draft is followed through the members: what it holds of them, at any time, is told by a
relation. -/
structure Tracks (shape : RecordShape draft record)
    (holds : List (String × List UInt8) → draft → Prop) : Prop where
  start : holds [] shape.blank
  known : ∀ ⦃members held slot bytes held' rest⦄, slot ∈ shape.slots → holds members held →
    slot.read held bytes = .ok (held', rest) →
    ∃ gap own, IsBlank gap ∧ holds (members ++ [(slot.name, own)]) held' ∧
      bytes = gap ++ (own ++ rest)
  unknown : ∀ ⦃members held name value⦄, name ∉ shape.names → holds members held →
    holds (members ++ [(name, value)]) held
  unfilled : ∀ ⦃members held slot⦄, slot ∈ shape.slots → holds members held →
    slot.isFilled held = false → slot.name ∉ members.map Prod.fst

/-- The bytes of a row of members; those with other names than the record's may be passed over. -/
def MemberRow (shape : RecordShape draft record) (first : Bool) (body : List UInt8)
    (members : List (String × List UInt8)) : Prop :=
  ∃ pieces, Row first pieces body ∧ List.Forall₂ (Form.Member .text) pieces members ∧
    ∀ member ∈ members, member.1 ∉ shape.names → Passable member.2

section Found
variable {holds : List (String × List UInt8) → draft → Prop} {first : Bool}
  {members later : List (String × List UInt8)} {member : String × List UInt8} {held held' : draft}
  {bytes body lead piece rest : List UInt8}

/-- The bytes of a member and the bytes behind it. -/
def MemberFirst (shape : RecordShape draft record) (first : Bool) (bytes : List UInt8)
    (member : String × List UInt8) (after : List UInt8) : Prop :=
  ∃ lead piece, Leads first lead ∧ Form.Member .text piece member ∧
    (member.1 ∉ shape.names → Passable member.2) ∧ bytes = lead ++ (piece ++ after)

theorem MemberRow.cons (row : shape.MemberRow false body later)
    (stands : shape.MemberFirst first bytes member (body ++ rest)) :
    ∃ longer, shape.MemberRow first longer (member :: later) ∧ bytes = longer ++ rest := by
  obtain ⟨pieces, row, forms, each⟩ := row
  obtain ⟨lead, piece, leads, form, passable, rfl⟩ := stands
  refine ⟨lead ++ (piece ++ body), ⟨_, .cons leads row, .cons form forms, ?_⟩, ?_⟩
  · exact List.forall_mem_cons.mpr ⟨passable, each⟩
  · simp only [List.append_assoc]

theorem nodup_known_append (distinct : (shape.known members).Nodup)
    (new : member.1 ∈ shape.names → member.1 ∉ members.map Prod.fst) :
    (shape.known (members ++ [member])).Nodup := by
  unfold known
  rw [List.map_append, List.filter_append]
  refine List.nodup_append.mpr ⟨distinct, List.Nodup.filter _ (List.nodup_singleton _), ?_⟩
  intro name mem other mem_other same
  obtain ⟨mem, is_known⟩ := List.mem_filter.mp mem
  obtain rfl := List.mem_singleton.mp (List.mem_filter.mp mem_other).1
  subst same
  exact new (of_decide_eq_true is_known) mem

/-- One step through an object: it ends, or the member that stands first is read or passed over. -/
theorem Tracks.exists_of_step {bound : Nat} (tracks : shape.Tracks holds)
    (before : holds members held) (distinct : (shape.known members).Nodup)
    (read : shape.readObjectWithin (bound + 1) first held bytes = .ok (held', rest)) :
    (held' = held ∧ ∃ gap, IsBlank gap ∧ bytes = gap ++ rest) ∨
      ∃ member middle after, shape.MemberFirst first bytes member after ∧
        holds (members ++ [member]) middle ∧ (shape.known (members ++ [member])).Nodup ∧
        shape.readObjectWithin bound false middle after = .ok (held', rest) := by
  rw [readObjectWithin] at read
  split at read
  next => cases read
  next behind next =>
    cases read
    exact .inl ⟨rfl, exists_of_nextKey_end next⟩
  next name behind next =>
    right
    obtain ⟨lead, named, leads, spelled, rfl⟩ := exists_of_nextKey next
    split at read
    next slot found =>
      obtain ⟨rfl, mem⟩ := name_of_find? found
      split at read
      next => cases read
      next is_new =>
        split at read
        next => cases read
        next after_colon colon =>
          obtain ⟨gap, blank_before, rfl⟩ := exists_of_readColon colon
          split at read
          next => cases read
          next middle after value_read =>
            obtain ⟨between, own, blank, held_now, rfl⟩ := tracks.known mem before value_read
            have new := tracks.unfilled mem before (by simpa using is_new)
            have is_known : slot.name ∈ shape.names := List.mem_map.mpr ⟨slot, mem, rfl⟩
            refine ⟨_, middle, after, ⟨lead, _, leads, .named spelled blank_before blank,
              absurd is_known, ?_⟩, held_now, nodup_known_append distinct fun _ => new, read⟩
            simp only [List.append_assoc, List.cons_append]
    next not_found =>
      have unknown : name ∉ shape.names := by
        intro is_known
        obtain ⟨slot, mem, rfl⟩ := List.mem_map.mp is_known
        exact List.find?_eq_none.mp not_found slot mem (decide_eq_true rfl)
      split at read
      next => cases read
      next after_colon colon =>
        obtain ⟨gap, blank_before, rfl⟩ := exists_of_readColon colon
        split at read
        next => cases read
        next after passed =>
          obtain ⟨between, own, blank, passable, rfl⟩ := exists_of_skipValue passed
          refine ⟨(name, own), held, after, ⟨lead, _, leads, .named spelled blank_before blank,
            fun _ => passable, ?_⟩, tracks.unknown unknown before,
            nodup_known_append distinct fun is_known => absurd is_known unknown, read⟩
          simp only [List.append_assoc, List.cons_append]

theorem Tracks.exists_of_readObjectWithin {bound : Nat} (tracks : shape.Tracks holds)
    (before : holds members held) (distinct : (shape.known members).Nodup)
    (read : shape.readObjectWithin bound first held bytes = .ok (held', rest)) :
    ∃ later body, shape.MemberRow first body later ∧ holds (members ++ later) held' ∧
      (shape.known (members ++ later)).Nodup ∧ bytes = body ++ rest := by
  -- By induction on the steps, behind whatever members the draft holds already.
  induction bound generalizing first members held bytes with
  | zero =>
    rw [readObjectWithin] at read
    cases read
  | succ bound ih =>
    rcases tracks.exists_of_step before distinct read with
      ⟨rfl, gap, blank, rfl⟩ | ⟨member, middle, after, stands, held_now, once, read⟩
    · exact ⟨[], gap, ⟨[], .nil blank, .nil, List.forall_mem_nil _⟩, by rwa [List.append_nil],
        by rwa [List.append_nil], rfl⟩
    · obtain ⟨later, body, row, held_later, once, rfl⟩ := ih held_now once read
      obtain ⟨longer, row, rfl⟩ := row.cons stands
      rw [List.append_assoc] at held_later once
      exact ⟨member :: later, longer, row, held_later, once, rfl⟩

theorem eq_of_readListFrom_end {slots : List (Slot draft)} {count : Nat}
    (bracket : bytes.head? = some (byteOf ']'))
    (read : shape.readListFrom count held slots bytes = .ok (held', rest)) :
    held' = held ∧ rest = bytes := by
  obtain ⟨after, rfl⟩ := List.head?_eq_some_iff.mp bracket
  induction slots generalizing count with
  | nil =>
    cases read
    exact ⟨rfl, rfl⟩
  | cons slot slots ih =>
    have next := nextItem_end (count == 0) isBlank_nil after
    rw [List.nil_append] at next
    rw [readListFrom, next] at read
    dsimp only at read
    split at read
    next => exact ih read
    next => cases read

/-- What is read as the values of a list is a row of them, as many as there are slots or fewer. -/
theorem Tracks.exists_of_readListFrom {slots : List (Slot draft)} {count : Nat}
    (tracks : shape.Tracks holds) (before : holds members held)
    (own : ∀ slot ∈ slots, slot ∈ shape.slots)
    (read : shape.readListFrom count held slots bytes = .ok (held', rest)) :
    ∃ pieces body, Row (count == 0) pieces body ∧ pieces.length ≤ slots.length ∧
      holds (members ++ (slots.map Slot.name).zip pieces) held' ∧ bytes = body ++ rest := by
  induction slots generalizing count members held bytes with
  | nil =>
    cases read
    exact ⟨[], [], .nil isBlank_nil, Nat.le_refl _, by simpa using before, rfl⟩
  | cons slot slots ih =>
    obtain ⟨mem, own_later⟩ := List.forall_mem_cons.mp own
    rw [readListFrom] at read
    split at read
    next => cases read
    next behind next =>
      obtain ⟨lead, leads, rfl⟩ := exists_of_nextItem next
      split at read
      next => cases read
      next middle after_value value_read =>
        obtain ⟨gap, value, blank, after, rfl⟩ := tracks.known mem before value_read
        obtain ⟨pieces, body, row, few, held_later, rfl⟩ := ih after own_later read
        rw [List.append_assoc] at held_later
        refine ⟨value :: pieces, _, .cons (leads.before_blank blank) row, Nat.succ_le_succ few,
          held_later, ?_⟩
        simp only [List.append_assoc]
    next behind next =>
      obtain ⟨gap, blank, rfl, bracket⟩ := exists_of_nextItem_end next
      split at read
      next =>
        obtain ⟨rfl, rfl⟩ := eq_of_readListFrom_end bracket read
        exact ⟨[], gap, .nil blank, Nat.zero_le _, by simpa using before, rfl⟩
      next => cases read

end Found

/-! Whole records. -/

section Whole
variable {holds : List (String × List UInt8) → draft → Prop} {bytes rest : List UInt8}
  {data : record}

theorem exists_of_finishScan {scan : Scan draft}
    (finished : shape.finishScan scan = .ok (data, rest)) :
    ∃ held, scan = .ok (held, rest) ∧ shape.finish held = .ok data := by
  unfold finishScan at finished
  split at finished
  next held behind =>
    unfold complete at finished
    split at finished
    next value done =>
      cases finished
      exact ⟨held, rfl, done⟩
    next => cases finished
  next => cases finished

/-- What is read as a record is written as one, and the record is what becomes of the draft that
holds its members. -/
theorem Tracks.exists_of_reader (tracks : shape.Tracks holds)
    (read : shape.reader bytes = .ok (data, rest)) :
    ∃ gap own members held, IsBlank gap ∧ Form.record shape.names own members ∧
      holds members held ∧ shape.finish held = .ok data ∧ bytes = gap ++ (own ++ rest) := by
  obtain ⟨gap, byte, after, blank, rfl, chosen⟩ := exists_of_readByFirst read
  split at chosen
  next brace =>
    obtain ⟨between, blank_between, scanned⟩ := exists_of_closeObject chosen
    obtain ⟨held, scanned, done⟩ := exists_of_finishScan scanned
    obtain ⟨members, body, ⟨pieces, row, forms, each⟩, holds_all, once, rfl⟩ :=
      tracks.exists_of_readObjectWithin tracks.start List.nodup_nil scanned
    refine ⟨gap, _, members, held, blank, .object ⟨pieces, _, row.before_blank blank_between, forms,
      rfl⟩ once each, holds_all, done, ?_⟩
    simp [brace]
  next =>
    split at chosen
    next bracket =>
      obtain ⟨between, blank_between, scanned⟩ := exists_of_closeList chosen
      obtain ⟨held, scanned, done⟩ := exists_of_finishScan scanned
      obtain ⟨pieces, body, row, few, holds_all, rfl⟩ :=
        tracks.exists_of_readListFrom tracks.start (fun _ mem => mem) scanned
      refine ⟨gap, _, _, held, blank, .list ⟨_, row.before_blank blank_between, rfl⟩ ?_, holds_all,
        done, ?_⟩
      · rwa [names, List.length_map]
      · simp [bracket]
    next => cases chosen

end Whole

/-- Whether a record that is said by members is read back from them: the draft that holds the
members of some names keeps each of them, and is finished as the record. -/
structure Restores (shape : RecordShape draft record) (members : List (String × List UInt8))
    (data : record) (partly : List String → draft) : Prop where
  start : partly [] = shape.blank
  keeps : ∀ member ∈ members, member.1 ∈ shape.names →
    Opened member.2 ∧ shape.Keeps partly member
  finished : ∀ names, (∀ name, name ∈ names ↔ name ∈ shape.known members) →
    shape.finish (partly names) = .ok data

section Said
variable {α : Type} {members : List (String × List UInt8)} {name : String} {form : Form α}
  {missing data : α} {partly : List String → draft}

theorem keeps_of_given {mayBeAbsent : Bool} {held : draft → Option α} {fill : draft → α → draft}
    {reader : Reader α} {member : String × List UInt8} (reads : reader.Reads form)
    (given : Given members name form missing data) (once : (shape.known members).Nodup)
    (mem : member ∈ members) (same : member.1 = name)
    (found : (shape.slots.find? fun slot => slot.name = name) =
      some (.ofMember name mayBeAbsent held fill reader))
    (holds : ∀ names, held (partly names) = heldOnce name data names)
    (fills : ∀ names, fill (partly names) data = partly (name :: names)) :
    Opened member.2 ∧ shape.Keeps partly member := by
  cases given with
  | missing absent => exact absurd (List.mem_map.mpr ⟨member, mem, same⟩) absent
  | @value value _ mem_value here =>
    have is_known : name ∈ shape.names :=
      List.mem_map.mpr ⟨_, List.mem_of_find?_eq_some found, rfl⟩
    obtain rfl : member = (name, value) := eq_of_known_nodup once mem_value mem is_known same
    exact ⟨reads.opens here, _, found, Slot.keeps_ofMember holds fills (reads.accepts here)⟩

theorem getD_heldOnce_of_given (given : Given members name form missing data) {names : List String}
    (all : ∀ name, name ∈ names ↔ name ∈ shape.known members) (is_known : name ∈ shape.names) :
    (heldOnce name data names).getD missing = data := by
  by_cases mem : name ∈ names
  · rw [heldOnce, if_pos mem]
    rfl
  · rw [heldOnce, if_neg mem]
    cases given with
    | missing absent => rfl
    | value mem_value here =>
      have present : name ∈ members.map Prod.fst := List.mem_map.mpr ⟨_, mem_value, rfl⟩
      exact absurd ((all name).mpr (List.mem_filter.mpr ⟨present, decide_eq_true is_known⟩)) mem

end Said

theorem known_zip {pieces : List (List UInt8)} (few : pieces.length ≤ shape.names.length) :
    shape.known (shape.names.zip pieces) = shape.names.take pieces.length := by
  have shorter : (shape.names.take pieces.length).length ≤ (pieces.take pieces.length).length := by
    rw [List.length_take, List.take_length]
    omega
  unfold known
  rw [List.zip_eq_zip_take_min, Nat.min_eq_right few, List.map_fst_zip shorter]
  exact List.filter_eq_self.mpr fun name mem => decide_eq_true (List.mem_of_mem_take mem)

theorem Restores.accepts {members : List (String × List UInt8)} {data : record}
    {partly : List String → draft} {bytes : List UInt8}
    (restores : shape.Restores members data partly) (distinct : shape.names.Nodup)
    (may_be_absent : ∀ slot ∈ shape.slots, slot.mayBeAbsent = true)
    (form : Form.record shape.names bytes members) : shape.reader.Accepts bytes data := by
  have finished := restores.finished (shape.known members).reverse fun name => List.mem_reverse
  cases form with
  | object split once others =>
    exact accepts_object restores.start split
      (fun member mem is_known => (restores.keeps member mem is_known).2) others once finished
  | @list _ pieces split few =>
    have few_slots : pieces.length ≤ shape.slots.length := by rwa [names, List.length_map] at few
    rw [known_zip few] at finished
    refine accepts_values restores.start may_be_absent split few_slots ?_ distinct finished
    rintro ⟨slot, piece⟩ mem
    have in_slots : slot ∈ shape.slots := (List.of_mem_zip mem).1
    have is_known : slot.name ∈ shape.names := List.mem_map.mpr ⟨slot, in_slots, rfl⟩
    have mem_names : (slot.name, piece) ∈ shape.names.zip pieces := by
      rw [names, List.zip_map_left]
      exact List.mem_map.mpr ⟨_, mem, rfl⟩
    obtain ⟨opened, other, found, keeps⟩ := restores.keeps _ mem_names is_known
    obtain ⟨same, mem_other⟩ := name_of_find? found
    obtain rfl := List.inj_on_of_nodup_map distinct mem_other in_slots same
    exact ⟨opened, keeps⟩

theorem reads_record {tells : List (String × List UInt8) → record → Prop}
    {holds : List (String × List UInt8) → draft → Prop} (tracks : shape.Tracks holds)
    (distinct : shape.names.Nodup)
    (may_be_absent : ∀ slot ∈ shape.slots, slot.mayBeAbsent = true)
    (said : ∀ ⦃members held data⦄, holds members held → shape.finish held = .ok data →
      tells members data)
    (restored : ∀ ⦃members data⦄, tells members data → (shape.known members).Nodup →
      ∃ partly, shape.Restores members data partly) :
    shape.reader.Reads fun bytes data =>
      ∃ members, Form.record shape.names bytes members ∧ tells members data where
  opens := by
    rintro bytes data ⟨members, form, -⟩
    cases form with
    | object split _ _ =>
      obtain ⟨_, _, _, _, rfl⟩ := split
      exact ⟨byteOf '{', _, rfl, by decide, by decide⟩
    | list split _ =>
      obtain ⟨_, _, rfl⟩ := split
      exact ⟨byteOf '[', _, rfl, by decide, by decide⟩
  accepts := by
    rintro bytes data ⟨members, form, told_data⟩
    have once : (shape.known members).Nodup := by
      cases form with
      | object _ once _ => exact once
      | list _ few => exact (known_zip few ▸ distinct.sublist (List.take_sublist _ _))
    obtain ⟨partly, restores⟩ := restored told_data once
    exact restores.accepts distinct may_be_absent form
  only := by
    intro bytes data rest read
    obtain ⟨gap, own, members, held, blank, form, holds_all, finished, rfl⟩ :=
      tracks.exists_of_reader read
    exact ⟨gap, own, blank, ⟨members, form, said holds_all finished⟩, rfl⟩

end RecordShape

end StylesheetRunner.Json
