import Mathlib.Data.List.Forall2
import StylesheetRunner.Proofs.History.Calls

/-!
What one user sees of the history while others use it too. Calls of others leave the user's rows
alone and only use up identifiers, so two histories in which the user made the same calls differ for
that user in the identifiers of the rows and not in their order.
-/

namespace StylesheetRunner

/-- New names for identifiers that keep their order: pairs of an identifier and its new name,
ascending on both sides. -/
structure Renaming where
  pairs : List (UInt64 × UInt64)
  ascending : pairs.Pairwise fun older newer => older.1 < newer.1 ∧ older.2 < newer.2

namespace Renaming

variable {names further : Renaming} {first first' second second' : UInt64}

def empty : Renaming := ⟨[], .nil⟩

/-- The renaming with a name for one more identifier above all others. -/
def extend (names : Renaming) (id id' : UInt64)
    (above : ∀ pair ∈ names.pairs, pair.1 < id ∧ pair.2 < id') : Renaming :=
  ⟨names.pairs ++ [(id, id')], List.pairwise_append.mpr
    ⟨names.ascending, List.pairwise_singleton .., by simpa using above⟩⟩

def Renames (names : Renaming) (id id' : UInt64) : Prop := (id, id') ∈ names.pairs

theorem lt_iff (renames : names.Renames first first')
    (renames' : names.Renames second second') : first < second ↔ first' < second' :=
  ⟨fun less => (rel_of_key_lt (names.ascending.imp And.left) names.ascending renames renames'
      less).2,
    fun less => (rel_of_key_lt (names.ascending.imp And.right) names.ascending renames renames'
      less).1⟩

theorem le_iff (renames : names.Renames first first')
    (renames' : names.Renames second second') : first ≤ second ↔ first' ≤ second' := by
  rw [← UInt64.not_lt, lt_iff renames' renames, UInt64.not_lt]

theorem eq_iff (renames : names.Renames first first')
    (renames' : names.Renames second second') : first = second ↔ first' = second' := by
  rw [UInt64.le_antisymm_iff, le_iff renames renames', le_iff renames' renames,
    ← UInt64.le_antisymm_iff]

/-- An identifier and what stands for it, as the names so far have it, are met by the same pairs. -/
theorem eq_iff_of_corresponding (renames : names.Renames first first')
    (known : ∀ place : Nat, (names.pairs.map Prod.fst)[place]? = some second →
      (names.pairs.map Prod.snd)[place]? = some second')
    (unknown : second ∉ names.pairs.map Prod.fst → second' ∉ names.pairs.map Prod.snd) :
    first = second ↔ first' = second' := by
  by_cases given : second ∈ names.pairs.map Prod.fst
  · obtain ⟨place, at_place⟩ := List.mem_iff_getElem?.mp given
    have at_place' := known place at_place
    rw [List.getElem?_map, Option.map_eq_some_iff] at at_place at_place'
    obtain ⟨pair, pair_at, rfl⟩ := at_place
    obtain ⟨pair', pair_at', rfl⟩ := at_place'
    obtain rfl := Option.some.inj (pair_at.symm.trans pair_at')
    exact eq_iff renames (List.mem_of_getElem? pair_at)
  · have different : first ≠ second := fun same =>
      given (same ▸ List.mem_map_of_mem renames)
    have different' : first' ≠ second' := fun same =>
      unknown given (same ▸ List.mem_map_of_mem (f := Prod.snd) renames)
    exact iff_of_false different different'

def apply (names : Renaming) (id : UInt64) : UInt64 :=
  ((names.pairs.find? fun pair => pair.1 = id).map Prod.snd).getD id

theorem apply_eq (renames : names.Renames first first') : names.apply first = first' := by
  unfold apply
  cases found : names.pairs.find? fun pair => pair.1 = first with
  | none => exact absurd (List.find?_eq_none.mp found _ renames) (by simp)
  | some pair =>
    have named : pair.1 = first := by simpa using List.find?_some found
    exact (eq_iff (List.mem_of_find?_eq_some found) renames).mp named

def Row (names : Renaming) (row row' : HistoryRow) : Prop :=
  names.Renames row.id row'.id ∧ row' = { row with id := row'.id }

inductive Answer (names : Renaming) : HistoryAnswer → HistoryAnswer → Prop
  | listed {rows rows' : List HistoryRow} (alike : List.Forall₂ names.Row rows rows') :
      Answer names (.listed rows) (.listed rows')
  | created {row row' : HistoryRow} (alike : names.Row row row') :
      Answer names (.created row) (.created row')
  | deleted (found : Bool) : Answer names (.deleted found) (.deleted found)

theorem Row.mono (more : names.pairs ⊆ further.pairs) {row row' : HistoryRow}
    (alike : names.Row row row') : further.Row row row' :=
  ⟨more alike.1, alike.2⟩

theorem Answer.mono (more : names.pairs ⊆ further.pairs) {answer answer' : HistoryAnswer}
    (alike : names.Answer answer answer') : further.Answer answer answer' := by
  cases alike with
  | listed alike => exact .listed (alike.imp fun _ _ => Row.mono more)
  | created alike => exact .created (alike.mono more)
  | deleted found => exact .deleted found

theorem Row.precedes_eq {older older' newer newer' : HistoryRow} (alike : names.Row newer newer')
    (alike' : names.Row older older') : newer.precedes older = newer'.precedes older' := by
  obtain ⟨renames, same⟩ := alike
  obtain ⟨renames', same'⟩ := alike'
  rw [same, same', Bool.eq_iff_iff, HistoryRow.precedes_iff, HistoryRow.precedes_iff,
    le_iff renames' renames]

theorem forall₂_mergeSort {rows rows' : List HistoryRow}
    (alike : List.Forall₂ names.Row rows rows') :
    List.Forall₂ names.Row (rows.mergeSort HistoryRow.precedes)
      (rows'.mergeSort HistoryRow.precedes) := by
  -- Sorting commutes with a function that keeps the order, so the pairs are first made one.
  have renamed : rows' = rows.map fun row => { row with id := names.apply row.id } := by
    induction alike with
    | nil => rfl
    | @cons row row' rows rows' alike _ ih =>
      rw [List.map_cons, ← ih, apply_eq alike.1, ← alike.2]
  have row_alike : ∀ row ∈ rows, names.Row row { row with id := names.apply row.id } := by
    rw [renamed, List.forall₂_map_right_iff, List.forall₂_same] at alike
    exact alike
  rw [renamed, ← List.map_mergeSort fun row member other other_member =>
      (row_alike row member).precedes_eq (row_alike other other_member),
    List.forall₂_map_right_iff, List.forall₂_same]
  exact fun row member => row_alike row (List.mem_mergeSort.mp member)

end Renaming

theorem exists_mem_iff_of_forall₂ {Item Item' : Type} {relation : Item → Item' → Prop}
    {items : List Item} {items' : List Item'} {property : Item → Prop} {property' : Item' → Prop}
    (related : List.Forall₂ relation items items')
    (same : ∀ item item', relation item item' → (property item ↔ property' item')) :
    (∃ item ∈ items, property item) ↔ ∃ item' ∈ items', property' item' := by
  induction related with
  | nil => simp
  | cons first _ ih => rw [List.exists_mem_cons_iff, List.exists_mem_cons_iff, same _ _ first, ih]

namespace HistoryStore

theorem toNat_lastId_perform (store : HistoryStore) (call : HistoryCall) :
    store.lastId.toNat ≤ (store.perform call).2.lastId.toNat ∧
      (store.perform call).2.lastId.toNat ≤
        store.lastId.toNat + if call.isCreation then 1 else 0 := by
  cases call with
  | list user => exact ⟨Nat.le_refl _, Nat.le_add_right ..⟩
  | create user record now =>
    by_cases full : store.lastId.toNat = Text.wordLimit
    · rw [perform_create_of_exhausted full]
      exact ⟨Nat.le_refl _, Nat.le_add_right ..⟩
    · rw [perform_create_of_room full, toNat_lastId_add_one full]
      exact ⟨Nat.le_add_right .., Nat.le_refl _⟩
  | delete user id => exact ⟨Nat.le_refl _, Nat.le_add_right ..⟩

theorem lastId_le_perform (store : HistoryStore) (call : HistoryCall) :
    store.lastId ≤ (store.perform call).2.lastId :=
  UInt64.le_iff_toNat_le.mpr (store.toNat_lastId_perform call).1

theorem toNat_lastId_after_le (store : HistoryStore) (call? : Option HistoryCall) :
    (store.after call?).lastId.toNat ≤
      store.lastId.toNat + if call?.any HistoryCall.isCreation then 1 else 0 := by
  cases call? with
  | none => exact Nat.le_add_right ..
  | some call => exact (store.toNat_lastId_perform call).2

theorem rowsOf_delete (store : HistoryStore) (user : String) (id : UInt64) :
    (store.delete user id).2.rowsOf user = (store.rowsOf user).filter fun row => row.id ≠ id := by
  simp only [delete, rowsOf, List.filter_filter]
  refine List.filter_congr fun row _ => ?_
  by_cases owned : row.user = user <;> simp [owned]

theorem delete_found_iff (store : HistoryStore) (user : String) (id : UInt64) :
    (store.delete user id).1 = true ↔ ∃ row ∈ store.rowsOf user, row.id = id := by
  simp only [delete, decide_eq_true_iff, ne_eq, List.length_filter_eq_length_iff]
  simp only [not_forall, mem_rowsOf_iff]
  refine exists_congr fun row => ?_
  by_cases owned : row.user = user <;> simp [owned]

theorem rowsOf_perform_of_other (store : HistoryStore) {call : HistoryCall} {user : String}
    (other : call.user ≠ user) : (store.perform call).2.rowsOf user = store.rowsOf user := by
  cases call with
  | list owner => rfl
  | create owner record now =>
    by_cases full : store.lastId.toNat = Text.wordLimit
    · rw [perform_create_of_exhausted full]
    · have foreign : owner ≠ user := other
      simp only [perform_create_of_room full, rowsOf, List.filter_append]
      rw [List.filter_cons_of_neg (by simpa using foreign), List.filter_nil, List.append_nil]
  | delete owner id =>
    simp only [perform, delete, rowsOf, List.filter_filter]
    refine List.filter_congr fun row _ => ?_
    by_cases owned : row.user = user
    · have foreign : user ≠ owner := fun same => other same.symm
      simp [owned, foreign]
    · simp [owned]

/-- A call that a user makes in one run stands for the call that the user makes in another, in which
the identifiers given to the user so far are others. -/
inductive Translates (given given' : List UInt64) : HistoryCall → HistoryCall → Prop
  | list (user : String) : Translates given given' (.list user) (.list user)
  | create (user : String) (record : HistoryRecord) (now : Instant) :
      Translates given given' (.create user record now) (.create user record now)
  /-- An identifier that was given stands for the one given in its place, and any other for one that
  was not given. -/
  | delete {user : String} {id id' : UInt64}
      (known : ∀ place : Nat, given[place]? = some id → given'[place]? = some id')
      (unknown : id ∉ given → id' ∉ given') :
      Translates given given' (.delete user id) (.delete user id')

/-- Two histories hold the same for a user, up to the identifiers. -/
structure Alike (names : Renaming) (user : String) (store store' : HistoryStore) : Prop where
  rows : List.Forall₂ names.Row (store.rowsOf user) (store'.rowsOf user)
  bounded : ∀ pair ∈ names.pairs, pair.1 ≤ store.lastId ∧ pair.2 ≤ store'.lastId
  positive : ∀ pair ∈ names.pairs, 0 < pair.2
  fewer : store'.lastId ≤ store.lastId

namespace Alike

variable {names : Renaming} {user : String} {store store' : HistoryStore}

theorem empty (user : String) : Alike .empty user .empty .empty where
  rows := .nil
  bounded _ member := nomatch member
  positive _ member := nomatch member
  fewer := UInt64.le_refl _

theorem other (alike : Alike names user store store') {call : HistoryCall}
    (other : call.user ≠ user) : Alike names user (store.perform call).2 store' where
  rows := store.rowsOf_perform_of_other other ▸ alike.rows
  bounded pair member :=
    ⟨UInt64.le_trans (alike.bounded pair member).1 (store.lastId_le_perform call),
      (alike.bounded pair member).2⟩
  positive := alike.positive
  fewer := UInt64.le_trans alike.fewer (store.lastId_le_perform call)

theorem above_names (alike : Alike names user store store')
    (room : store.lastId.toNat ≠ Text.wordLimit) (room' : store'.lastId.toNat ≠ Text.wordLimit) :
    ∀ pair ∈ names.pairs, pair.1 < store.lastId + 1 ∧ pair.2 < store'.lastId + 1 := by
  intro pair member
  have bounded := alike.bounded pair member
  rw [UInt64.le_iff_toNat_le, UInt64.le_iff_toNat_le] at bounded
  rw [UInt64.lt_iff_toNat_lt, UInt64.lt_iff_toNat_lt, toNat_lastId_add_one room,
    toNat_lastId_add_one room']
  omega

theorem create (alike : Alike names user store store') (record : HistoryRecord) (now : Instant)
    (room : store.lastId.toNat ≠ Text.wordLimit) :
    let done := store.perform (.create user record now)
    let done' := store'.perform (.create user record now)
    ∃ further : Renaming, names.pairs ⊆ further.pairs ∧
      further.pairs.map Prod.fst = names.pairs.map Prod.fst ++ done.1.given ∧
      further.pairs.map Prod.snd = names.pairs.map Prod.snd ++ done'.1.given ∧
      further.Answer done.1 done'.1 ∧ Alike further user done.2 done'.2 := by
  have fewer := UInt64.le_iff_toNat_le.mp alike.fewer
  -- The other history has used up no more identifiers, so it has room as well.
  have room' : store'.lastId.toNat ≠ Text.wordLimit := by
    have bound := toNat_le_wordLimit store.lastId
    omega
  have next := toNat_lastId_add_one room
  have next' := toNat_lastId_add_one room'
  have above := alike.above_names room room'
  have more : names.pairs ⊆ (names.extend _ _ above).pairs := List.subset_append_left ..
  have new : (names.extend _ _ above).Row ⟨store.lastId + 1, user, record, now⟩
      ⟨store'.lastId + 1, user, record, now⟩ := ⟨by simp [Renaming.Renames, Renaming.extend], rfl⟩
  simp only [perform_create_of_room room, perform_create_of_room room']
  refine ⟨names.extend _ _ above, more, List.map_append, List.map_append, .created new,
    ?_, ?_, ?_, ?_⟩
  · simp only [rowsOf, List.filter_append, decide_true, List.filter_cons_of_pos, List.filter_nil]
    exact List.rel_append (alike.rows.imp fun _ _ => Renaming.Row.mono more) (.cons new .nil)
  · simp only [Renaming.extend, List.forall_mem_append, List.forall_mem_singleton, UInt64.le_refl,
      and_self, and_true]
    exact fun pair member => ⟨UInt64.le_of_lt (above pair member).1,
      UInt64.le_of_lt (above pair member).2⟩
  · have positive : 0 < store'.lastId + 1 := by
      rw [UInt64.lt_iff_toNat_lt, next']
      exact Nat.succ_pos _
    simpa only [Renaming.extend, List.forall_mem_append, List.forall_mem_singleton] using
      ⟨alike.positive, positive⟩
  · rw [UInt64.le_iff_toNat_le, next, next']
    exact Nat.add_le_add_right fewer 1

theorem delete (alike : Alike names user store store') {id id' : UInt64}
    (same : ∀ {first first'}, names.Renames first first' → (first = id ↔ first' = id')) :
    names.Answer (store.perform (.delete user id)).1 (store'.perform (.delete user id')).1 ∧
      Alike names user (store.perform (.delete user id)).2
        (store'.perform (.delete user id')).2 := by
  have found : (store.delete user id).1 = (store'.delete user id').1 := by
    rw [Bool.eq_iff_iff, delete_found_iff, delete_found_iff]
    exact exists_mem_iff_of_forall₂ alike.rows fun row row' member => same member.1
  constructor
  · simp only [perform, found]
    exact .deleted _
  · refine ⟨?_, alike.bounded, alike.positive, alike.fewer⟩
    simp only [perform, rowsOf_delete]
    exact List.rel_filter (fun row row' member => by simp [same member.1]) alike.rows

/-- A call of the user in the one history and what it stands for in the other come to the same, up
to the identifiers, which are those from before and what the call gives out. -/
theorem own (alike : Alike names user store store') {call call' : HistoryCall}
    (owned : call.user = user)
    (translates : Translates (names.pairs.map Prod.fst) (names.pairs.map Prod.snd) call call')
    (room : call.isCreation → store.lastId.toNat ≠ Text.wordLimit) :
    ∃ further : Renaming, names.pairs ⊆ further.pairs ∧
      further.pairs.map Prod.fst = names.pairs.map Prod.fst ++ (store.perform call).1.given ∧
      further.pairs.map Prod.snd = names.pairs.map Prod.snd ++ (store'.perform call').1.given ∧
      further.Answer (store.perform call).1 (store'.perform call').1 ∧
      Alike further user (store.perform call).2 (store'.perform call').2 := by
  subst owned
  cases translates with
  | list user =>
    exact ⟨names, List.Subset.refl _, (List.append_nil _).symm, (List.append_nil _).symm,
      .listed (Renaming.forall₂_mergeSort alike.rows), alike⟩
  | create user record now => exact alike.create record now (room rfl)
  | @delete user id id' known unknown =>
    have done := alike.delete fun renames => Renaming.eq_iff_of_corresponding renames known unknown
    exact ⟨names, List.Subset.refl _, (List.append_nil _).symm, (List.append_nil _).symm, done⟩

theorem after_other (alike : Alike names user store store') {call? : Option HistoryCall}
    (others : ∀ call, call? = some call → call.user ≠ user) :
    Alike names user (store.after call?) store' := by
  cases call? with
  | none => exact alike
  | some call => exact alike.other (others call rfl)

theorem after_own (alike : Alike names user store store') {call? call?' : Option HistoryCall}
    (owned : ∀ call, call? = some call → call.user = user)
    (translates : Option.Rel (Translates (names.pairs.map Prod.fst) (names.pairs.map Prod.snd))
      call? call?')
    (room : call?.any HistoryCall.isCreation = true → store.lastId.toNat ≠ Text.wordLimit) :
    ∃ further : Renaming, names.pairs ⊆ further.pairs ∧
      further.pairs.map Prod.fst = names.pairs.map Prod.fst ++ store.givenBy call? ∧
      further.pairs.map Prod.snd = names.pairs.map Prod.snd ++ store'.givenBy call?' ∧
      (∀ call call', call? = some call → call?' = some call' →
        further.Answer (store.perform call).1 (store'.perform call').1) ∧
      Alike further user (store.after call?) (store'.after call?') := by
  cases translates with
  | none => exact ⟨names, List.Subset.refl _, by simp [givenBy], by simp [givenBy], nofun, alike⟩
  | @some call call' translates =>
    obtain ⟨further, more, first, second, answers, alike⟩ :=
      alike.own (owned call rfl) translates room
    refine ⟨further, more, first, second, ?_, alike⟩
    rintro _ _ ⟨⟩ ⟨⟩
    exact answers

end Alike

end HistoryStore

end StylesheetRunner
