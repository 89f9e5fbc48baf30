import Mathlib.Data.List.Nodup
import StylesheetRunner.History

/-!
The calls of the history and their answers, one after the other, and what a single call does to the
rows when every identifier is the identifier of one row at most.
-/

namespace StylesheetRunner

/-- A call of the history. A creation comes with the time that it reads. -/
inductive HistoryCall where
  | list (user : String)
  | create (user : String) (record : HistoryRecord) (now : Instant)
  | delete (user : String) (id : UInt64)
deriving DecidableEq, Repr

inductive HistoryAnswer where
  | listed (rows : List HistoryRow)
  | created (row : HistoryRow)
  | refused (error : HistoryError)
  | deleted (found : Bool)
deriving DecidableEq, Repr

def HistoryCall.user : HistoryCall → String
  | .list user => user
  | .create user _ _ => user
  | .delete user _ => user

def HistoryCall.isCreation : HistoryCall → Bool
  | .create .. => true
  | _ => false

def HistoryCall.at (now : Instant) : HistoryCall → HistoryCall
  | .create user record _ => .create user record now
  | call => call

def HistoryAnswer.given : HistoryAnswer → List UInt64
  | .created row => [row.id]
  | _ => []

structure HistoryExchange where
  call : HistoryCall
  answer : HistoryAnswer
deriving DecidableEq, Repr

/-- In a list with ascending keys, the order of two keys tells how the list relates their items. -/
theorem rel_of_key_lt {Item : Type} {key : Item → UInt64} {relation : Item → Item → Prop}
    {items : List Item} (ascending : items.Pairwise fun older newer => key older < key newer)
    (related : items.Pairwise relation) {first second : Item} (first_mem : first ∈ items)
    (second_mem : second ∈ items) (less : key first < key second) : relation first second := by
  obtain ⟨before, behind, rfl⟩ := List.append_of_mem second_mem
  rw [List.mem_append, List.mem_cons] at first_mem
  rw [List.pairwise_append, List.pairwise_cons] at ascending
  rw [List.pairwise_append] at related
  rcases first_mem with earlier | rfl | later
  · exact related.2.2 first earlier second List.mem_cons_self
  · exact absurd less (UInt64.lt_irrefl _)
  · exact absurd (ascending.2.1.1 first later) (UInt64.not_lt.mpr (UInt64.le_of_lt less))

namespace HistoryRow

/-- The order in which a user sees rows: the later one first, and of two created at one time the
one with the greater identifier. -/
def Newer (newer older : HistoryRow) : Prop :=
  older.createdAt.nanoseconds < newer.createdAt.nanoseconds ∨
    (newer.createdAt = older.createdAt ∧ older.id < newer.id)

theorem precedes_iff {left right : HistoryRow} :
    left.precedes right = true ↔
      right.createdAt.nanoseconds < left.createdAt.nanoseconds ∨
        (left.createdAt = right.createdAt ∧ right.id ≤ left.id) := by
  simp [precedes]

theorem precedes_trans (first second third : HistoryRow)
    (before : first.precedes second = true) (behind : second.precedes third = true) :
    first.precedes third = true := by
  rw [precedes_iff] at before behind ⊢
  rcases before with later | ⟨same, greater⟩ <;> rcases behind with later' | ⟨same', greater'⟩
  · exact .inl (Nat.lt_trans later' later)
  · exact .inl (same' ▸ later)
  · exact .inl (same ▸ later')
  · exact .inr ⟨same.trans same', UInt64.le_trans greater' greater⟩

theorem precedes_total (left right : HistoryRow) :
    (left.precedes right || right.precedes left) = true := by
  rw [Bool.or_eq_true, precedes_iff, precedes_iff]
  rcases Nat.lt_trichotomy left.createdAt.nanoseconds right.createdAt.nanoseconds with
    earlier | same | later
  · exact .inr (.inl earlier)
  · have sameTime : left.createdAt = right.createdAt := by
      cases left with
      | mk _ _ _ time => cases right with
        | mk _ _ _ time' => exact congrArg Instant.mk same
    exact (UInt64.le_total right.id left.id).imp (fun greater => .inr ⟨sameTime, greater⟩)
      fun greater => .inr ⟨sameTime.symm, greater⟩
  · exact .inl (.inl later)

end HistoryRow

namespace HistoryStore

def perform (store : HistoryStore) : HistoryCall → HistoryAnswer × HistoryStore
  | .list user => (.listed (store.list user), store)
  | .create user record now =>
    match store.create user record now with
    | .ok (row, next) => (.created row, next)
    | .error error => (.refused error, store)
  | .delete user id => (.deleted (store.delete user id).1, (store.delete user id).2)

def run (store : HistoryStore) : List HistoryCall → List HistoryExchange × HistoryStore
  | [] => ([], store)
  | call :: rest =>
    let (answer, next) := store.perform call
    let (log, last) := next.run rest
    (⟨call, answer⟩ :: log, last)

theorem run_concat (store : HistoryStore) (calls : List HistoryCall) (call : HistoryCall) :
    store.run (calls ++ [call]) =
      ((store.run calls).1 ++ [⟨call, ((store.run calls).2.perform call).1⟩],
        ((store.run calls).2.perform call).2) := by
  induction calls generalizing store with
  | nil => rfl
  | cons first rest ih => simp only [List.cons_append, run, ih]

def after (store : HistoryStore) : Option HistoryCall → HistoryStore
  | none => store
  | some call => (store.perform call).2

def givenBy (store : HistoryStore) : Option HistoryCall → List UInt64
  | none => []
  | some call => (store.perform call).1.given

/-- Every row was given an identifier of its own, and later ones greater identifiers. -/
def Numbered (rows : List HistoryRow) : Prop :=
  rows.Pairwise fun older newer => older.id < newer.id

theorem Numbered.nodup {rows : List HistoryRow} (numbered : Numbered rows) : rows.Nodup :=
  List.Pairwise.imp (fun less same => UInt64.ne_of_lt less (congrArg _ same)) numbered

theorem Numbered.id_inj {rows : List HistoryRow} (numbered : Numbered rows)
    {row other : HistoryRow} (member : row ∈ rows) (other_member : other ∈ rows)
    (same : row.id = other.id) : row = other := by
  have distinct : (rows.map HistoryRow.id).Nodup :=
    List.pairwise_map.mpr (numbered.imp UInt64.ne_of_lt)
  exact List.inj_on_of_nodup_map distinct member other_member same

def rowsOf (store : HistoryStore) (user : String) : List HistoryRow :=
  store.rows.filter fun row => row.user = user

theorem mem_rowsOf_iff {store : HistoryStore} {user : String} {row : HistoryRow} :
    row ∈ store.rowsOf user ↔ row.user = user ∧ row ∈ store.rows := by
  rw [rowsOf, List.mem_filter, decide_eq_true_iff]
  exact and_comm

theorem list_perm (store : HistoryStore) (user : String) :
    (store.list user).Perm (store.rowsOf user) :=
  List.mergeSort_perm ..

theorem mem_list_iff {store : HistoryStore} {user : String} {row : HistoryRow} :
    row ∈ store.list user ↔ row.user = user ∧ row ∈ store.rows := by
  rw [(store.list_perm user).mem_iff, mem_rowsOf_iff]

theorem nodup_list {store : HistoryStore} (numbered : Numbered store.rows) (user : String) :
    (store.list user).Nodup :=
  (store.list_perm user).nodup_iff.mpr (numbered.nodup.filter _)

theorem sorted_list {store : HistoryStore} (numbered : Numbered store.rows) (user : String) :
    (store.list user).Pairwise HistoryRow.Newer := by
  have ordered : (store.list user).Pairwise fun newer older => newer.precedes older = true :=
    List.pairwise_mergeSort HistoryRow.precedes_trans HistoryRow.precedes_total _
  refine (ordered.and (nodup_list numbered user)).imp_of_mem ?_
  rintro newer older newer_mem older_mem ⟨precedes, different⟩
  rcases HistoryRow.precedes_iff.mp precedes with later | ⟨same, greater⟩
  · exact .inl later
  · refine .inr ⟨same, UInt64.lt_of_le_of_ne greater fun same_id => different ?_⟩
    exact numbered.id_inj (mem_list_iff.mp newer_mem).2 (mem_list_iff.mp older_mem).2 same_id.symm

theorem reverse_list_of_steady {store : HistoryStore} (numbered : Numbered store.rows)
    (steady : store.rows.Pairwise fun older newer =>
      older.createdAt.nanoseconds ≤ newer.createdAt.nanoseconds) (user : String) :
    (store.list user).reverse = store.rowsOf user := by
  -- Both lists hold the same rows, so it is enough that the identifiers ascend in both: then there
  -- is one order only.
  have ascending : (store.list user).reverse.Pairwise fun older newer => older.id < newer.id := by
    rw [List.pairwise_reverse]
    refine (sorted_list numbered user).imp_of_mem fun {newer older} newer_mem older_mem above => ?_
    replace newer_mem := (mem_list_iff.mp newer_mem).2
    replace older_mem := (mem_list_iff.mp older_mem).2
    rcases above with later | ⟨-, greater⟩
    · -- A later time with a smaller identifier would be a time that ran backwards.
      by_contra notLess
      rcases UInt64.lt_or_eq_of_le (UInt64.not_lt.mp notLess) with less | same
      · exact absurd (rel_of_key_lt numbered steady newer_mem older_mem less)
          (Nat.not_le.mpr later)
      · rw [numbered.id_inj newer_mem older_mem same] at later
        exact Nat.lt_irrefl _ later
    · exact greater
  refine List.Perm.eq_of_pairwise (fun older newer _ _ less more => ?_) ascending
    (numbered.filter _) ((List.reverse_perm _).trans (store.list_perm user))
  exact absurd (UInt64.lt_trans less more) (UInt64.lt_irrefl _)

theorem perform_create_of_room {store : HistoryStore} (room : store.lastId.toNat ≠ Text.wordLimit)
    (user : String) (record : HistoryRecord) (now : Instant) :
    store.perform (.create user record now) =
      (.created ⟨store.lastId + 1, user, record, now⟩,
        ⟨store.lastId + 1, store.rows ++ [⟨store.lastId + 1, user, record, now⟩]⟩) := by
  simp only [perform, create, if_neg room]

theorem perform_create_of_exhausted {store : HistoryStore}
    (full : store.lastId.toNat = Text.wordLimit) (user : String) (record : HistoryRecord)
    (now : Instant) :
    store.perform (.create user record now) = (.refused .idsExhausted, store) := by
  simp only [perform, create, if_pos full]

theorem toNat_le_wordLimit (id : UInt64) : id.toNat ≤ Text.wordLimit :=
  Nat.le_of_lt_succ id.toNat_lt

theorem toNat_lastId_add_one {store : HistoryStore}
    (room : store.lastId.toNat ≠ Text.wordLimit) :
    (store.lastId + 1).toNat = store.lastId.toNat + 1 := by
  have bound := toNat_le_wordLimit store.lastId
  have limit : Text.wordLimit = 18446744073709551615 := rfl
  rw [UInt64.toNat_add, show (1 : UInt64).toNat = 1 from rfl, Nat.mod_eq_of_lt (by omega)]

theorem added_eq_givenBy (store : HistoryStore) (call? : Option HistoryCall) :
    ((store.after call?).rows.drop store.rows.length).map HistoryRow.id = store.givenBy call? := by
  cases call? with
  | none => simp [after, givenBy]
  | some call =>
    cases call with
    | list user => simp [after, givenBy, perform, HistoryAnswer.given]
    | create user record now =>
      by_cases full : store.lastId.toNat = Text.wordLimit
      · simp [after, givenBy, perform_create_of_exhausted full, HistoryAnswer.given]
      · simp [after, givenBy, perform_create_of_room full, HistoryAnswer.given]
    | delete user id =>
      have fewer : (store.delete user id).2.rows.length ≤ store.rows.length :=
        List.length_filter_le ..
      simp [after, givenBy, perform, HistoryAnswer.given, fewer]

theorem delete_eq_of_kept {store : HistoryStore} {user : String} {id : UInt64}
    {kept : List HistoryRow}
    (kept_eq : (store.rows.filter fun row => !(row.id = id && row.user = user)) = kept) :
    store.delete user id =
      (decide (kept.length ≠ store.rows.length), { store with rows := kept }) := by
  subst kept_eq
  rfl

theorem delete_cases {store : HistoryStore} (numbered : Numbered store.rows) (user : String)
    (id : UInt64) :
    (∃ before row behind, store.rows = before ++ row :: behind ∧ row.user = user ∧ row.id = id ∧
      store.delete user id = (true, { store with rows := before ++ behind })) ∨
    ((∀ row ∈ store.rows, row.user = user → row.id ≠ id) ∧
      store.delete user id = (false, store)) := by
  by_cases found : ∃ row ∈ store.rows, row.user = user ∧ row.id = id
  case pos =>
    -- What stands before the row has smaller identifiers and what stands behind it greater ones.
    obtain ⟨row, member, rfl, rfl⟩ := found
    obtain ⟨before, behind, split⟩ := List.append_of_mem member
    refine .inl ⟨before, row, behind, split, rfl, rfl, ?_⟩
    rw [Numbered, split, List.pairwise_append, List.pairwise_cons] at numbered
    have kept : (store.rows.filter fun other => !(other.id = row.id && other.user = row.user)) =
        before ++ behind := by
      rw [split, List.filter_append, List.filter_cons_of_neg (by simp),
        List.filter_eq_self.mpr, List.filter_eq_self.mpr]
      · intro other later
        simp [(UInt64.ne_of_lt (numbered.2.1.1 other later)).symm]
      · intro other earlier
        simp [UInt64.ne_of_lt (numbered.2.2 other earlier row List.mem_cons_self)]
    rw [delete_eq_of_kept kept, split]
    simp
  case neg =>
    have missing : ∀ row ∈ store.rows, row.user = user → row.id ≠ id :=
      fun row member owned named => found ⟨row, member, owned, named⟩
    refine .inr ⟨missing, ?_⟩
    have kept : (store.rows.filter fun row => !(row.id = id && row.user = user)) = store.rows :=
      List.filter_eq_self.mpr fun row member => by
        by_cases owned : row.user = user
        · simp [missing row member owned]
        · simp [owned]
    rw [delete_eq_of_kept kept]
    simp

end HistoryStore

end StylesheetRunner
