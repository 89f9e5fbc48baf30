import Mathlib.Data.List.Induction
import StylesheetRunner.Proofs.History.Calls

/-!
The history over whole runs. What the calls so far and their answers say decides what a call does:
a list shows the rows that were created and not removed since, a deletion takes out one of them, and
a creation gives an identifier that was never given before.
-/

namespace StylesheetRunner

namespace HistoryExchange

def creating (row : HistoryRow) : HistoryExchange :=
  ⟨.create row.user row.record row.createdAt, .created row⟩

def removing (row : HistoryRow) : HistoryExchange :=
  ⟨.delete row.user row.id, .deleted true⟩

def created? (exchange : HistoryExchange) : Option HistoryRow :=
  match exchange.answer with
  | .created row => some row
  | _ => none

end HistoryExchange

namespace HistoryStore

def createdRows (log : List HistoryExchange) : List HistoryRow :=
  log.filterMap HistoryExchange.created?

/-- A row was created by one of the exchanges and removed by none behind it. -/
def Lives (log : List HistoryExchange) (row : HistoryRow) : Prop :=
  ∃ before behind, log = before ++ .creating row :: behind ∧ .removing row ∉ behind

def SteadyClock (log : List HistoryExchange) : Prop :=
  (createdRows log).Pairwise fun older newer =>
    older.createdAt.nanoseconds ≤ newer.createdAt.nanoseconds

inductive Serves (log : List HistoryExchange) (store : HistoryStore) :
    HistoryCall → HistoryAnswer × HistoryStore → Prop
  | listed {user : String} {rows : List HistoryRow}
      (living : ∀ row, row ∈ rows ↔ row.user = user ∧ Lives log row)
      (once : rows.Nodup)
      (sorted : rows.Pairwise HistoryRow.Newer)
      (reversed : SteadyClock log → rows.reverse.Sublist (createdRows log)) :
      Serves log store (.list user) (.listed rows, store)
  | created {user : String} {record : HistoryRecord} {now : Instant} {id : UInt64}
      (room : store.lastId.toNat < Text.wordLimit)
      (fresh : ∀ earlier ∈ createdRows log, earlier.id < id)
      (next : id.toNat = store.lastId.toNat + 1) :
      Serves log store (.create user record now)
        (.created ⟨id, user, record, now⟩, ⟨id, store.rows ++ [⟨id, user, record, now⟩]⟩)
  | exhausted {user : String} {record : HistoryRecord} {now : Instant}
      (full : store.lastId.toNat = Text.wordLimit) :
      Serves log store (.create user record now) (.refused .idsExhausted, store)
  | deleted {row : HistoryRow} {before behind : List HistoryRow}
      (lives : Lives log row)
      (split : store.rows = before ++ row :: behind) :
      Serves log store (.delete row.user row.id)
        (.deleted true, { store with rows := before ++ behind })
  | missing {user : String} {id : UInt64}
      (absent : ∀ row, Lives log row → row.user = user → row.id ≠ id) :
      Serves log store (.delete user id) (.deleted false, store)

theorem createdRows_concat (log : List HistoryExchange) (exchange : HistoryExchange) :
    createdRows (log ++ [exchange]) = createdRows log ++ exchange.created?.toList := by
  rw [createdRows, List.filterMap_append]
  cases made : exchange.created? <;> simp [createdRows, made]

theorem lives_concat_iff {log : List HistoryExchange} {exchange : HistoryExchange}
    {row : HistoryRow} :
    Lives (log ++ [exchange]) row ↔
      (Lives log row ∧ exchange ≠ .removing row) ∨ exchange = .creating row := by
  constructor
  · rintro ⟨before, behind, split, kept⟩
    -- The last exchange is the creation itself, or it stands behind it and must not remove the row.
    rcases List.eq_nil_or_concat' behind with rfl | ⟨init, last, rfl⟩
    · exact .inr (List.append_inj' split rfl).2
        |> Or.imp_right fun same => List.singleton_inj.mp same
    · rw [← List.cons_append, ← List.append_assoc] at split
      obtain ⟨rfl, same⟩ := List.append_inj' split rfl
      obtain rfl := List.singleton_inj.mp same
      rw [List.mem_append, List.mem_singleton, not_or] at kept
      exact .inl ⟨⟨before, init, rfl, kept.1⟩, fun removed => kept.2 removed.symm⟩
  · rintro (⟨⟨before, behind, rfl, kept⟩, different⟩ | rfl)
    · refine ⟨before, behind ++ [exchange], by simp, ?_⟩
      rw [List.mem_append, List.mem_singleton, not_or]
      exact ⟨kept, fun removed => different removed.symm⟩
    · exact ⟨log, [], rfl, List.not_mem_nil⟩

/-- The rows of a store are the living rows of a log, and the last identifier bounds all that were
given. -/
structure Represents (log : List HistoryExchange) (store : HistoryStore) : Prop where
  living : ∀ row, row ∈ store.rows ↔ Lives log row
  sublist : store.rows.Sublist (createdRows log)
  numbered : Numbered (createdRows log)
  bounded : ∀ row ∈ createdRows log, row.id ≤ store.lastId
  counted : store.lastId.toNat = (createdRows log).length

namespace Represents

variable {log : List HistoryExchange} {store : HistoryStore}

theorem empty : Represents [] .empty where
  living row := by simp [HistoryStore.empty, Lives]
  sublist := List.nil_sublist _
  numbered := .nil
  bounded row member := nomatch member
  counted := rfl

theorem numbered_rows (represents : Represents log store) : Numbered store.rows :=
  represents.numbered.sublist represents.sublist

theorem serves (represents : Represents log store) (call : HistoryCall) :
    Serves log store call (store.perform call) := by
  have numbered := represents.numbered_rows
  cases call with
  | list user =>
    refine .listed (fun row => ?_) (nodup_list numbered user) (sorted_list numbered user) ?_
    · rw [mem_list_iff, represents.living]
    · intro steady
      rw [reverse_list_of_steady numbered (steady.sublist represents.sublist)]
      exact List.filter_sublist.trans represents.sublist
  | create user record now =>
    by_cases full : store.lastId.toNat = Text.wordLimit
    · rw [perform_create_of_exhausted full]
      exact .exhausted full
    · rw [perform_create_of_room full]
      have next := toNat_lastId_add_one full
      refine .created ?_ (fun earlier member => ?_) next
      · have bound := toNat_le_wordLimit (store.lastId + 1)
        omega
      · have bound := UInt64.le_iff_toNat_le.mp (represents.bounded earlier member)
        rw [UInt64.lt_iff_toNat_lt]
        omega
  | delete user id =>
    rw [HistoryStore.perform]
    rcases delete_cases numbered user id with
      ⟨before, row, behind, split, rfl, rfl, done⟩ | ⟨absent, done⟩
    · rw [done]
      exact .deleted ((represents.living row).mp (by simp [split])) split
    · rw [done]
      exact .missing fun row lives => absent row ((represents.living row).mpr lives)

theorem concat_of_idle (represents : Represents log store) {exchange : HistoryExchange}
    (idle : exchange.created? = none) (keeps : ∀ row, exchange ≠ .removing row) :
    Represents (log ++ [exchange]) store := by
  have same_rows : createdRows (log ++ [exchange]) = createdRows log := by
    rw [createdRows_concat, idle, Option.toList_none, List.append_nil]
  have creates_nothing : ∀ row, exchange ≠ .creating row := by
    rintro row rfl
    exact nomatch idle
  refine ⟨fun row => ?_, ?_, ?_, ?_, ?_⟩
  · rw [lives_concat_iff, represents.living]
    simp [keeps row, creates_nothing row]
  all_goals rw [same_rows]
  · exact represents.sublist
  · exact represents.numbered
  · exact represents.bounded
  · exact represents.counted

theorem concat_of_created (represents : Represents log store) {row : HistoryRow}
    (fresh : ∀ earlier ∈ createdRows log, earlier.id < row.id)
    (next : row.id.toNat = store.lastId.toNat + 1) :
    Represents (log ++ [.creating row]) ⟨row.id, store.rows ++ [row]⟩ := by
  have all_rows : createdRows (log ++ [.creating row]) = createdRows log ++ [row] :=
    createdRows_concat ..
  refine ⟨fun other => ?_, ?_, ?_, ?_, ?_⟩
  · have same_iff : HistoryExchange.creating row = .creating other ↔ other = row :=
      ⟨fun same => (HistoryAnswer.created.inj (congrArg HistoryExchange.answer same)).symm,
        fun same => same ▸ rfl⟩
    have not_removing : HistoryExchange.creating row ≠ .removing other := nofun
    rw [lives_concat_iff, same_iff, List.mem_append, List.mem_singleton, represents.living]
    simp [not_removing]
  all_goals rw [all_rows]
  · exact represents.sublist.append (List.Sublist.refl _)
  · exact List.pairwise_append.mpr ⟨represents.numbered, List.pairwise_singleton .., by
      simpa using fresh⟩
  · intro earlier member
    rcases List.mem_append.mp member with old | new
    · exact UInt64.le_of_lt (fresh earlier old)
    · exact UInt64.le_of_eq (congrArg HistoryRow.id (List.mem_singleton.mp new))
  · rw [List.length_append, List.length_singleton, next, represents.counted]

theorem concat_of_deleted (represents : Represents log store) {row : HistoryRow}
    {before behind : List HistoryRow} (split : store.rows = before ++ row :: behind) :
    Represents (log ++ [.removing row]) { store with rows := before ++ behind } := by
  have same_rows : createdRows (log ++ [.removing row]) = createdRows log := by
    rw [createdRows_concat]
    exact List.append_nil _
  have numbered := represents.numbered_rows
  have once : row ∉ before ++ behind := (List.nodup_middle.mp (split ▸ numbered.nodup)).notMem
  refine ⟨fun other => ?_, ?_, ?_, ?_, ?_⟩
  · have member_iff : other ∈ store.rows ↔ other = row ∨ other ∈ before ++ behind := by
      rw [split, List.mem_append, List.mem_cons, List.mem_append]
      exact or_left_comm
    have not_creating : HistoryExchange.removing row ≠ .creating other := nofun
    rw [lives_concat_iff, ← represents.living]
    simp only [not_creating, or_false]
    constructor
    · -- Another row is not named by the deletion, because no two rows share an identifier.
      intro kept
      have member := member_iff.mpr (.inr kept)
      refine ⟨member, fun same => once ?_⟩
      have same_id : row.id = other.id :=
        (HistoryCall.delete.inj (congrArg HistoryExchange.call same)).2
      rwa [numbered.id_inj (split ▸ by simp) member same_id]
    · rintro ⟨member, different⟩
      exact (member_iff.mp member).resolve_left fun same => different (same ▸ rfl)
  all_goals rw [same_rows]
  · have fewer : (before ++ behind).Sublist store.rows := by
      rw [split]
      exact (List.Sublist.refl before).append (List.sublist_cons_self row behind)
    exact fewer.trans represents.sublist
  · exact represents.numbered
  · exact represents.bounded
  · exact represents.counted

theorem perform (represents : Represents log store) (call : HistoryCall) :
    Represents (log ++ [⟨call, (store.perform call).1⟩]) (store.perform call).2 := by
  have serves := represents.serves call
  generalize store.perform call = done at serves
  cases serves with
  | listed => exact represents.concat_of_idle rfl fun row => nofun
  | @created user record now id room fresh next =>
    exact @concat_of_created log store represents ⟨id, user, record, now⟩ fresh next
  | exhausted => exact represents.concat_of_idle rfl fun row => nofun
  | deleted lives split => exact represents.concat_of_deleted split
  | missing => exact represents.concat_of_idle rfl fun row => nofun

theorem run (calls : List HistoryCall) :
    Represents (HistoryStore.empty.run calls).1 (HistoryStore.empty.run calls).2 := by
  -- From the end, since a log grows there.
  induction calls using List.reverseRecOn with
  | nil => exact .empty
  | append_singleton calls call ih =>
    rw [run_concat]
    exact ih.perform call

end Represents

/-- **The history over whole runs.** After any calls on a new history, every further call does what
the calls so far and their answers demand, and the last identifier counts the rows ever created. -/
theorem run_serves (calls : List HistoryCall) (call : HistoryCall) :
    let log := (empty.run calls).1
    let store := (empty.run calls).2
    store.lastId.toNat = (createdRows log).length ∧ Serves log store call (store.perform call) :=
  ⟨(Represents.run calls).counted, (Represents.run calls).serves call⟩

end HistoryStore

end StylesheetRunner
