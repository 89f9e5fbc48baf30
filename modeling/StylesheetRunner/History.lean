import StylesheetRunner.History.Record
import StylesheetRunner.Instant

/-!
The history: rows that users create, list and delete, each user seeing only rows of their own.
-/

namespace StylesheetRunner

structure HistoryRow where
  id : UInt64
  user : String
  record : HistoryRecord
  createdAt : Instant
deriving DecidableEq, Repr

inductive HistoryError where
  | idsExhausted
  | unavailable
deriving DecidableEq, Repr

def HistoryError.message : HistoryError → String
  | .idsExhausted => "history storage error: record ids exhausted"
  | .unavailable => "history storage error: unavailable"

/-- All rows, in the order of their creation, and the last identifier given out. -/
structure HistoryStore where
  lastId : UInt64
  rows : List HistoryRow
deriving DecidableEq, Repr

namespace HistoryRow

/-- Whether a row comes before another in a list: the later one first, and of two created at one
time the one with the greater identifier. -/
def precedes (left right : HistoryRow) : Bool :=
  right.createdAt.nanoseconds < left.createdAt.nanoseconds ||
    (left.createdAt = right.createdAt && right.id ≤ left.id)

def toValue (row : HistoryRow) : Json.Value :=
  .object ([("id", .natural row.id.toNat), ("user_id", .text row.user)] ++ row.record.members ++
    [("created_at", .text row.createdAt.text)])

end HistoryRow

namespace HistoryStore

def empty : HistoryStore := ⟨0, []⟩

/-- The rows of a user, newest first. -/
def list (store : HistoryStore) (user : String) : List HistoryRow :=
  (store.rows.filter fun row => row.user = user).mergeSort HistoryRow.precedes

def create (store : HistoryStore) (user : String) (record : HistoryRecord) (now : Instant) :
    Except HistoryError (HistoryRow × HistoryStore) :=
  if store.lastId.toNat = Text.wordLimit then .error .idsExhausted
  else
    let id := store.lastId + 1
    let row : HistoryRow := ⟨id, user, record, now⟩
    .ok (row, ⟨id, store.rows ++ [row]⟩)

def delete (store : HistoryStore) (user : String) (id : UInt64) : Bool × HistoryStore :=
  let kept := store.rows.filter fun row => !(row.id = id && row.user = user)
  (kept.length ≠ store.rows.length, { store with rows := kept })

end HistoryStore

end StylesheetRunner
