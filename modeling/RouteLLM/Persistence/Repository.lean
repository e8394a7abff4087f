import Mathlib.Data.Prod.Lex
import RouteLLM.Lib.Keyset
import RouteLLM.Lib.PyDateTime
import RouteLLM.Lib.PyUuid
import RouteLLM.Telemetry.Activity

/-!
# The telemetry repository

`list_chat_activity` of `persistence/repository.py`. A table is the list of its rows in any order; the
database compares the creation times as instants and the ids as numbers.
-/

namespace RouteLLM

/-- A row of `chat_activity`, which is read as the record it was written from. -/
structure ChatActivityRow where
  id : PyUuid
  createdAt : PyDateTime
  aware : createdAt.offset.isSome
  activity : ChatActivityRecord
  deriving DecidableEq

namespace PostgresTelemetryRepository

/-- What the rows are ordered by: the creation time, then the id. -/
def activityKey (createdAt : PyDateTime) (rowId : PyUuid) : ℤ ×ₗ ℕ :=
  toLex (createdAt.instant, rowId.int)

/-- The order key of a row. -/
def rowKey (row : ChatActivityRow) : ℤ ×ₗ ℕ := activityKey row.createdAt row.id

/-- The `WHERE` clause. -/
def isBefore (before : Option (PyDateTime × PyUuid)) (row : ChatActivityRow) : Bool :=
  match before with
  | none => true
  | some (createdAt, rowId) =>
    row.createdAt.instant < createdAt.instant ||
      (row.createdAt.instant = createdAt.instant && row.id.int < rowId.int)

/-- `list_chat_activity`: one row more than the limit is selected, in decreasing order. -/
def listChatActivity (rows : List ChatActivityRow) (limit : ℕ)
    (before : Option (PyDateTime × PyUuid)) : List ChatActivityRow × Bool :=
  let selected := (Keyset.newestFirst rowKey (rows.filter (isBefore before))).take (limit + 1)
  (selected.take limit, limit < selected.length)

/-- The order key that a page starts after. -/
def beforeKey (before : Option (PyDateTime × PyUuid)) : Option (ℤ ×ₗ ℕ) :=
  before.map fun b => activityKey b.1 b.2

/-- The clause compares the order keys. -/
theorem isBefore_eq (before : Option (PyDateTime × PyUuid)) (row : ChatActivityRow) :
    isBefore before row = decide (∀ k ∈ beforeKey before, rowKey row < k) := by
  cases before with
  | none => simp [isBefore, beforeKey]
  | some b =>
    have hlt : rowKey row < activityKey b.1 b.2 ↔ row.createdAt.instant < b.1.instant ∨
        row.createdAt.instant = b.1.instant ∧ row.id.int < b.2.int := Prod.Lex.toLex_lt_toLex
    simp [isBefore, beforeKey, hlt]

/-- The listing is a page of the table. -/
theorem listChatActivity_eq_page (rows : List ChatActivityRow) (limit : ℕ)
    (before : Option (PyDateTime × PyUuid)) :
    listChatActivity rows limit before =
      Keyset.page rowKey rows limit (beforeKey before) := by
  have hfilter : isBefore before = fun row => decide (∀ k ∈ beforeKey before, rowKey row < k) :=
    funext (isBefore_eq before)
  rw [listChatActivity, hfilter]
  rfl

/-- Rows of distinct ids have distinct order keys. -/
theorem nodup_rowKey {rows : List ChatActivityRow} (h : (rows.map (·.id)).Nodup) :
    (rows.map rowKey).Nodup := by
  refine List.pairwise_map.mpr ((List.pairwise_map.mp h).imp fun hne heq => hne ?_)
  exact PyUuid.ext (congrArg (fun k => (ofLex k).2) heq)

end PostgresTelemetryRepository

end RouteLLM
