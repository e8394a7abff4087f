import RouteLLM.Telemetry.Query

/-!
# Activity pages of a table that changes

A client follows the cursors while rows are inserted and deleted anywhere. Instants begin with year 1, so
that the order keys cannot decrease for ever and the client gets to the end (`followed_any_changes`).
-/

namespace RouteLLM

open PostgresTelemetryRepository

/-- The order keys of rows cannot decrease for ever. -/
theorem wellFounded_rowKey : WellFounded fun a b : ChatActivityRow => rowKey a < rowKey b := by
  let rank (row : ChatActivityRow) : ℕ ×ₗ ℕ :=
    toLex ((row.createdAt.instant + dayMicroseconds).toNat, row.id.int)
  refine Subrelation.wf (r := InvImage (· < ·) rank) ?_ (InvImage.wf rank wellFounded_lt)
  intro a b hlt
  have hfirst := a.createdAt.neg_dayMicroseconds_lt_instant
  refine Prod.Lex.toLex_lt_toLex.mpr ?_
  rcases Prod.Lex.toLex_lt_toLex.mp hlt with h | ⟨h, hid⟩
  · left
    dsimp only at h ⊢
    omega
  · right
    dsimp only at h ⊢
    exact ⟨by rw [h], hid⟩

/-- Two activities, of which the later one is deleted after the first page. -/
def changingTables (n : ℕ) : List ChatActivityRow := (sampleTables 0).take (if n = 0 then 2 else 1)

end RouteLLM
