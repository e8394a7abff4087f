import Mathlib.Data.List.TakeWhile

/-!
# Marked words

A text put together of words that each start with a mark, and hold no other, is read back in one way only.
-/

namespace MarkedWords

variable {α σ : Type*} {mark : α → Bool} {word : σ → List α} {ss ts : List σ}

/-- A word that starts with a mark and holds no other. -/
def Marked (mark : α → Bool) (w : List α) : Prop := ∃ c body, w = c :: body ∧ mark c = true ∧ ∀ b ∈ body, mark b = false

/-- What follows the body of a word starts with a mark, if there is any. -/
theorem takeWhile_body {body rest : List α} (hbody : ∀ b ∈ body, mark b = false)
    (hrest : ∀ c ∈ rest.head?, mark c = true) : (body ++ rest).takeWhile (fun c => !mark c) = body := by
  rw [List.takeWhile_append_of_pos fun b hb => by simp [hbody b hb]]
  cases rest with
  | nil => simp
  | cons c rest => simp [hrest c rfl]

/-- A text of marked words starts with a mark, if it is not empty. -/
theorem head?_flatMap (h : ∀ s ∈ ss, Marked mark (word s)) : ∀ c ∈ (ss.flatMap word).head?, mark c = true := by
  intro c hc
  cases ss with
  | nil => cases hc
  | cons s ss =>
    obtain ⟨d, body, hword, hmark, -⟩ := h s (.head _)
    rw [List.flatMap_cons, hword] at hc
    cases hc
    exact hmark

/-- **Texts of marked words are equal only where the words are.** -/
theorem flatMap_injective (hs : ∀ s ∈ ss, Marked mark (word s)) (ht : ∀ t ∈ ts, Marked mark (word t))
    (hinj : ∀ s ∈ ss, ∀ t ∈ ts, word s = word t → s = t) (h : ss.flatMap word = ts.flatMap word) : ss = ts := by
  induction ss generalizing ts with
  | nil =>
    cases ts with
    | nil => rfl
    | cons t ts =>
      obtain ⟨c, body, hword, -⟩ := ht t (.head _)
      simp [hword] at h
  | cons s ss ih =>
    obtain ⟨c, body, hword, -, hbody⟩ := hs s (.head _)
    cases ts with
    | nil => simp [hword] at h
    | cons t ts =>
      obtain ⟨c', body', hword', -, hbody'⟩ := ht t (.head _)
      have hs' := fun x hx => hs x (.tail s hx)
      have ht' := fun x hx => ht x (.tail t hx)
      rw [List.flatMap_cons, List.flatMap_cons, hword, hword', List.cons_append, List.cons_append, List.cons.injEq] at h
      -- The first words end at the first mark after theirs.
      have hbodies : body = body' := by
        have htake := congrArg (List.takeWhile fun c => !mark c) h.2
        rwa [takeWhile_body hbody (head?_flatMap hs'), takeWhile_body hbody' (head?_flatMap ht')] at htake
      have hrest : ss.flatMap word = ts.flatMap word := List.append_cancel_left (hbodies ▸ h.2)
      rw [hinj s (.head _) t (.head _) (by rw [hword, hword', h.1, hbodies]),
        ih hs' ht' (fun x hx y hy => hinj x (.tail s hx) y (.tail t hy)) hrest]

end MarkedWords
