import Mathlib.Data.List.TakeDrop
import RouteLLM.Lib.KeySort

/-!
# Keyset pagination

A table is read in pages of its rows, newest first: each page holds the rows below the key of the last
row that was read, up to a limit, and looks one row ahead to tell whether more are left. A `Walk` reads
page after page, each from the table as it then is. Rows that are inserted above the first page are
not seen, and every other row is visited once (`Walk.exists_flatten_eq`). Whatever else becomes of the
table, the pages go down (`Walk.pairwise`), hold rows of the tables they were read from
(`Walk.exists_table`) and miss no row that was there all along (`Walk.mem_flatten`), and they come to an
end where keys cannot decrease for ever (`Walk.exists_of_wellFounded`).
-/

namespace Keyset

variable {α κ : Type*} [LinearOrder κ] (key : α → κ)

/-- The rows in decreasing order of their keys. -/
def newestFirst (rows : List α) : List α := KeySort.sortBy (fun r => OrderDual.toDual (key r)) rows

/-- The rows below a key, newest first. Without a key, all of them. -/
def remaining (rows : List α) (before : Option κ) : List α :=
  newestFirst key (rows.filter fun r => ∀ k ∈ before, key r < k)

/-- A page, and whether rows are left after it. -/
def page (rows : List α) (limit : ℕ) (before : Option κ) : List α × Bool :=
  let found := (remaining key rows before).take (limit + 1)
  (found.take limit, limit < found.length)

/-- The key after which the next page starts. -/
def next (p : List α × Bool) : Option κ := if p.2 then p.1.getLast?.map key else none

/-- The pages from the `n`th on. -/
inductive Walk (tables : ℕ → List α) (limits : ℕ → ℕ) : ℕ → Option κ → List (List α) → Prop
  | last {n : ℕ} {before : Option κ} (h : next key (page key (tables n) (limits n) before) = none) :
      Walk tables limits n before [(page key (tables n) (limits n) before).1]
  | next {n : ℕ} {before : Option κ} {k : κ} {pages : List (List α)}
      (h : next key (page key (tables n) (limits n) before) = some k)
      (hrest : Walk tables limits (n + 1) (some k) pages) :
      Walk tables limits n before ((page key (tables n) (limits n) before).1 :: pages)

variable {key} {rows rows' : List α} {limit : ℕ} {before : Option κ}

variable (key) in
theorem newestFirst_perm (rows : List α) : (newestFirst key rows).Perm rows :=
  KeySort.sortBy_perm _ rows

/-- Rows without ties are in strictly decreasing order. -/
theorem newestFirst_pairwise (hnodup : (rows.map key).Nodup) :
    (newestFirst key rows).Pairwise fun a b => key b < key a := by
  have hsorted := KeySort.sortBy_pairwise (fun r => OrderDual.toDual (key r)) rows
  have hdistinct : (newestFirst key rows).Pairwise fun a b => key a ≠ key b :=
    List.pairwise_map.mp (((newestFirst_perm key rows).map key).nodup_iff.mpr hnodup)
  exact (hsorted.and hdistinct).imp fun h => lt_of_le_of_ne h.1 (Ne.symm h.2)

/-- Rows without ties have one order. -/
theorem newestFirst_congr (hnodup : (rows.map key).Nodup) (hperm : rows'.Perm rows) :
    newestFirst key rows' = newestFirst key rows := by
  refine KeySort.sortBy_congr ?_ hperm
  have hinj := hnodup.map OrderDual.toDual.injective
  rwa [List.map_map] at hinj

/-- A list in strictly decreasing order is its own order. -/
theorem newestFirst_eq_self {rows : List α} (h : rows.Pairwise fun a b => key b < key a) :
    newestFirst key rows = rows := by
  have hnodup : (rows.map fun r => OrderDual.toDual (key r)).Nodup :=
    List.pairwise_map.mpr (h.imp fun hlt heq => absurd heq hlt.ne')
  exact (KeySort.eq_sortBy hnodup (List.Perm.refl _) (h.imp le_of_lt)).symm

/-- A page is the first rows that remain, and looks ahead to the one after them. -/
theorem page_eq (rows : List α) (limit : ℕ) (before : Option κ) :
    page key rows limit before =
      ((remaining key rows before).take limit,
        decide (limit < (remaining key rows before).length)) := by
  unfold page
  dsimp only
  rw [List.take_take, min_eq_left (Nat.le_succ limit)]
  simp only [List.length_take, Prod.mk.injEq, decide_eq_decide, true_and]
  omega

theorem remaining_none (rows : List α) : remaining key rows none = newestFirst key rows := by
  simp [remaining]

omit [LinearOrder κ] in
theorem nodup_filter_keys (hnodup : (rows.map key).Nodup) (p : α → Bool) :
    ((rows.filter p).map key).Nodup :=
  hnodup.sublist (List.filter_sublist.map key)

/-- What remains are the rows below the key. -/
theorem mem_remaining {r : α} :
    r ∈ remaining key rows before ↔ r ∈ rows ∧ ∀ k ∈ before, key r < k := by
  rw [remaining, (newestFirst_perm key _).mem_iff, List.mem_filter, decide_eq_true_iff]

theorem remaining_pairwise (hnodup : (rows.map key).Nodup) (before : Option κ) :
    (remaining key rows before).Pairwise fun a b => key b < key a :=
  newestFirst_pairwise (nodup_filter_keys hnodup _)

/-- After a row, the rows that stand behind it remain. -/
theorem remaining_some_of_append {front back : List α} {r : α} (hnodup : (rows.map key).Nodup)
    (h : remaining key rows before = front ++ r :: back) :
    remaining key rows (some (key r)) = back := by
  have hsorted := remaining_pairwise hnodup before
  rw [h, List.pairwise_append, List.pairwise_cons] at hsorted
  obtain ⟨-, ⟨hback, hbacks⟩, hfront⟩ := hsorted
  have hperm := newestFirst_perm key (rows.filter fun r => ∀ k ∈ before, key r < k)
  -- The row is itself below the key that the page started from, and so is what is below the row.
  have hbelow : ∀ k ∈ before, key r < k := by
    have hmem : r ∈ remaining key rows before := h ▸ List.mem_append_right front (.head _)
    simpa using (List.mem_filter.mp (hperm.mem_iff.mp hmem)).2
  have hfilter : (rows.filter fun x => ∀ k ∈ some (key r), key x < k) =
      (rows.filter fun x => ∀ k ∈ before, key x < k).filter fun x => key x < key r := by
    rw [List.filter_filter]
    refine List.filter_congr fun x _ => ?_
    simp only [Option.mem_some_iff, forall_eq', ← Bool.decide_and, decide_eq_decide]
    exact ⟨fun hlt => ⟨hlt, fun k hk => hlt.trans (hbelow k hk)⟩, fun hlt => hlt.1⟩
  have hrest : (rows.filter fun x => ∀ k ∈ some (key r), key x < k).Perm back := by
    rw [hfilter]
    refine (hperm.symm.filter _).trans ?_
    rw [show newestFirst key _ = front ++ r :: back from h, List.filter_append]
    have hnone : front.filter (fun x => key x < key r) = [] := by
      refine List.filter_eq_nil_iff.mpr fun x hx => ?_
      simpa using (hfront x hx r (.head _)).le
    have hall : back.filter (fun x => key x < key r) = back :=
      List.filter_eq_self.mpr fun x hx => decide_eq_true (hback x hx)
    rw [hnone, List.filter_cons_of_neg (by simp), hall, List.nil_append]
  have hkeys : (back.map key).Nodup := (hrest.map key).nodup_iff.mp (nodup_filter_keys hnodup _)
  rw [remaining, newestFirst_congr hkeys hrest, newestFirst_eq_self hbacks]

/-- Rows that are inserted above a key do not remain below it. -/
theorem remaining_congr {inserted : List α} {k : κ} (hnodup : (rows.map key).Nodup)
    (hperm : rows'.Perm (inserted ++ rows)) (habove : ∀ r ∈ inserted, k ≤ key r) :
    remaining key rows' (some k) = remaining key rows (some k) := by
  refine newestFirst_congr (nodup_filter_keys hnodup _) ?_
  refine (hperm.filter _).trans ?_
  rw [List.filter_append]
  have hnone : inserted.filter (fun r => ∀ x ∈ some k, key r < x) = [] := by
    refine List.filter_eq_nil_iff.mpr fun r hr => ?_
    simpa using habove r hr
  rw [hnone, List.nil_append]

variable (key) in
/-- A page is the last one and holds what remains, or it ends in the row whose key it hands on. -/
theorem page_cases (hlimit : 1 ≤ limit) (rows : List α) (before : Option κ) :
    (next key (page key rows limit before) = none ∧
      (page key rows limit before).1 = remaining key rows before) ∨
    ∃ front r back, remaining key rows before = front ++ r :: back ∧
      (page key rows limit before).1 = front ++ [r] ∧
      next key (page key rows limit before) = some (key r) := by
  rw [page_eq]
  generalize remaining key rows before = xs
  by_cases h : limit < xs.length
  · right
    have hlen : (xs.take limit).length = limit := by
      rw [List.length_take]
      omega
    have hne : xs.take limit ≠ [] := by
      rw [← List.length_pos_iff, hlen]
      omega
    obtain ⟨front, r, hfront⟩ := (xs.take limit).eq_nil_or_concat.resolve_left hne
    rw [List.concat_eq_append] at hfront
    refine ⟨front, r, xs.drop limit, ?_, hfront, ?_⟩
    · rw [← List.singleton_append, ← List.append_assoc, ← hfront, List.take_append_drop]
    · simp [next, h, hfront]
  · left
    refine ⟨?_, List.take_of_length_le (Nat.not_lt.mp h)⟩
    simp [next, h]

section walk

variable {tables : ℕ → List α} {limits : ℕ → ℕ}

/-- A walk goes down one path. -/
theorem Walk.unique {n : ℕ} {pages pages' : List (List α)} (h : Walk key tables limits n before pages)
    (h' : Walk key tables limits n before pages') : pages' = pages := by
  induction h generalizing pages' with
  | last hnone =>
    cases h' with
    | last _ => rfl
    | next hsome _ =>
      rw [hnone] at hsome
      cases hsome
  | next hsome _ ih =>
    cases h' with
    | last hnone =>
      rw [hnone] at hsome
      cases hsome
    | next hsome' hrest =>
      rw [hsome] at hsome'
      cases hsome'
      rw [ih hrest]

/-- Below a key under which the tables agree, a walk visits what remains, by induction on how much
that is. -/
theorem Walk.exists_flatten_eq_of_le {c : κ} (hlimits : ∀ n, 1 ≤ limits n)
    (hnodup : (rows.map key).Nodup)
    (hagree : ∀ n k, k ≤ c → remaining key (tables (n + 1)) (some k) = remaining key rows (some k))
    (m n : ℕ) {k : κ} (hk : k ≤ c) (hm : (remaining key rows (some k)).length ≤ m) :
    ∃ pages, Walk key tables limits (n + 1) (some k) pages ∧
      pages.flatten = remaining key rows (some k) := by
  induction m generalizing n k with
  | zero =>
    rcases page_cases key (hlimits (n + 1)) (tables (n + 1)) (some k) with ⟨hnone, hpage⟩ | hmore
    · refine ⟨_, .last hnone, ?_⟩
      rw [hpage, hagree n k hk, List.flatten_singleton]
    · obtain ⟨front, r, back, heq, -, -⟩ := hmore
      rw [hagree n k hk] at heq
      rw [heq] at hm
      simp at hm
  | succ m ih =>
    rcases page_cases key (hlimits (n + 1)) (tables (n + 1)) (some k) with ⟨hnone, hpage⟩ | hmore
    · refine ⟨_, .last hnone, ?_⟩
      rw [hpage, hagree n k hk, List.flatten_singleton]
    · obtain ⟨front, r, back, heq, hpage, hnext⟩ := hmore
      rw [hagree n k hk] at heq
      have hback := remaining_some_of_append hnodup heq
      have hr : key r ≤ k := by
        have hmem : r ∈ remaining key rows (some k) := heq ▸ List.mem_append_right front (.head _)
        have := (List.mem_filter.mp ((newestFirst_perm key _).mem_iff.mp hmem)).2
        exact le_of_lt (by simpa using this)
      have hlen : (remaining key rows (some (key r))).length ≤ m := by
        rw [hback]
        rw [heq, List.length_append, List.length_cons] at hm
        omega
      obtain ⟨pages, hwalk, hflatten⟩ := ih (n + 1) (hr.trans hk) hlen
      refine ⟨_, .next hnext hwalk, ?_⟩
      rw [List.flatten_cons, hpage, hflatten, hback, heq, List.append_assoc, List.singleton_append]

/-- **Every row is visited once**: a walk over a table into which rows are only inserted above the end
of its first page ends, and its pages are the rows of the table at the start in decreasing order. -/
theorem Walk.exists_flatten_eq (hlimits : ∀ n, 1 ≤ limits n) (hnodup : ((tables 0).map key).Nodup)
    (hinserted : ∀ n, ∃ inserted, (tables n).Perm (inserted ++ tables 0) ∧
      ∀ row ∈ inserted, ∀ last ∈ (page key (tables 0) (limits 0) none).1.getLast?,
        key last ≤ key row) :
    ∃ pages, Walk key tables limits 0 none pages ∧
      pages.flatten = newestFirst key (tables 0) := by
  have hall : newestFirst key (tables 0) = remaining key (tables 0) none :=
    (remaining_none (tables 0)).symm
  rw [hall]
  have hfirst := page_cases key (hlimits 0) (tables 0) none
  rcases hfirst with ⟨hnone, hpage⟩ | ⟨front, r, back, heq, hpage, hnext⟩
  · refine ⟨_, .last hnone, ?_⟩
    rw [hpage, List.flatten_singleton]
  · have hagree (n : ℕ) (k : κ) (hk : k ≤ key r) :
        remaining key (tables (n + 1)) (some k) = remaining key (tables 0) (some k) := by
      obtain ⟨inserted, hperm, habove⟩ := hinserted (n + 1)
      refine remaining_congr hnodup hperm fun row hrow => hk.trans (habove row hrow r ?_)
      simp [hpage]
    obtain ⟨pages, hwalk, hflatten⟩ :=
      Walk.exists_flatten_eq_of_le hlimits hnodup hagree _ 0 le_rfl le_rfl
    refine ⟨_, .next hnext hwalk, ?_⟩
    rw [List.flatten_cons, hpage, hflatten, remaining_some_of_append hnodup heq, heq,
      List.append_assoc, List.singleton_append]

/-! ### Tables that change in any way -/

/-- The row whose key a page hands on is on the page, and so below the key that the page started from. -/
theorem lt_of_next {k k' : κ} (hlimit : 1 ≤ limit)
    (h : next key (page key rows limit (some k)) = some k') : k' < k := by
  rcases page_cases key hlimit rows (some k) with ⟨hnone, -⟩ | ⟨front, r, back, heq, -, hnext⟩
  · rw [hnone] at h
    cases h
  · rw [hnext] at h
    cases h
    exact (mem_remaining.mp (heq ▸ List.mem_append_right front (.head _))).2 k rfl

/-- A page holds rows of its table, below the key that it starts from. -/
theorem mem_remaining_of_mem_page {r : α} (h : r ∈ (page key rows limit before).1) :
    r ∈ remaining key rows before := by
  rw [page_eq] at h
  exact List.mem_of_mem_take h

variable (key) in
/-- A page ends in the row whose key it hands on, and holds every row that remains down to it. -/
theorem page_of_next {k : κ} (hlimit : 1 ≤ limit) (hnodup : (rows.map key).Nodup)
    (h : next key (page key rows limit before) = some k) :
    (∀ r ∈ (page key rows limit before).1, k ≤ key r) ∧
      ∀ r ∈ remaining key rows before, r ∈ (page key rows limit before).1 ∨ key r < k := by
  rcases page_cases key hlimit rows before with ⟨hnone, -⟩ | ⟨front, r, back, heq, hpage, hnext⟩
  · rw [hnone] at h
    cases h
  · rw [hnext] at h
    cases h
    have hsorted := remaining_pairwise hnodup before
    rw [heq, List.pairwise_append, List.pairwise_cons] at hsorted
    obtain ⟨-, ⟨hback, -⟩, hfront⟩ := hsorted
    rw [hpage, heq]
    refine ⟨fun x hx => ?_, fun x hx => ?_⟩
    · rcases List.mem_append.mp hx with hx | hx
      · exact (hfront x hx r (.head _)).le
      · exact (congrArg key (List.mem_singleton.mp hx)).ge
    · rcases List.mem_append.mp hx with hx | hx
      · exact .inl (List.mem_append_left _ hx)
      · rcases List.mem_cons.mp hx with rfl | hx
        · exact .inl (List.mem_append_right _ (.head _))
        · exact .inr (hback x hx)

/-- A walk visits rows below the key that it starts from only. -/
theorem Walk.lt_of_mem {n : ℕ} {pages : List (List α)} (h : Walk key tables limits n before pages)
    (hlimits : ∀ n, 1 ≤ limits n) {r : α} (hr : r ∈ pages.flatten) : ∀ k ∈ before, key r < k := by
  induction h with
  | last _ =>
    rw [List.flatten_singleton] at hr
    exact (mem_remaining.mp (mem_remaining_of_mem_page hr)).2
  | @next n before k pages hnext _ ih =>
    rcases List.mem_append.mp hr with hfirst | hlater
    · exact (mem_remaining.mp (mem_remaining_of_mem_page hfirst)).2
    · intro start hstart
      cases hstart
      exact (ih hlater k rfl).trans (lt_of_next (hlimits n) hnext)

/-- **A walk goes down**, whatever the tables become: it visits no row twice. -/
theorem Walk.pairwise {n : ℕ} {pages : List (List α)} (h : Walk key tables limits n before pages)
    (hlimits : ∀ n, 1 ≤ limits n) (hnodup : ∀ n, ((tables n).map key).Nodup) :
    pages.flatten.Pairwise fun a b => key b < key a := by
  have hpage (n : ℕ) (before : Option κ) :
      (page key (tables n) (limits n) before).1.Pairwise fun a b => key b < key a := by
    rw [page_eq]
    exact (remaining_pairwise (hnodup n) before).sublist (List.take_sublist _ _)
  induction h with
  | last _ =>
    rw [List.flatten_singleton]
    exact hpage _ _
  | @next n before k pages hnext hrest ih =>
    rw [List.flatten_cons, List.pairwise_append]
    refine ⟨hpage _ _, ih, fun a ha b hb => ?_⟩
    exact (hrest.lt_of_mem hlimits hb k rfl).trans_le
      ((page_of_next key (hlimits n) (hnodup n) hnext).1 a ha)

/-- A page of a walk is no longer than its limit, and its rows are of the table it was read from. -/
theorem Walk.exists_table {n : ℕ} {pages : List (List α)} (h : Walk key tables limits n before pages)
    {i : ℕ} {p : List α} (hp : pages[i]? = some p) :
    p.length ≤ limits (n + i) ∧ ∀ r ∈ p, r ∈ tables (n + i) := by
  have hread (n : ℕ) (before : Option κ) : (page key (tables n) (limits n) before).1.length ≤ limits n ∧
      ∀ r ∈ (page key (tables n) (limits n) before).1, r ∈ tables n := by
    refine ⟨?_, fun r hr => (mem_remaining.mp (mem_remaining_of_mem_page hr)).1⟩
    rw [page_eq]
    exact List.length_take_le _ _
  induction h generalizing i with
  | last _ =>
    cases i with
    | zero =>
      cases hp
      exact hread _ _
    | succ i => cases hp
  | @next n before k pages _ _ ih =>
    cases i with
    | zero =>
      cases hp
      exact hread _ _
    | succ i =>
      rw [List.getElem?_cons_succ] at hp
      rw [← Nat.succ_add_eq_add_succ]
      exact ih hp

/-- **A walk misses no row that was there all along**: one that is in every table it reads. -/
theorem Walk.mem_flatten {n : ℕ} {pages : List (List α)} (h : Walk key tables limits n before pages)
    (hlimits : ∀ n, 1 ≤ limits n) (hnodup : ∀ n, ((tables n).map key).Nodup) {r : α}
    (hbelow : ∀ k ∈ before, key r < k) (hr : ∀ i < pages.length, r ∈ tables (n + i)) :
    r ∈ pages.flatten := by
  induction h with
  | @last n before hnone =>
    have hmem := mem_remaining.mpr ⟨hr 0 Nat.zero_lt_one, hbelow⟩
    rcases page_cases key (hlimits n) (tables n) before with ⟨-, hpage⟩ | ⟨_, _, _, -, -, hnext⟩
    · rwa [List.flatten_singleton, hpage]
    · rw [hnone] at hnext
      cases hnext
  | @next n before k pages hnext _ ih =>
    have hmem := mem_remaining.mpr ⟨hr 0 (Nat.succ_pos _), hbelow⟩
    rw [List.flatten_cons, List.mem_append]
    refine ((page_of_next key (hlimits n) (hnodup n) hnext).2 r hmem).imp_right fun hlt => ih ?_ ?_
    · rintro _ ⟨⟩
      exact hlt
    · intro i hi
      rw [Nat.succ_add_eq_add_succ]
      exact hr (i + 1) (Nat.succ_lt_succ hi)

/-- **A walk ends** where the keys of rows cannot decrease for ever, whatever the tables become. -/
theorem Walk.exists_of_wellFounded (hlimits : ∀ n, 1 ≤ limits n)
    (hwf : WellFounded fun a b : α => key a < key b) (n : ℕ) :
    ∃ pages, Walk key tables limits n none pages := by
  -- From the key of a row, by induction on the row.
  have hfrom (r : α) : ∀ n, ∃ pages, Walk key tables limits n (some (key r)) pages := by
    induction r using hwf.induction with
    | _ r ih =>
      intro n
      rcases page_cases key (hlimits n) (tables n) (some (key r)) with
        ⟨hnone, -⟩ | ⟨front, last, back, -, -, hnext⟩
      · exact ⟨_, .last hnone⟩
      · obtain ⟨pages, hrest⟩ := ih last (lt_of_next (hlimits n) hnext) (n + 1)
        exact ⟨_, .next hnext hrest⟩
  rcases page_cases key (hlimits n) (tables n) none with ⟨hnone, -⟩ | ⟨front, last, back, -, -, hnext⟩
  · exact ⟨_, .last hnone⟩
  · obtain ⟨pages, hrest⟩ := hfrom last (n + 1)
    exact ⟨_, .next hnext hrest⟩

end walk

end Keyset
