import RouteLLM.Lib.PyStr

/-!
# Collapsed whitespace

The words of a text, and the text of its words joined by one separator. What a text becomes when a word or a
character is put at one of its ends depends only on whether whitespace stands there.
-/

namespace PyStr

variable {α : Type*} {space : α → Bool} {sep : α} {xs ys u : List α}

/-- `sep.join(value.strip().split())`. -/
def collapseBy (space : α → Bool) (sep : α) (cs : List α) : List α :=
  [sep].intercalate (splitBy space (stripBy space cs))

/-- No word crosses from one text to the next. -/
def Boundary (space : α → Bool) (xs ys : List α) : Prop :=
  (∀ c ∈ xs.getLast?, space c = true) ∨ ∀ c ∈ ys.head?, space c = true

@[simp] theorem splitBy_nil : splitBy space ([] : List α) = [] := by
  rw [splitBy, List.splitOnP_nil]
  rfl

theorem splitBy_append_cons {c : α} (hc : space c = true) :
    splitBy space (xs ++ c :: ys) = splitBy space xs ++ splitBy space ys := by
  rw [splitBy, List.splitOnP_append_cons _ _ hc, List.filter_append, splitBy, splitBy]

theorem splitBy_cons {c : α} (hc : space c = true) : splitBy space (c :: ys) = splitBy space ys := by
  have h := @splitBy_append_cons _ space [] ys c hc
  rwa [List.nil_append, splitBy_nil, List.nil_append] at h

/-- A text of `n` characters has at most `n + 1` words. -/
theorem length_splitBy_le (xs : List α) : (splitBy space xs).length ≤ xs.length + 1 := by
  refine (List.length_filter_le _ _).trans ?_
  induction xs with
  | nil => rw [List.splitOnP_nil]; rfl
  | cons x xs ih =>
    rw [List.splitOnP_cons_eq_if_modifyHead, List.length_cons]
    split
    · rw [List.length_cons]
      omega
    · rw [List.length_modifyHead]
      omega

/-- The words of two texts at a boundary. -/
theorem splitBy_append (h : Boundary space xs ys) :
    splitBy space (xs ++ ys) = splitBy space xs ++ splitBy space ys := by
  rcases h with h | h
  · rcases List.eq_nil_or_concat' xs with rfl | ⟨xs, c, rfl⟩
    · rw [List.nil_append, splitBy_nil, List.nil_append]
    · have hc : space c = true := h c (by rw [List.getLast?_concat]; rfl)
      rw [List.append_assoc, List.singleton_append, splitBy_append_cons hc,
        splitBy_append_cons hc, splitBy_nil, List.append_nil]
  · cases ys with
    | nil => rw [List.append_nil, splitBy_nil, List.append_nil]
    | cons c ys =>
      have hc : space c = true := h c rfl
      rw [splitBy_append_cons hc, splitBy_cons hc]

/-- Whitespace has no words. -/
theorem splitBy_space (h : ∀ c ∈ xs, space c = true) : splitBy space xs = [] := by
  induction xs with
  | nil => exact splitBy_nil
  | cons c xs ih =>
    obtain ⟨hc, hxs⟩ := List.forall_mem_cons.mp h
    rw [splitBy_cons hc, ih hxs]

/-- A text without whitespace is one word. -/
theorem splitBy_word (hne : u ≠ []) (h : ∀ c ∈ u, space c = false) : splitBy space u = [u] := by
  rw [splitBy, List.splitOnP_eq_singleton h, List.filter_cons_of_pos, List.filter_nil]
  cases u with
  | nil => exact absurd rfl hne
  | cons c u => rfl

theorem splitOnP_congr {p q : α → Bool} (h : ∀ c ∈ xs, p c = q c) : xs.splitOnP p = xs.splitOnP q := by
  induction xs with
  | nil => rfl
  | cons c xs ih =>
    obtain ⟨hc, hxs⟩ := List.forall_mem_cons.mp h
    rw [List.splitOnP_cons_eq_if_modifyHead, List.splitOnP_cons_eq_if_modifyHead, hc, ih hxs]

/-- Words depend on what separates them in the text. -/
theorem splitBy_congr {p q : α → Bool} (h : ∀ c ∈ xs, p c = q c) : splitBy p xs = splitBy q xs := by
  rw [splitBy, splitBy, splitOnP_congr h]

theorem splitBy_stripBy (cs : List α) : splitBy space (stripBy space cs) = splitBy space cs := by
  obtain ⟨l, r, hl, hr, hcs⟩ := stripBy_split space cs
  have hleft : Boundary space l (stripBy space cs ++ r) := .inl fun c hc => hl c (List.mem_of_getLast? hc)
  have hright : Boundary space (stripBy space cs) r := .inr fun c hc => hr c (List.mem_of_mem_head? hc)
  conv_rhs => rw [hcs, splitBy_append hleft, splitBy_append hright, splitBy_space hl, splitBy_space hr,
    List.nil_append, List.append_nil]

/-- No piece between separators has a separator. -/
theorem mem_splitOnP {w : List α} (h : w ∈ xs.splitOnP space) : ∀ c ∈ w, space c = false := by
  induction xs generalizing w with
  | nil =>
    rw [List.splitOnP_nil, List.mem_singleton] at h
    rw [h]
    exact fun c hc => absurd hc List.not_mem_nil
  | cons x xs ih =>
    rw [List.splitOnP_cons_eq_if_modifyHead] at h
    split at h
    · rcases List.mem_cons.mp h with rfl | h
      · exact fun c hc => absurd hc List.not_mem_nil
      · exact ih h
    · rename_i hx
      obtain ⟨v, vs, hpieces⟩ := List.exists_cons_of_ne_nil (List.splitOnP_ne_nil space xs)
      rw [hpieces, List.modifyHead_cons] at h
      rw [hpieces] at ih
      rcases List.mem_cons.mp h with rfl | h
      · exact List.forall_mem_cons.mpr ⟨Bool.eq_false_iff.mpr hx, ih List.mem_cons_self⟩
      · exact ih (List.mem_cons_of_mem _ h)

theorem mem_splitBy {w : List α} (h : w ∈ splitBy space xs) : w ≠ [] ∧ ∀ c ∈ w, space c = false := by
  obtain ⟨hw, hne⟩ := List.mem_filter.mp h
  refine ⟨?_, mem_splitOnP hw⟩
  rintro rfl
  cases hne

/-! ## Joined words -/

theorem collapseBy_eq (cs : List α) : collapseBy space sep cs = [sep].intercalate (splitBy space cs) := by
  rw [collapseBy, splitBy_stripBy]

/-- What stands before a word that follows the words. -/
def lead (space : α → Bool) (sep : α) (cs : List α) : List α :=
  match splitBy space cs with
  | [] => []
  | words => [sep].intercalate words ++ [sep]

/-- What stands after a word that the words follow. -/
def trail (space : α → Bool) (sep : α) (cs : List α) : List α :=
  match splitBy space cs with
  | [] => []
  | words => sep :: [sep].intercalate words

theorem intercalate_concat (w : List α) (words : List (List α)) (u : List α) :
    [sep].intercalate ((w :: words) ++ [u]) = [sep].intercalate (w :: words) ++ [sep] ++ u := by
  induction words generalizing w with
  | nil => simp [List.intercalate_cons_cons]
  | cons v words ih =>
    rw [List.cons_append, List.cons_append, List.intercalate_cons_cons, ← List.cons_append, ih,
      List.intercalate_cons_cons]
    simp only [List.append_assoc]

/-- A word at the end. -/
theorem collapseBy_append (hbound : Boundary space xs u) (hne : u ≠ []) (hu : ∀ c ∈ u, space c = false) :
    collapseBy space sep (xs ++ u) = lead space sep xs ++ u := by
  rw [collapseBy_eq, splitBy_append hbound, splitBy_word hne hu, lead]
  cases splitBy space xs with
  | nil => simp
  | cons w words => exact intercalate_concat w words u

/-- A word at the start. -/
theorem collapseBy_append_left (hbound : Boundary space u xs) (hne : u ≠ []) (hu : ∀ c ∈ u, space c = false) :
    collapseBy space sep (u ++ xs) = u ++ trail space sep xs := by
  rw [collapseBy_eq, splitBy_append hbound, splitBy_word hne hu, trail]
  cases splitBy space xs with
  | nil => simp
  | cons w words =>
    rw [List.singleton_append, List.intercalate_cons_cons]
    simp

theorem splitBy_ne_nil (h : collapseBy space sep xs ≠ []) : splitBy space xs ≠ [] := by
  intro hnil
  rw [collapseBy_eq, hnil] at h
  exact h rfl

theorem lead_eq (h : collapseBy space sep xs ≠ []) : lead space sep xs = collapseBy space sep xs ++ [sep] := by
  have hne := splitBy_ne_nil h
  rw [lead, collapseBy_eq]
  cases hwords : splitBy space xs with
  | nil => exact absurd hwords hne
  | cons w words => rfl

theorem trail_eq (h : collapseBy space sep xs ≠ []) :
    trail space sep xs = sep :: collapseBy space sep xs := by
  have hne := splitBy_ne_nil h
  rw [trail, collapseBy_eq]
  cases hwords : splitBy space xs with
  | nil => exact absurd hwords hne
  | cons w words => rfl

/-! ## A character at an end -/

/-- The last word and what comes before it. -/
theorem exists_last_word (xs : List α) : ∃ ys u, xs = ys ++ u ∧ Boundary space ys u ∧
    (∀ c ∈ ys.getLast?, space c = true) ∧ ∀ c ∈ u, space c = false := by
  have hbound : ∀ c ∈ (xs.rdropWhile fun c => !space c).getLast?, space c = true := by
    intro c hc
    have hne : xs.rdropWhile (fun c => !space c) ≠ [] := by
      intro hnil
      rw [hnil] at hc
      cases hc
    have hlast := List.rdropWhile_last_not (fun c => !space c) xs hne
    rw [List.getLast?_eq_some_getLast hne] at hc
    cases hc
    simpa using hlast
  refine ⟨xs.rdropWhile fun c => !space c, xs.rtakeWhile fun c => !space c,
    (List.rdropWhile_append_rtakeWhile ..).symm, .inl hbound, hbound, fun c hc => ?_⟩
  simpa using List.mem_rtakeWhile_imp hc

/-- A character after the last word belongs to that word. -/
theorem collapseBy_concat {c d : α} (hc : space c = false) (hd : space d = false) :
    collapseBy space sep (xs ++ [d] ++ [c]) = collapseBy space sep (xs ++ [d]) ++ [c] := by
  obtain ⟨ys, u, hsplit, -, hys, hu⟩ := @exists_last_word _ space (xs ++ [d])
  have hne : u ≠ [] := by
    rintro rfl
    rw [List.append_nil] at hsplit
    have := hys d (by rw [← hsplit, List.getLast?_concat]; rfl)
    rw [hd] at this
    cases this
  have huc : ∀ e ∈ u ++ [c], space e = false := by
    intro e he
    rcases List.mem_append.mp he with he | he
    · exact hu e he
    · rw [List.mem_singleton.mp he]
      exact hc
  rw [hsplit, List.append_assoc, collapseBy_append (.inl hys) (by simp) huc,
    collapseBy_append (.inl hys) hne hu, List.append_assoc]

/-- A character after whitespace is a word. -/
theorem collapseBy_concat_space {c : α} (hxs : ∀ d ∈ xs.getLast?, space d = true) (hc : space c = false)
    (hne : collapseBy space sep xs ≠ []) :
    collapseBy space sep (xs ++ [c]) = collapseBy space sep xs ++ [sep, c] := by
  rw [collapseBy_append (.inl hxs) (by simp) (by simpa using hc), lead_eq hne, List.append_assoc]
  rfl

/-- A character at the end of a text, with whitespace or none before it. -/
theorem exists_collapseBy_concat {c : α} (hsep : space sep = true) (hc : space c = false)
    (hne : collapseBy space sep xs ≠ []) : ∃ s, (∀ d ∈ s, space d = true) ∧
      collapseBy space sep (xs ++ [c]) = collapseBy space sep xs ++ (s ++ [c]) := by
  rcases List.eq_nil_or_concat' xs with rfl | ⟨ys, d, rfl⟩
  · exact ⟨[], fun d hd => absurd hd List.not_mem_nil, absurd rfl hne⟩
  · cases hd : space d with
    | true =>
      refine ⟨[sep], by simpa using hsep, collapseBy_concat_space ?_ hc hne⟩
      intro e he
      rw [List.getLast?_concat] at he
      cases he
      exact hd
    | false => exact ⟨[], fun d hd => absurd hd List.not_mem_nil, collapseBy_concat hc hd⟩

/-- A character at the start of a text, with whitespace or none after it. -/
theorem exists_collapseBy_cons {c : α} (hsep : space sep = true) (hc : space c = false)
    (hne : collapseBy space sep xs ≠ []) : ∃ s, (∀ d ∈ s, space d = true) ∧
      collapseBy space sep (c :: xs) = c :: (s ++ collapseBy space sep xs) := by
  have hword : ∀ e ∈ c :: xs.takeWhile (fun d => !space d), space e = false :=
    List.forall_mem_cons.mpr ⟨hc, fun e he => by simpa using List.mem_takeWhile_imp he⟩
  have hbound : ∀ d ∈ (xs.dropWhile fun d => !space d).head?, space d = true := fun d hd => by
    have := List.head?_dropWhile_not (fun d => !space d) xs
    rw [hd] at this
    simpa using this
  have hsplit : c :: xs = (c :: xs.takeWhile fun d => !space d) ++ xs.dropWhile fun d => !space d := by
    rw [List.cons_append, List.takeWhile_append_dropWhile]
  by_cases hfirst : xs.takeWhile (fun d => !space d) = []
  · have hxs : xs.dropWhile (fun d => !space d) = xs := by
      conv_rhs => rw [← List.takeWhile_append_dropWhile (p := fun d => !space d) (l := xs), hfirst,
        List.nil_append]
    refine ⟨[sep], by simpa using hsep, ?_⟩
    rw [hsplit, collapseBy_append_left (.inr hbound) (by simp) hword, hfirst, hxs, trail_eq hne]
    rfl
  · refine ⟨[], fun d hd => absurd hd List.not_mem_nil, ?_⟩
    have hrest := @collapseBy_append_left _ space sep _ _ (.inr hbound) hfirst
      fun e he => hword e (List.mem_cons_of_mem _ he)
    rw [List.takeWhile_append_dropWhile] at hrest
    rw [hsplit, collapseBy_append_left (.inr hbound) (by simp) hword, hrest, List.cons_append,
      List.nil_append]

/-! ## The ends of the collapsed text -/

theorem head?_collapseBy : ∀ c ∈ (collapseBy space sep xs).head?, space c = false := by
  intro c hc
  rw [collapseBy_eq] at hc
  cases hwords : splitBy space xs with
  | nil =>
    rw [hwords] at hc
    cases hc
  | cons w words =>
    obtain ⟨hne, hw⟩ := mem_splitBy (hwords ▸ List.mem_cons_self : w ∈ splitBy space xs)
    obtain ⟨d, w, rfl⟩ := List.exists_cons_of_ne_nil hne
    rw [hwords] at hc
    cases words with
    | nil =>
      rw [List.intercalate_singleton] at hc
      cases hc
      exact hw _ List.mem_cons_self
    | cons v words =>
      rw [List.intercalate_cons_cons] at hc
      cases hc
      exact hw _ List.mem_cons_self

theorem getLast?_collapseBy : ∀ c ∈ (collapseBy space sep xs).getLast?, space c = false := by
  intro c hc
  rw [collapseBy_eq] at hc
  rcases List.eq_nil_or_concat' (splitBy space xs) with hwords | ⟨words, w, hwords⟩
  · rw [hwords] at hc
    cases hc
  · have hmem : w ∈ splitBy space xs := by
      rw [hwords]
      exact List.mem_append_right _ List.mem_cons_self
    obtain ⟨hne, hw⟩ := mem_splitBy hmem
    have hlast : ([sep].intercalate (words ++ [w])).getLast? = w.getLast? := by
      cases words with
      | nil => rw [List.nil_append, List.intercalate_singleton]
      | cons v words => rw [intercalate_concat, List.getLast?_append_of_ne_nil _ hne]
    rw [hwords, hlast] at hc
    exact hw c (List.mem_of_getLast? hc)

theorem stripBy_collapseBy (xs : List α) :
    stripBy space (collapseBy space sep xs) = collapseBy space sep xs :=
  stripBy_eq_self space head?_collapseBy getLast?_collapseBy

/-- A collapsed text in quotes, with whitespace or none inside them. -/
theorem exists_collapseBy_quoted {q : α} (hsep : space sep = true) (hq : space q = false)
    (hne : collapseBy space sep xs ≠ []) : ∃ l r, (∀ d ∈ l, space d = true) ∧
      (∀ d ∈ r, space d = true) ∧ collapseBy space sep (q :: (xs ++ [q])) =
        q :: (l ++ (collapseBy space sep xs ++ r) ++ [q]) := by
  obtain ⟨r, hr, hright⟩ := exists_collapseBy_concat hsep hq hne
  have hne' : collapseBy space sep (xs ++ [q]) ≠ [] := by
    rw [hright]
    simp
  obtain ⟨l, hl, hleft⟩ := exists_collapseBy_cons hsep hq hne'
  refine ⟨l, r, hl, hr, ?_⟩
  rw [hleft, hright]
  simp only [List.append_assoc]

/-! ## Words read back -/

/-- A character of joined words is one of a word or the separator. -/
theorem mem_intercalate {words : List (List α)} {c : α} (h : c ∈ [sep].intercalate words) :
    c = sep ∨ ∃ w ∈ words, c ∈ w := by
  induction words with
  | nil => cases h
  | cons w words ih =>
    cases words with
    | nil =>
      rw [List.intercalate_singleton] at h
      exact .inr ⟨w, .head _, h⟩
    | cons v words =>
      rw [List.intercalate_cons_cons, List.append_assoc, List.singleton_append] at h
      rcases List.mem_append.mp h with hw | hrest
      · exact .inr ⟨w, .head _, hw⟩
      · rcases List.mem_cons.mp hrest with hsep | hrest
        · exact .inl hsep
        · exact (ih hrest).imp_right fun ⟨u, hu, hc⟩ => ⟨u, .tail _ hu, hc⟩

/-- Joined words are split into the words. -/
theorem splitBy_intercalate {words : List (List α)} (hsep : space sep = true)
    (h : ∀ w ∈ words, w ≠ [] ∧ ∀ c ∈ w, space c = false) :
    splitBy space ([sep].intercalate words) = words := by
  induction words with
  | nil => exact splitBy_nil
  | cons w words ih =>
    obtain ⟨⟨hne, hw⟩, hwords⟩ := List.forall_mem_cons.mp h
    cases words with
    | nil => rw [List.intercalate_singleton, splitBy_word hne hw]
    | cons v words =>
      have hbound : Boundary space w (sep :: [sep].intercalate (v :: words)) := .inr fun c hc => by
        cases hc
        exact hsep
      rw [List.intercalate_cons_cons, List.append_assoc, List.singleton_append, splitBy_append hbound,
        splitBy_word hne hw, splitBy_cons hsep, ih hwords]
      rfl

/-- The first word of a text that whitespace does not start. -/
theorem splitBy_cons_of_not {c : α} (hc : space c = false) : splitBy space (c :: xs) =
    (c :: xs.takeWhile fun d => !space d) :: splitBy space (xs.dropWhile fun d => !space d) := by
  have hword : ∀ e ∈ c :: xs.takeWhile (fun d => !space d), space e = false :=
    List.forall_mem_cons.mpr ⟨hc, fun e he => by simpa using List.mem_takeWhile_imp he⟩
  have hbound : ∀ d ∈ (xs.dropWhile fun d => !space d).head?, space d = true := fun d hd => by
    have := List.head?_dropWhile_not (fun d => !space d) xs
    rw [hd] at this
    simpa using this
  conv_lhs => rw [← List.takeWhile_append_dropWhile (p := fun d => !space d) (l := xs), ← List.cons_append]
  rw [splitBy_append (.inr hbound), splitBy_word (List.cons_ne_nil _ _) hword, List.singleton_append]

end PyStr
