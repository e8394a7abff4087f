import RouteLLM.Evaluation.StructuredAnswers
import RouteLLM.Lib.MarkedWords

/-!
# What flattening keeps of an answer

`flatten_json` names every leaf of a value by a text of the keys and indexes that lead to it. The texts of an answer
whose keys have neither a point nor an opening bracket name one leaf each (`mem_flattenJson_iff`), so that the flat
dictionary is the value read along its paths. An empty list or dictionary leaves no trace.
-/

namespace RouteLLM

/-- A step from a value to one inside it. -/
inductive PathStep
  | key (k : PyStr)
  | index (i : ℕ)

namespace PathStep

/-- `f".{key}"` and `f"[{index}]"`. -/
def text : PathStep → PyStr
  | key k => 46 :: k
  | index i => indexText i

/-- The points and opening brackets, with which the steps start. -/
def mark (c : ℕ) : Bool := c == 46 || c == 91

/-- A step whose text is a marked word. -/
def Plain : PathStep → Prop
  | key k => ∀ c ∈ k, mark c = false
  | index _ => True

theorem mark_digits (i : ℕ) : ∀ c ∈ PyStr.ofString (toString i), mark c = false := by
  intro c hc
  obtain ⟨d, hd, rfl⟩ := List.mem_map.mp hc
  have hdigits : (toString i).toList = Nat.toDigits 10 i := String.toList_ofList
  have hdigit := Nat.isDigit_of_mem_toDigits (by omega) le_rfl (hdigits ▸ hd)
  rw [Char.isDigit, Bool.and_eq_true, decide_eq_true_eq, decide_eq_true_eq] at hdigit
  have hlow : 48 ≤ d.toNat := hdigit.1
  have hhigh : d.toNat ≤ 57 := hdigit.2
  simp only [mark, Bool.or_eq_false_iff, beq_eq_false_iff_ne]
  omega

theorem marked_text {s : PathStep} (h : s.Plain) : MarkedWords.Marked mark s.text := by
  cases s with
  | key k => exact ⟨46, k, rfl, rfl, h⟩
  | index i =>
    refine ⟨91, _, rfl, rfl, fun c hc => ?_⟩
    rcases List.mem_append.mp hc with hc | hc
    · exact mark_digits i c hc
    · rw [List.mem_singleton.mp hc]
      rfl

theorem text_injective {s t : PathStep} (h : s.text = t.text) : s = t := by
  cases s with
  | key k =>
    cases t with
    | key l => simpa [text] using h
    | index j => simp [text, indexText] at h
  | index i =>
    cases t with
    | key l => simp [text, indexText] at h
    | index j =>
      have hlist := List.append_cancel_right (List.cons.inj h).2
      have hdigits : Nat.toDigits 10 i = Nat.toDigits 10 j :=
        String.ofList_inj.mp (PyStr.ofString_injective hlist)
      rw [← Nat.ofDigitChars_toDigits (b := 10) (n := i) (by omega) le_rfl, hdigits,
        Nat.ofDigitChars_toDigits (by omega) le_rfl]

end PathStep

/-- The text of a path. -/
def pathText (steps : List PathStep) : PyStr := steps.flatMap PathStep.text

theorem pathText_injective {steps others : List PathStep} (hs : ∀ s ∈ steps, s.Plain) (ho : ∀ s ∈ others, s.Plain)
    (h : pathText steps = pathText others) : steps = others :=
  MarkedWords.flatMap_injective (fun s hmem => PathStep.marked_text (hs s hmem))
    (fun s hmem => PathStep.marked_text (ho s hmem)) (fun _ _ _ _ => PathStep.text_injective) h

/-- The leaf of a value at the end of a path. -/
def leafAt : PyJson → List PathStep → Option PyJson
  | .dict entries, .key k :: steps => (entries.lookup k).bind fun child => leafAt child steps
  | .list items, .index i :: steps => items[i]?.bind fun child => leafAt child steps
  | .dict _, _ => none
  | .list _, _ => none
  | value, [] => some value
  | _, _ => none

/-- An answer whose dictionaries have distinct keys without marks. No list or dictionary is empty. -/
inductive PlainValue : PyJson → Prop
  | leaf {v : PyJson} (hleaf : leafAt v [] = some v) : PlainValue v
  | dict {entries : List (PyStr × PyJson)} (hne : entries ≠ []) (hnodup : (entries.map Prod.fst).Nodup)
      (hkeys : ∀ e ∈ entries, (PathStep.key e.1).Plain) (hchildren : ∀ e ∈ entries, PlainValue e.2) :
      PlainValue (.dict entries)
  | list {items : List PyJson} (hne : items ≠ []) (hchildren : ∀ item ∈ items, PlainValue item) :
      PlainValue (.list items)

variable {v w : PyJson}

theorem leafAt_nil {x : PyJson} (h : leafAt v [] = some x) : x = v := by
  cases v <;> simp_all [leafAt]

theorem leafAt_leaf (h : leafAt v [] = some v) (s : PathStep) (steps : List PathStep) : leafAt v (s :: steps) = none := by
  cases v <;> simp_all [leafAt]

/-- A step into a value leads to one of its children. -/
theorem leafAt_cons {s : PathStep} {steps : List PathStep} {x : PyJson} (h : leafAt v (s :: steps) = some x) :
    (∃ entries k child, v = .dict entries ∧ s = .key k ∧ entries.lookup k = some child ∧ leafAt child steps = some x) ∨
    ∃ items i child, v = .list items ∧ s = .index i ∧ items[i]? = some child ∧ leafAt child steps = some x := by
  cases v with
  | dict entries =>
    cases s with
    | key k =>
      obtain ⟨child, hchild, hx⟩ := Option.bind_eq_some_iff.mp h
      exact .inl ⟨entries, k, child, rfl, rfl, hchild, hx⟩
    | index i => simp [leafAt] at h
  | list items =>
    cases s with
    | key k => simp [leafAt] at h
    | index i =>
      obtain ⟨child, hchild, hx⟩ := Option.bind_eq_some_iff.mp h
      exact .inr ⟨items, i, child, rfl, rfl, hchild, hx⟩
  | null | bool _ | int _ | float _ | str _ => simp [leafAt] at h

/-- Every plain answer has a leaf. -/
theorem PlainValue.exists_leaf (h : PlainValue v) : ∃ steps x, leafAt v steps = some x := by
  induction h with
  | leaf hleaf => exact ⟨[], _, hleaf⟩
  | @dict entries hne hnodup _ _ ih =>
    obtain ⟨e, he⟩ := List.exists_mem_of_ne_nil entries hne
    obtain ⟨steps, x, hx⟩ := ih e he
    have hlookup := (AssocList.lookup_eq_some_iff hnodup).mpr he
    exact ⟨.key e.1 :: steps, x, by rw [leafAt, hlookup, Option.bind_some, hx]⟩
  | @list items hne _ ih =>
    obtain ⟨item, hitem⟩ := List.exists_mem_of_ne_nil items hne
    obtain ⟨i, hi⟩ := List.getElem?_of_mem hitem
    obtain ⟨steps, x, hx⟩ := ih item hitem
    exact ⟨.index i :: steps, x, by rw [leafAt, hi, Option.bind_some, hx]⟩

/-- The steps to a leaf of a plain answer have no marks. -/
theorem PlainValue.plain_steps {steps : List PathStep} {x : PyJson} (h : PlainValue v)
    (hx : leafAt v steps = some x) : ∀ s ∈ steps, s.Plain := by
  induction h generalizing steps with
  | leaf hleaf =>
    cases steps with
    | nil => simp
    | cons s steps => rw [leafAt_leaf hleaf] at hx; cases hx
  | dict _ hnodup hkeys _ ih =>
    cases steps with
    | nil => simp
    | cons s steps =>
      rcases leafAt_cons hx with ⟨_, k, child, hv, rfl, hchild, hx⟩ | ⟨_, _, _, hv, -⟩
      · cases hv
        have hmem := (AssocList.lookup_eq_some_iff hnodup).mp hchild
        exact List.forall_mem_cons.mpr ⟨hkeys _ hmem, ih _ hmem hx⟩
      · cases hv
  | list _ _ ih =>
    cases steps with
    | nil => simp
    | cons s steps =>
      rcases leafAt_cons hx with ⟨_, _, _, hv, -⟩ | ⟨_, i, child, hv, rfl, hchild, hx⟩
      · cases hv
      · cases hv
        exact List.forall_mem_cons.mpr ⟨trivial, ih _ (List.mem_of_getElem? hchild) hx⟩

/-! ## The flat dictionary -/

/-- The flat dictionary holds the leaves under the texts of their paths. -/
def Flattens (v : PyJson) : Prop :=
  ∀ path q x, (q, x) ∈ flattenJson v path ↔
    ∃ steps, (∀ s ∈ steps, s.Plain) ∧ q = path ++ pathText steps ∧ leafAt v steps = some x

mutual

theorem nodup_flattenJson : (v : PyJson) → (path : PyStr) → ((flattenJson v path).map Prod.fst).Nodup
  | .dict entries, path => by
    rw [flattenJson]
    exact nodup_flattenEntries entries path .nil
  | .list items, path => by
    rw [flattenJson]
    exact nodup_flattenItems items path 0 .nil
  | .null, _ | .bool _, _ | .int _, _ | .float _, _ | .str _, _ => List.nodup_singleton _

theorem nodup_flattenEntries : (entries : List (PyStr × PyJson)) → (path : PyStr) → {flattened : List (PyStr × PyJson)} →
    (flattened.map Prod.fst).Nodup → ((flattenEntries entries path flattened).map Prod.fst).Nodup
  | [], _, _, h => h
  | (_, _) :: entries, path, _, h => nodup_flattenEntries entries path (AssocList.nodup_update h)

theorem nodup_flattenItems : (items : List PyJson) → (path : PyStr) → (index : ℕ) →
    {flattened : List (PyStr × PyJson)} → (flattened.map Prod.fst).Nodup →
    ((flattenItems items path index flattened).map Prod.fst).Nodup
  | [], _, _, _, h => h
  | _ :: items, path, index, _, h => nodup_flattenItems items path (index + 1) (AssocList.nodup_update h)

end

/-- The fields of the children of a value, one child after the other. -/
def flattenChildren (path : PyStr) (flattened : List (PyStr × PyJson)) (children : List (PathStep × PyJson)) :
    List (PyStr × PyJson) :=
  children.foldl (fun flattened c => AssocList.update flattened (flattenJson c.2 (path ++ c.1.text))) flattened

theorem flattenEntries_eq (entries : List (PyStr × PyJson)) (path : PyStr) (flattened : List (PyStr × PyJson)) :
    flattenEntries entries path flattened =
      flattenChildren path flattened (entries.map fun e => (.key e.1, e.2)) := by
  induction entries generalizing flattened with
  | nil => rfl
  | cons e entries ih => exact ih _

theorem flattenItems_eq (items : List PyJson) (path : PyStr) (index : ℕ) (flattened : List (PyStr × PyJson)) :
    flattenItems items path index flattened =
      flattenChildren path flattened ((items.zipIdx index).map fun e => (.index e.2, e.1)) := by
  induction items generalizing index flattened with
  | nil => rfl
  | cons item items ih => exact ih _ _

/-- Children under distinct steps leave their fields side by side. -/
theorem mem_flattenChildren_iff {path : PyStr} {children : List (PathStep × PyJson)} {flattened : List (PyStr × PyJson)}
    (hplain : ∀ c ∈ children, c.1.Plain) (hnodup : (children.map Prod.fst).Nodup) (hchildren : ∀ c ∈ children, Flattens c.2)
    (hnew : ∀ r ∈ flattened.map Prod.fst, ∀ c ∈ children, ∀ steps, (∀ s ∈ steps, s.Plain) →
      r ≠ path ++ pathText (c.1 :: steps)) {q : PyStr} {x : PyJson} :
    (q, x) ∈ flattenChildren path flattened children ↔ (q, x) ∈ flattened ∨
      ∃ c ∈ children, ∃ steps, (∀ s ∈ steps, s.Plain) ∧ q = path ++ pathText (c.1 :: steps) ∧
        leafAt c.2 steps = some x := by
  induction children generalizing flattened with
  | nil => simp [flattenChildren]
  | cons c children ih =>
    rw [List.map_cons, List.nodup_cons] at hnodup
    have hc := hchildren c (.head _) (path ++ c.1.text)
    have hfields : ∀ r ∈ (flattenJson c.2 (path ++ c.1.text)).map Prod.fst, ∃ steps, (∀ s ∈ steps, s.Plain) ∧
        r = path ++ pathText (c.1 :: steps) := by
      intro r hr
      obtain ⟨⟨r, y⟩, hmem, rfl⟩ := List.mem_map.mp hr
      obtain ⟨steps, hsteps, hr, -⟩ := (hc r y).mp hmem
      exact ⟨steps, hsteps, by rw [hr, List.append_assoc]; rfl⟩
    have hupdate : AssocList.update flattened (flattenJson c.2 (path ++ c.1.text)) =
        flattened ++ flattenJson c.2 (path ++ c.1.text) := by
      refine AssocList.update_eq_append (nodup_flattenJson _ _) fun r hr hold => ?_
      obtain ⟨steps, hsteps, rfl⟩ := hfields r hr
      exact hnew _ hold c (.head _) steps hsteps rfl
    -- Two children share no field, as their steps differ.
    have hrest := @ih (flattened ++ flattenJson c.2 (path ++ c.1.text))
      (fun d hd => hplain d (.tail c hd)) hnodup.2 (fun d hd => hchildren d (.tail c hd)) fun r hr d hd steps hsteps => by
        rw [List.map_append, List.mem_append] at hr
        rcases hr with hr | hr
        · exact hnew r hr d (.tail c hd) steps hsteps
        · obtain ⟨others, hothers, rfl⟩ := hfields r hr
          intro heq
          have hpaths := pathText_injective (List.forall_mem_cons.mpr ⟨hplain c (.head _), hothers⟩)
            (List.forall_mem_cons.mpr ⟨hplain d (.tail c hd), hsteps⟩) (List.append_cancel_left heq)
          exact hnodup.1 ((List.cons.inj hpaths).1 ▸ List.mem_map_of_mem hd)
    rw [flattenChildren, List.foldl_cons, hupdate]
    refine hrest.trans ?_
    rw [List.mem_append, hc q x, or_assoc]
    simp only [List.mem_cons, exists_eq_or_imp, List.append_assoc]
    rfl

/-- The fields of a value whose paths are those of its children. -/
theorem flattens_of_children {children : List (PathStep × PyJson)} (hplain : ∀ c ∈ children, c.1.Plain)
    (hnodup : (children.map Prod.fst).Nodup) (hchildren : ∀ c ∈ children, Flattens c.2)
    (hflat : ∀ path, flattenJson v path = flattenChildren path [] children)
    (hleaf : ∀ steps x, leafAt v steps = some x ↔
      ∃ c ∈ children, ∃ rest, steps = c.1 :: rest ∧ leafAt c.2 rest = some x) : Flattens v := by
  intro path q x
  rw [hflat, mem_flattenChildren_iff hplain hnodup hchildren (by simp), or_iff_right List.not_mem_nil]
  constructor
  · rintro ⟨c, hc, rest, hrest, hq, hx⟩
    exact ⟨c.1 :: rest, List.forall_mem_cons.mpr ⟨hplain c hc, hrest⟩, hq, (hleaf _ _).mpr ⟨c, hc, rest, rfl, hx⟩⟩
  · rintro ⟨steps, hsteps, hq, hx⟩
    obtain ⟨c, hc, rest, rfl, hchild⟩ := (hleaf _ _).mp hx
    exact ⟨c, hc, rest, (List.forall_mem_cons.mp hsteps).2, hq, hchild⟩

theorem leafAt_dict_iff {entries : List (PyStr × PyJson)} (hnodup : (entries.map Prod.fst).Nodup)
    (steps : List PathStep) (x : PyJson) : leafAt (.dict entries) steps = some x ↔
      ∃ c ∈ entries.map fun e => (PathStep.key e.1, e.2), ∃ rest, steps = c.1 :: rest ∧ leafAt c.2 rest = some x := by
  constructor
  · intro h
    cases steps with
    | nil => cases h
    | cons s rest =>
      rcases leafAt_cons h with ⟨entries', k, child, hv, rfl, hchild, hx⟩ | ⟨items, i, child, hv, -⟩
      · cases hv
        exact ⟨_, List.mem_map_of_mem ((AssocList.lookup_eq_some_iff hnodup).mp hchild), rest, rfl, hx⟩
      · cases hv
  · rintro ⟨c, hc, rest, rfl, hx⟩
    obtain ⟨e, he, rfl⟩ := List.mem_map.mp hc
    rw [leafAt, (AssocList.lookup_eq_some_iff hnodup).mpr he]
    exact hx

theorem leafAt_list_iff {items : List PyJson} (steps : List PathStep) (x : PyJson) :
    leafAt (.list items) steps = some x ↔
      ∃ c ∈ (items.zipIdx 0).map fun e => (PathStep.index e.2, e.1), ∃ rest, steps = c.1 :: rest ∧
        leafAt c.2 rest = some x := by
  constructor
  · intro h
    cases steps with
    | nil => cases h
    | cons s rest =>
      rcases leafAt_cons h with ⟨entries, k, child, hv, -⟩ | ⟨items', i, child, hv, rfl, hchild, hx⟩
      · cases hv
      · cases hv
        have hmem : (child, i) ∈ items.zipIdx 0 := List.mem_zipIdx_iff_getElem?.mpr hchild
        exact ⟨_, List.mem_map_of_mem hmem, rest, rfl, hx⟩
  · rintro ⟨c, hc, rest, rfl, hx⟩
    obtain ⟨e, he, rfl⟩ := List.mem_map.mp hc
    rw [leafAt, List.mem_zipIdx_iff_getElem?.mp he]
    exact hx

/-- **The flat dictionary of a plain answer holds its leaves under the texts of their paths.** -/
theorem PlainValue.flattens (h : PlainValue v) : Flattens v := by
  induction h with
  | @leaf v hleaf =>
    intro path q x
    have hflat : flattenJson v path = [(path, v)] := by
      cases v <;> simp_all [leafAt, flattenJson]
    rw [hflat, List.mem_singleton, Prod.mk.injEq]
    constructor
    · rintro ⟨rfl, rfl⟩
      exact ⟨[], by simp, by simp [pathText], hleaf⟩
    · rintro ⟨steps, -, rfl, hx⟩
      cases steps with
      | nil => exact ⟨by simp [pathText], leafAt_nil hx⟩
      | cons s steps => rw [leafAt_leaf hleaf] at hx; cases hx
  | @dict entries hne hnodup hkeys hchildren ih =>
    refine flattens_of_children (List.forall_mem_map.mpr hkeys) ?_ (List.forall_mem_map.mpr ih) (fun path => ?_)
      (leafAt_dict_iff hnodup)
    · rw [List.map_map]
      have hsteps := hnodup.map (f := PathStep.key) fun a b hab => (PathStep.key.inj hab)
      rwa [List.map_map] at hsteps
    · rw [flattenJson, flattenEntries_eq]
  | @list items hne hchildren ih =>
    refine flattens_of_children ?_ ?_ (List.forall_mem_map.mpr fun e he => ih e.1 (List.fst_mem_of_mem_zipIdx he))
      (fun path => ?_) leafAt_list_iff
    · exact List.forall_mem_map.mpr fun _ _ => (trivial : (PathStep.index _).Plain)
    · have hindexes : ((items.zipIdx 0).map Prod.snd).Nodup := by
        rw [List.zipIdx_map_snd]
        exact List.nodup_range'
      have hsteps := hindexes.map (f := PathStep.index) fun a b hab => PathStep.index.inj hab
      rw [List.map_map] at hsteps ⊢
      exact hsteps
    · rw [flattenJson, flattenItems_eq]

end RouteLLM
