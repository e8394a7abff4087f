import RouteLLM.Evaluation.FlattenedAnswers
import RouteLLM.Evaluation.Marks

/-!
# Full marks for a structured answer

`ExtractionEvaluator` and `JSONEvaluator` compare flat dictionaries and count in floats. A plain answer gets one, the
threshold of both categories, exactly where it has the structure of the expected answer and its leaves are accepted.
-/

namespace RouteLLM

/-- Answers of one structure, whose leaves a comparison accepts. -/
inductive SameAnswer (accepts : PyJson → PyJson → Bool) : PyJson → PyJson → Prop
  | leaf {v w : PyJson} (hv : leafAt v [] = some v) (hw : leafAt w [] = some w) (haccepts : accepts v w = true) :
      SameAnswer accepts v w
  | dict {entries others : List (PyStr × PyJson)}
      (hkeys : ∀ k, (entries.lookup k).isSome = (others.lookup k).isSome)
      (hchildren : ∀ k v w, entries.lookup k = some v → others.lookup k = some w → SameAnswer accepts v w) :
      SameAnswer accepts (.dict entries) (.dict others)
  | list {items others : List PyJson} (hlength : items.length = others.length)
      (hchildren : ∀ (i : ℕ) v w, items[i]? = some v → others[i]? = some w → SameAnswer accepts v w) :
      SameAnswer accepts (.list items) (.list others)

/-- Values that have leaves at the same paths, which a comparison accepts. -/
def LeavesAgree (accepts : PyJson → PyJson → Bool) (v w : PyJson) : Prop :=
  ∀ steps, Option.Rel (fun x y => accepts x y = true) (leafAt v steps) (leafAt w steps)

section
variable {accepts : PyJson → PyJson → Bool} {v w : PyJson}

theorem LeavesAgree.isSome (h : LeavesAgree accepts v w) (steps : List PathStep) :
    (leafAt v steps).isSome = (leafAt w steps).isSome := by
  have hsteps := h steps
  cases hv : leafAt v steps <;> cases hw : leafAt w steps <;> simp_all

/-- Answers of one structure agree. -/
theorem SameAnswer.agree (h : SameAnswer accepts v w) : LeavesAgree accepts v w := by
  induction h with
  | leaf hv hw haccepts =>
    intro steps
    cases steps with
    | nil => rw [hv, hw]; exact .some haccepts
    | cons s steps => rw [leafAt_leaf hv, leafAt_leaf hw]; exact .none
  | @dict entries others hkeys hchildren ih =>
    intro steps
    rcases steps with _ | ⟨k | i, steps⟩
    · exact .none
    · rw [leafAt, leafAt]
      have hsome := hkeys k
      cases hv : entries.lookup k with
      | none =>
        rw [hv, Option.isSome_none, eq_comm, Option.isSome_eq_false_iff, Option.isNone_iff_eq_none] at hsome
        rw [hsome]
        exact .none
      | some v =>
        rw [hv, Option.isSome_some, eq_comm, Option.isSome_iff_exists] at hsome
        obtain ⟨w, hw⟩ := hsome
        rw [hw]
        exact ih k v w hv hw steps
    · exact .none
  | @list items others hlength hchildren ih =>
    intro steps
    rcases steps with _ | ⟨k | i, steps⟩
    · exact .none
    · exact .none
    · rw [leafAt, leafAt]
      rcases Nat.lt_or_ge i items.length with hi | hi
      · rw [List.getElem?_eq_getElem hi, List.getElem?_eq_getElem (hlength ▸ hi)]
        exact ih i _ _ (List.getElem?_eq_getElem hi) (List.getElem?_eq_getElem (hlength ▸ hi)) steps
      · rw [List.getElem?_eq_none hi, List.getElem?_eq_none (hlength ▸ hi)]
        exact .none

theorem LeavesAgree.of_lookup {entries others : List (PyStr × PyJson)} (h : LeavesAgree accepts (.dict entries) (.dict others))
    {k : PyStr} (hv : entries.lookup k = some v) (hw : others.lookup k = some w) : LeavesAgree accepts v w := by
  intro steps
  have hsteps := h (.key k :: steps)
  rwa [leafAt, leafAt, hv, hw] at hsteps

theorem LeavesAgree.of_getElem? {items others : List PyJson} (h : LeavesAgree accepts (.list items) (.list others))
    {i : ℕ} (hv : items[i]? = some v) (hw : others[i]? = some w) : LeavesAgree accepts v w := by
  intro steps
  have hsteps := h (.index i :: steps)
  rwa [leafAt, leafAt, hv, hw] at hsteps

/-- A child of a plain dictionary has a leaf, by which the other dictionary has the key. -/
theorem isSome_lookup_of_leaves {entries others : List (PyStr × PyJson)} (hnodup : (entries.map Prod.fst).Nodup)
    (hchildren : ∀ e ∈ entries, PlainValue e.2)
    (hleaves : ∀ steps, (leafAt (.dict entries) steps).isSome = (leafAt (.dict others) steps).isSome)
    {k : PyStr} (hk : (entries.lookup k).isSome) : (others.lookup k).isSome := by
  obtain ⟨v, hv⟩ := Option.isSome_iff_exists.mp hk
  obtain ⟨steps, x, hx⟩ := (hchildren _ ((AssocList.lookup_eq_some_iff hnodup).mp hv)).exists_leaf
  have hsome := hleaves (.key k :: steps)
  rw [leafAt, leafAt, hv, Option.bind_some, hx] at hsome
  exact Option.isSome_of_isSome_bind hsome.symm

@[inherit_doc isSome_lookup_of_leaves]
theorem length_le_of_leaves {items others : List PyJson} (hchildren : ∀ item ∈ items, PlainValue item)
    (hleaves : ∀ steps, (leafAt (.list items) steps).isSome = (leafAt (.list others) steps).isSome) :
    items.length ≤ others.length := by
  by_contra hlt
  rw [Nat.not_le] at hlt
  obtain ⟨steps, x, hx⟩ := (hchildren _ (List.getElem_mem hlt)).exists_leaf
  have hsome := hleaves (.index others.length :: steps)
  rw [leafAt, leafAt, List.getElem?_eq_getElem hlt, List.getElem?_eq_none le_rfl, Option.bind_some, hx] at hsome
  cases hsome

theorem LeavesAgree.exists_leaf (hv : PlainValue v) (h : LeavesAgree accepts v w) :
    ∃ steps x y, leafAt v steps = some x ∧ leafAt w steps = some y := by
  obtain ⟨steps, x, hx⟩ := hv.exists_leaf
  have hsome := h.isSome steps
  rw [hx, Option.isSome_some, eq_comm, Option.isSome_iff_exists] at hsome
  obtain ⟨y, hy⟩ := hsome
  exact ⟨steps, x, y, hx, hy⟩

/-- **Plain answers that agree have one structure.** -/
theorem LeavesAgree.sameAnswer (hv : PlainValue v) (hw : PlainValue w) (h : LeavesAgree accepts v w) : SameAnswer accepts v w := by
  induction hv generalizing w with
  | @leaf v hleaf =>
    have hroot := h []
    rw [hleaf] at hroot
    cases hroot' : leafAt w [] with
    | none => rw [hroot'] at hroot; cases hroot
    | some y =>
      cases leafAt_nil hroot'
      rw [hroot', Option.rel_some_some] at hroot
      exact .leaf hleaf hroot' hroot
  | @dict entries hne hnodup hkeys hchildren ih =>
    obtain ⟨steps, x, y, hx, hy⟩ := h.exists_leaf (.dict hne hnodup hkeys hchildren)
    cases steps with
    | nil => cases hx
    | cons s steps =>
      obtain ⟨_, k, _, -, rfl, -⟩ := (leafAt_cons hx).resolve_right (by rintro ⟨_, _, _, hv, -⟩; cases hv)
      obtain ⟨others, _, _, rfl, -⟩ := (leafAt_cons hy).resolve_right (by rintro ⟨_, _, _, -, hs, -⟩; cases hs)
      cases hw with
      | leaf hleaf => cases hleaf
      | @dict _ hne' hnodup' hkeys' hchildren' =>
        refine .dict (fun k => Bool.eq_iff_iff.mpr ⟨isSome_lookup_of_leaves hnodup hchildren h.isSome,
          isSome_lookup_of_leaves hnodup' hchildren' fun steps => (h.isSome steps).symm⟩) fun k v w hv hw => ?_
        exact ih (k, v) ((AssocList.lookup_eq_some_iff hnodup).mp hv)
          (hchildren' (k, w) ((AssocList.lookup_eq_some_iff hnodup').mp hw)) (h.of_lookup hv hw)
  | @list items hne hchildren ih =>
    obtain ⟨steps, x, y, hx, hy⟩ := h.exists_leaf (.list hne hchildren)
    cases steps with
    | nil => cases hx
    | cons s steps =>
      obtain ⟨_, i, _, -, rfl, -⟩ := (leafAt_cons hx).resolve_left (by rintro ⟨_, _, _, hv, -⟩; cases hv)
      obtain ⟨others, _, _, rfl, -⟩ := (leafAt_cons hy).resolve_left (by rintro ⟨_, _, _, -, hs, -⟩; cases hs)
      cases hw with
      | leaf hleaf => cases hleaf
      | @list _ hne' hchildren' =>
        refine .list (Nat.le_antisymm (length_le_of_leaves hchildren h.isSome)
          (length_le_of_leaves hchildren' fun steps => (h.isSome steps).symm)) fun i v w hv hw => ?_
        exact ih v (List.mem_of_getElem? hv) (hchildren' w (List.mem_of_getElem? hw)) (h.of_getElem? hv hw)

end

/-! ## The fields -/

section
variable {accepts : PyJson → PyJson → Bool} {expected predicted : PyJson}

/-- The flat dictionary of an answer. -/
def fieldsOf (v : PyJson) : List (PyStr × PyJson) := flattenJson v rootPath

/-- Every expected field has an accepted predicted one, and there are no others. -/
def FieldsMatch (accepts : PyJson → PyJson → Bool) (expected predicted : PyJson) : Prop :=
  matchedFields accepts (fieldsOf expected) (fieldsOf predicted) = (fieldsOf expected).length ∧
    (fieldsOf expected).length = (fieldsOf predicted).length

theorem nodup_fieldsOf (v : PyJson) : ((fieldsOf v).map Prod.fst).Nodup := nodup_flattenJson v rootPath

theorem mem_fieldsOf {v : PyJson} (hv : PlainValue v) {steps : List PathStep} (hsteps : ∀ s ∈ steps, s.Plain) {x : PyJson} :
    (rootPath ++ pathText steps, x) ∈ fieldsOf v ↔ leafAt v steps = some x := by
  rw [fieldsOf, hv.flattens]
  constructor
  · rintro ⟨others, hothers, htext, hx⟩
    rwa [pathText_injective hsteps hothers (List.append_cancel_left htext)]
  · exact fun hx => ⟨steps, hsteps, rfl, hx⟩

theorem mem_keys_fieldsOf {v : PyJson} (hv : PlainValue v) {q : PyStr} :
    q ∈ (fieldsOf v).map Prod.fst ↔
      ∃ steps, (∀ s ∈ steps, s.Plain) ∧ q = rootPath ++ pathText steps ∧ (leafAt v steps).isSome := by
  constructor
  · intro hq
    obtain ⟨⟨q, x⟩, hmem, rfl⟩ := List.mem_map.mp hq
    obtain ⟨steps, hsteps, hq, hx⟩ := (hv.flattens _ _ _).mp hmem
    exact ⟨steps, hsteps, hq, hx ▸ rfl⟩
  · rintro ⟨steps, hsteps, rfl, hsome⟩
    obtain ⟨x, hx⟩ := Option.isSome_iff_exists.mp hsome
    exact List.mem_map.mpr ⟨_, (mem_fieldsOf hv hsteps).mpr hx, rfl⟩

theorem matchedFields_eq_length_iff {expected predicted : List (PyStr × PyJson)} :
    matchedFields accepts expected predicted = expected.length ↔
      ∀ q x, (q, x) ∈ expected → ∃ y, predicted.lookup q = some y ∧ accepts x y = true := by
  rw [matchedFields, List.countP_eq_length]
  constructor
  · intro h q x hmem
    obtain ⟨y, hy, haccepts⟩ := (Option.any_eq_true _ _).mp (h _ hmem)
    exact ⟨y, hy, haccepts⟩
  · rintro h ⟨q, x⟩ hmem
    obtain ⟨y, hy, haccepts⟩ := h q x hmem
    exact (Option.any_eq_true _ _).mpr ⟨y, hy, haccepts⟩

/-- The matched fields are predicted ones. -/
theorem matchedFields_le {expected predicted : List (PyStr × PyJson)} (h : (expected.map Prod.fst).Nodup) :
    matchedFields accepts expected predicted ≤ predicted.length := by
  rw [matchedFields, List.countP_eq_length_filter]
  have hsub : ((expected.filter fun field => (predicted.lookup field.1).any (accepts field.2)).map Prod.fst).Nodup :=
    h.sublist (List.filter_sublist.map _)
  have hle : ((expected.filter fun field => (predicted.lookup field.1).any (accepts field.2)).map Prod.fst).length ≤
      (predicted.map Prod.fst).length := by
    refine (hsub.subperm fun q hq => ?_).length_le
    obtain ⟨⟨q, x⟩, hmem, rfl⟩ := List.mem_map.mp hq
    obtain ⟨y, hy, -⟩ := (Option.any_eq_true _ _).mp (List.mem_filter.mp hmem).2
    obtain ⟨_, _, rfl, -⟩ := List.lookup_eq_some_iff.mp hy
    simp
  rwa [List.length_map, List.length_map] at hle

/-- **The fields match exactly where the answers agree.** -/
theorem fieldsMatch_iff_agree (he : PlainValue expected) (hp : PlainValue predicted) :
    FieldsMatch accepts expected predicted ↔ LeavesAgree accepts expected predicted := by
  rw [FieldsMatch, matchedFields_eq_length_iff]
  constructor
  · rintro ⟨hmatched, hlength⟩
    -- As many keys are predicted as are expected, so that they are the same ones.
    have hsub : (fieldsOf expected).map Prod.fst ⊆ (fieldsOf predicted).map Prod.fst := by
      intro q hq
      obtain ⟨⟨q, x⟩, hmem, rfl⟩ := List.mem_map.mp hq
      obtain ⟨y, hy, -⟩ := hmatched q x hmem
      exact List.mem_map.mpr ⟨_, (AssocList.lookup_eq_some_iff (nodup_fieldsOf _)).mp hy, rfl⟩
    have hperm : ((fieldsOf expected).map Prod.fst).Perm ((fieldsOf predicted).map Prod.fst) :=
      ((nodup_fieldsOf _).subperm hsub).perm_of_length_le (by rw [List.length_map, List.length_map, hlength])
    intro steps
    cases hx : leafAt expected steps with
    | some x =>
      have hsteps := he.plain_steps hx
      obtain ⟨y, hy, haccepts⟩ := hmatched _ x ((mem_fieldsOf he hsteps).mpr hx)
      rw [(mem_fieldsOf hp hsteps).mp ((AssocList.lookup_eq_some_iff (nodup_fieldsOf _)).mp hy)]
      exact .some haccepts
    | none =>
      cases hy : leafAt predicted steps with
      | none => exact .none
      | some y =>
        have hsteps := hp.plain_steps hy
        have hkey := (mem_keys_fieldsOf hp).mpr ⟨steps, hsteps, rfl, hy ▸ rfl⟩
        obtain ⟨others, hothers, htext, hsome⟩ := (mem_keys_fieldsOf he).mp (hperm.mem_iff.mpr hkey)
        rw [← pathText_injective hsteps hothers (List.append_cancel_left htext), hx] at hsome
        cases hsome
  · intro h
    constructor
    · intro q x hmem
      obtain ⟨steps, hsteps, rfl, hx⟩ := (he.flattens _ _ _).mp hmem
      have hrel := h steps
      cases hy : leafAt predicted steps with
      | none => rw [hx, hy] at hrel; cases hrel
      | some y =>
        rw [hx, hy, Option.rel_some_some] at hrel
        exact ⟨y, (AssocList.lookup_eq_some_iff (nodup_fieldsOf _)).mpr ((mem_fieldsOf hp hsteps).mpr hy), hrel⟩
    · have hperm : ((fieldsOf expected).map Prod.fst).Perm ((fieldsOf predicted).map Prod.fst) := by
        refine (List.perm_ext_iff_of_nodup (nodup_fieldsOf _) (nodup_fieldsOf _)).mpr fun q => ?_
        simp only [mem_keys_fieldsOf he, mem_keys_fieldsOf hp, h.isSome]
      simpa using hperm.length_eq

theorem length_fieldsOf_pos {v : PyJson} (hv : PlainValue v) : 0 < (fieldsOf v).length := by
  obtain ⟨steps, x, hx⟩ := hv.exists_leaf
  exact List.length_pos_of_mem ((mem_fieldsOf hv (hv.plain_steps hx)).mpr hx)

/-- The fields that match have the types of the expected ones. -/
theorem FieldsMatch.structural {structural : PyJson → PyJson → Bool}
    (hstructural : ∀ x y, accepts x y = true → structural x y = true) (h : FieldsMatch accepts expected predicted) :
    FieldsMatch structural expected predicted := by
  refine ⟨matchedFields_eq_length_iff.mpr fun q x hmem => ?_, h.2⟩
  obtain ⟨y, hy, haccepts⟩ := matchedFields_eq_length_iff.mp h.1 q x hmem
  exact ⟨y, hy, hstructural x y haccepts⟩

/-- The `_f1` of the fields of two answers. -/
theorem f1_fields_mark (hek : (fieldsOf expected).length ≤ 2 ^ 40) (hpk : (fieldsOf predicted).length ≤ 2 ^ 40) :
    Mark 42 (FieldsMatch accepts expected predicted) (f1 (matchedFields accepts (fieldsOf expected)
      (fieldsOf predicted)) (fieldsOf expected).length (fieldsOf predicted).length) :=
  f1_mark List.countP_le_length (matchedFields_le (nodup_fieldsOf expected)) hek hpk

end

/-! ## Full marks -/

section
variable (unicode : UnicodeData) {expected predicted : PyJson}

/-- Values that are equal have one type. -/
theorem pyType_of_jsonEqual {x y : PyJson} (h : jsonEqual unicode x y = true) : (y.pyType == x.pyType) = true := by
  cases x <;> cases y <;> first | rfl | simp [jsonEqual] at h

/-- The score of an extraction is one exactly where the fields match. -/
theorem ExtractionEvaluator.score_mark (hek : (fieldsOf expected).length ≤ 2 ^ 40)
    (hpk : (fieldsOf predicted).length ≤ 2 ^ 40) :
    Mark 42 (FieldsMatch (jsonEqual unicode) expected predicted)
      (ExtractionEvaluator.score unicode expected (some predicted)) :=
  f1_fields_mark hek hpk

/-- The score of a JSON answer is one exactly where the fields match, in their types and in their values. -/
theorem JSONEvaluator.score_mark (he : PlainValue expected) (hek : (fieldsOf expected).length ≤ 2 ^ 40)
    (hpk : (fieldsOf predicted).length ≤ 2 ^ 40) :
    Mark 44 (FieldsMatch (jsonEqual unicode) expected predicted)
      (JSONEvaluator.score unicode expected (some predicted)) := by
  have hpos := length_fieldsOf_pos he
  have hne : flattenJson expected rootPath ≠ [] := List.length_pos_iff.mp hpos
  have hschema := @f1_fields_mark (fun left right => right.pyType == left.pyType) _ _ hek hpk
  have hvalues := ratio_mark (m := matchedFields (jsonEqual unicode) (fieldsOf expected) (fieldsOf predicted))
    List.countP_le_length hpos hek
  have hmean := mean_mark hschema hvalues
  have hboth : (FieldsMatch (fun left right => right.pyType == left.pyType) expected predicted ∧
      matchedFields (jsonEqual unicode) (fieldsOf expected) (fieldsOf predicted) = (fieldsOf expected).length) ↔
      FieldsMatch (jsonEqual unicode) expected predicted := by
    constructor
    · rintro ⟨hstructural, hvalues⟩
      exact ⟨hvalues, hstructural.2⟩
    · intro h
      exact ⟨h.structural fun x y => pyType_of_jsonEqual unicode, h.1⟩
  rw [hboth] at hmean
  rw [JSONEvaluator.score, if_neg hne]
  exact hmean

/-- The fields match exactly where the answers are the same. -/
theorem fieldsMatch_iff_sameAnswer (he : PlainValue expected) (hp : PlainValue predicted) :
    FieldsMatch (jsonEqual unicode) expected predicted ↔ SameAnswer (jsonEqual unicode) expected predicted := by
  rw [fieldsMatch_iff_agree he hp]
  exact ⟨fun h => h.sameAnswer he hp, SameAnswer.agree⟩

/-- **A plain answer is acceptable at the default threshold exactly where it is the expected one**, whichever of the two
evaluators scores it. -/
theorem fullMarks_iff (he : PlainValue expected) (hp : PlainValue predicted)
    (hek : (fieldsOf expected).length ≤ 2 ^ 40) (hpk : (fieldsOf predicted).length ≤ 2 ^ 40) :
    (acceptable none (ExtractionEvaluator.score unicode expected (some predicted)) = true ↔
      SameAnswer (jsonEqual unicode) expected predicted) ∧
    (acceptable none (JSONEvaluator.score unicode expected (some predicted)) = true ↔
      SameAnswer (jsonEqual unicode) expected predicted) := by
  rw [← fieldsMatch_iff_sameAnswer unicode he hp]
  exact ⟨(ExtractionEvaluator.score_mark unicode hek hpk).acceptable_iff,
    (JSONEvaluator.score_mark unicode he hek hpk).acceptable_iff⟩

/-- A record of a name and its marks, under two keys in either order. -/
def markedRecord (name : String) (nameFirst : Bool) : PyJson :=
  let named := (PyStr.ofString "name", .str (PyStr.ofString name))
  let marked := (PyStr.ofString "marks", .list [.int 1, .float (.finite 1)])
  .dict (if nameFirst then [named, marked] else [marked, named])

theorem plain_markedRecord (name : String) (nameFirst : Bool) : PlainValue (markedRecord name nameFirst) := by
  have hname : PlainValue (.str (PyStr.ofString name)) := .leaf rfl
  have hmarks : PlainValue (.list [.int 1, .float (.finite 1)]) := by
    refine .list (List.cons_ne_nil _ _) ?_
    simp only [List.forall_mem_cons]
    exact ⟨.leaf rfl, .leaf rfl, List.forall_mem_nil _⟩
  have hplain : (PathStep.key (PyStr.ofString "name")).Plain ∧ (PathStep.key (PyStr.ofString "marks")).Plain := by
    simp only [PathStep.Plain]
    decide
  cases nameFirst with
  | true =>
    refine .dict (List.cons_ne_nil _ _) (by simp only [if_true, List.map]; decide) ?_ ?_
    · simpa [List.forall_mem_cons] using hplain
    · simpa [List.forall_mem_cons] using ⟨hname, hmarks⟩
  | false =>
    refine .dict (List.cons_ne_nil _ _) (by simp only [Bool.false_eq_true, if_false, List.map]; decide) ?_ ?_
    · simpa [List.forall_mem_cons] using hplain.symm
    · simpa [List.forall_mem_cons] using ⟨hmarks, hname⟩

theorem length_markedRecord (name : String) (nameFirst : Bool) :
    (fieldsOf (markedRecord name nameFirst)).length = 3 := by
  cases nameFirst <;> rfl

/-- The record with its keys in the other order and the name in lower case. -/
theorem fullMarks_iff_sample :
    (acceptable none (ExtractionEvaluator.score .ascii (markedRecord "Ada" true) (some (markedRecord "ada" false))) = true ↔
      SameAnswer (jsonEqual .ascii) (markedRecord "Ada" true) (markedRecord "ada" false)) ∧
    (acceptable none (JSONEvaluator.score .ascii (markedRecord "Ada" true) (some (markedRecord "ada" false))) = true ↔
      SameAnswer (jsonEqual .ascii) (markedRecord "Ada" true) (markedRecord "ada" false)) :=
  fullMarks_iff .ascii (plain_markedRecord _ _) (plain_markedRecord _ _) (by rw [length_markedRecord]; norm_num)
    (by rw [length_markedRecord]; norm_num)

end

end RouteLLM
