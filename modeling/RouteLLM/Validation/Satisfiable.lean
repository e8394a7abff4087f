import RouteLLM.Lib.AssocList
import RouteLLM.Lib.Json.Writer
import RouteLLM.Validation.Language

/-!
# Contracts that can be met

For which contracts some complete response passes. A text of any wanted length passes a text contract,
a label passes its own contract, and JSON texts of any wanted length are written by padding them, except
for the roots whose texts are `null`, `true` and `false`. The constructor checks the wanted length
against the labels and not against these roots (`satisfiable_iff`).
-/

namespace RouteLLM

open JsonGrammar

namespace DeterministicResponseValidator

/-! ## Texts of JSON values -/

/-- A text of a value in the size limit, of at least `n` characters after stripping. -/
structure LongText (n : ℕ) (cs : List Char) (v : JsonTree) : Prop where
  derives : Derives cs (.value v)
  long : n ≤ (PyStr.strip cs).length
  short : cs.length ≤ maxInputCharacters

/-- A text that starts and ends with no whitespace is not stripped. -/
theorem strip_enclosed {x y : Char} (mid : List Char) (hx : PyStr.isSpaceChar x = false)
    (hy : PyStr.isSpaceChar y = false) : PyStr.strip (x :: (mid ++ [y])) = x :: (mid ++ [y]) := by
  refine PyStr.stripBy_eq_self _ (fun c hc => ?_) (fun c hc => ?_)
  · rw [List.head?_cons, Option.mem_some_iff] at hc
    rw [← hc, hx]
  · rw [← List.cons_append, List.getLast?_append, List.getLast?_singleton] at hc
    cases hc
    exact hy

/-- Such a text of a value is a long text of its length. -/
theorem longText_enclosed {n : ℕ} {x y : Char} {mid : List Char} {v : JsonTree}
    (hx : PyStr.isSpaceChar x = false) (hy : PyStr.isSpaceChar y = false)
    (hderives : Derives (x :: (mid ++ [y])) (.value v)) (hlong : n ≤ mid.length + 2)
    (hshort : mid.length + 2 ≤ maxInputCharacters) : LongText n (x :: (mid ++ [y])) v := by
  have hlength : (x :: (mid ++ [y])).length = mid.length + 2 := by
    rw [List.length_cons, List.length_append, List.length_singleton]
  refine ⟨hderives, ?_, hlength.le.trans hshort⟩
  rw [strip_enclosed mid hx hy, hlength]
  exact hlong

theorem digitsValue_zeros (k : ℕ) : digitsValue (List.replicate k '0') = 0 := by
  induction k with
  | zero => rfl
  | succ k ih => exact ih

theorem ws_spaces (k : ℕ) : Ws (List.replicate k ' ') := by
  intro c hc
  rw [List.eq_of_mem_replicate hc]
  rfl

section
variable {n : ℕ}

/-- The number one, with an exponent of as many zeros as the length takes. -/
theorem exists_number (hn : n ≤ maxInputCharacters) :
    ∃ cs, LongText n cs (.number ⟨false, ['1'], none, some 0⟩) := by
  have hnumber : NumberText ([] ++ (['1'] ++ ([] ++ ('e' :: List.replicate (n - 3 + 1) '0'))))
      ⟨false, ['1'], none, some (digitsValue (List.replicate (n - 3 + 1) '0'))⟩ := by
    refine .mk .absent (.pos rfl (by decide) (List.forall_mem_nil _)) .absent
      (.unsigned (.inl rfl) (List.cons_ne_nil _ _) fun c hc => ?_)
    rw [List.eq_of_mem_replicate hc]
    rfl
  rw [digitsValue_zeros, List.replicate_succ', Nat.cast_zero] at hnumber
  have htext : Derives ('1' :: (('e' :: List.replicate (n - 3) '0') ++ ['0']))
      (.value (.number ⟨false, ['1'], none, some 0⟩)) := .number hnumber
  have hmid : ('e' :: List.replicate (n - 3) '0').length = n - 3 + 1 := by
    rw [List.length_cons, List.length_replicate]
  have hlimit : 3 ≤ maxInputCharacters := by decide
  exact ⟨_, longText_enclosed (by decide) (by decide) htext (by omega) (by omega)⟩

/-- A string of letters. -/
theorem exists_string (hn : n ≤ maxInputCharacters) : ∃ cs s, LongText n cs (.string s) := by
  have hchars : CharsText (List.replicate (n - 2) 'a') ((List.replicate (n - 2) 'a').map Char.toNat) := by
    induction n - 2 with
    | zero => exact .nil
    | succ k ih => exact .plain rfl ih
  have hmid : (List.replicate (n - 2) 'a').length = n - 2 := List.length_replicate
  have hlimit : 2 ≤ maxInputCharacters := by decide
  exact ⟨_, _, longText_enclosed (by decide) (by decide) (.string hchars) (by omega) (by omega)⟩

/-- An empty array with whitespace. -/
theorem exists_array (hn : n ≤ maxInputCharacters) : ∃ cs, LongText n cs (.array []) := by
  have hmid : (List.replicate (n - 2) ' ').length = n - 2 := List.length_replicate
  have hlimit : 2 ≤ maxInputCharacters := by decide
  exact ⟨_, longText_enclosed (by decide) (by decide) (.emptyArray (ws_spaces (n - 2)))
    (by omega) (by omega)⟩

/-- An empty object with whitespace. -/
theorem exists_emptyObject (hn : n ≤ maxInputCharacters) : ∃ cs, LongText n cs (.object []) := by
  have hmid : (List.replicate (n - 2) ' ').length = n - 2 := List.length_replicate
  have hlimit : 2 ≤ maxInputCharacters := by decide
  exact ⟨_, longText_enclosed (by decide) (by decide) (.emptyObject (ws_spaces (n - 2)))
    (by omega) (by omega)⟩

/-- An object of given members whose texts leave room, with whitespace before them. -/
theorem exists_object (hn : n ≤ maxInputCharacters) {ms : List JsonWriter.Member} (hne : ms ≠ [])
    (hderives : ∀ m ∈ ms, Derives m.text (.value m.tree))
    (hroom : (JsonWriter.membersText ms).length + 2 ≤ maxInputCharacters) :
    ∃ cs, LongText n cs (.object (ms.map JsonWriter.Member.entry)) := by
  generalize hpad : n - ((JsonWriter.membersText ms).length + 2) = pad
  have hmembers := JsonWriter.derives_members (ws_spaces pad) hne hderives
  have hmid : (List.replicate pad ' ' ++ JsonWriter.membersText ms).length =
      pad + (JsonWriter.membersText ms).length := by
    rw [List.length_append, List.length_replicate]
  exact ⟨_, longText_enclosed (by decide) (by decide) (.object hmembers) (by omega) (by omega)⟩

end

/-! ## Members of an object -/

/-- What a value needs to be a member: its text is short, and every check of values passes. -/
structure Simple (text : List Char) (v : JsonTree) : Prop where
  derives : Derives text (.value v)
  short : text.length ≤ 5
  standard : v.Standard
  nesting : v.nesting ≤ 1
  keys : v.KeysNodup
  numbers : v.AllNumbers InDecimalRange

/-- A value of a wanted type. -/
def fieldValue : Option JsonType → List Char × JsonTree
  | some .object => (['\x7b', '\x7d'], .object [])
  | some .array => (['[', ']'], .array [])
  | some .string => (['"', '"'], .string [])
  | some .number | some .integer => (['0'], .number ⟨false, ['0'], none, none⟩)
  | some .boolean => (['t', 'r', 'u', 'e'], .bool true)
  | some .null | none => (['n', 'u', 'l', 'l'], .null)

theorem numberText_zero : NumberText ['0'] ⟨false, ['0'], none, none⟩ :=
  .mk .absent .zero .absent .absent

theorem fieldValue_simple (t : Option JsonType) : Simple (fieldValue t).1 (fieldValue t).2 := by
  have hnil : Ws [] := List.forall_mem_nil _
  have hnull : Simple ['n', 'u', 'l', 'l'] .null :=
    ⟨.null, by decide, trivial, Nat.zero_le _, trivial, trivial⟩
  have hzero : Simple ['0'] (.number ⟨false, ['0'], none, none⟩) :=
    ⟨.number numberText_zero, by decide, trivial, Nat.zero_le _, trivial, by decide, by decide⟩
  cases t with
  | none => exact hnull
  | some t =>
    cases t with
    | null => exact hnull
    | number | integer => exact hzero
    | boolean => exact ⟨.true, by decide, trivial, Nat.zero_le _, trivial, trivial⟩
    | string => exact ⟨.string .nil, by decide, trivial, Nat.zero_le _, trivial, trivial⟩
    | array => exact ⟨.emptyArray hnil, by decide, trivial, le_rfl, trivial, trivial⟩
    | object => exact ⟨.emptyObject hnil, by decide, trivial, le_rfl, ⟨.nil, trivial⟩, trivial⟩

theorem fieldValue_hasType (t : JsonType) : HasType (fieldValue (some t)).2 t := by
  cases t with
  | integer => exact ⟨0, by simp [numberValue, coefficient, digitsValue]⟩
  | object | array | string | number | boolean | null => trivial

/-- The checks of an object, from those of its members. -/
theorem object_checks {kvs : List (PyStr × JsonTree)} (hnodup : (kvs.map (·.1)).Nodup)
    (h : ∀ kv ∈ kvs, ∃ text, Simple text kv.2) :
    (JsonTree.object kvs).Standard ∧ (JsonTree.object kvs).nesting ≤ 2 ∧
      (JsonTree.object kvs).KeysNodup ∧ (JsonTree.object kvs).AllNumbers InDecimalRange := by
  have hmembers : JsonTree.StandardMembers kvs ∧ JsonTree.nestingMembers kvs ≤ 1 ∧
      JsonTree.KeysNodupMembers kvs ∧ JsonTree.AllNumbersMembers InDecimalRange kvs := by
    clear hnodup
    induction kvs with
    | nil => exact ⟨trivial, Nat.zero_le _, trivial, trivial⟩
    | cons kv kvs ih =>
      obtain ⟨text, hsimple⟩ := h kv (.head _)
      obtain ⟨hstandard, hnesting, hkeys, hnumbers⟩ := ih fun kv hkv => h kv (.tail _ hkv)
      exact ⟨⟨hsimple.standard, hstandard⟩, max_le hsimple.nesting hnesting,
        ⟨hsimple.keys, hkeys⟩, ⟨hsimple.numbers, hnumbers⟩⟩
  obtain ⟨hstandard, hnesting, hkeys, hnumbers⟩ := hmembers
  exact ⟨hstandard, Nat.succ_le_succ hnesting, ⟨hnodup, hkeys⟩, hnumbers⟩

section contract
variable (contract : ValidationContract)

/-- The member of a required field: a value of its type, or `null` where it has none. -/
def requiredMember (key : Name) : JsonWriter.Member where
  key := key.value.toList
  text := (fieldValue (contract.fieldTypes.lookup key)).1
  tree := (fieldValue (contract.fieldTypes.lookup key)).2

/-- The members of the required fields. -/
def requiredMembers : List JsonWriter.Member := contract.requiredFields.map (requiredMember contract)

variable {contract}

theorem requiredMember_entry (key : Name) :
    (requiredMember contract key).entry =
      (PyStr.ofString key.value, (fieldValue (contract.fieldTypes.lookup key)).2) := rfl

/-- The members of the required fields fit the size limit. -/
theorem requiredMembers_short :
    (JsonWriter.membersText (requiredMembers contract)).length + 2 ≤ maxInputCharacters := by
  have hmember : ∀ m ∈ requiredMembers contract, 6 * m.key.length + m.text.length + 4 ≤ 777 := by
    intro m hm
    obtain ⟨key, _, rfl⟩ := List.mem_map.mp hm
    have hkey : (requiredMember contract key).key.length ≤ 128 := key.max_length
    have htext : (requiredMember contract key).text.length ≤ 5 := (fieldValue_simple _).short
    omega
  have hlength := JsonWriter.length_membersText_le hmember
  have hcount : (requiredMembers contract).length ≤ 64 := by
    rw [requiredMembers, List.length_map]
    exact contract.requiredFields_length
  have hlimit : 64 * 777 + 2 ≤ maxInputCharacters := by decide
  omega

/-- A value without members meets a contract without field constraints if it has the root type. -/
theorem meetsJson_of_noFields {v : JsonTree}
    (hfields : contract.requiredFields = [] ∧ contract.fieldTypes = [])
    (hroot : ∀ rootType, effectiveRootType contract = some rootType → HasType v rootType)
    (hstandard : v.Standard) (hnesting : v.nesting ≤ 1) (hkeys : v.KeysNodup) :
    MeetsJson contract v := by
  refine ⟨hstandard, hnesting.trans (by decide), hkeys, hroot, ?_, ?_⟩
  · rw [hfields.1]
    exact List.forall_mem_nil _
  · rw [hfields.2]
    exact List.forall_mem_nil _

/-- The object of the required fields meets a contract with an object root. -/
theorem meetsJson_requiredMembers (hroot : effectiveRootType contract = some .object) :
    MeetsJson contract (.object ((requiredMembers contract).map JsonWriter.Member.entry)) ∧
      (JsonTree.object ((requiredMembers contract).map JsonWriter.Member.entry)).AllNumbers
        InDecimalRange := by
  have hentries : (requiredMembers contract).map JsonWriter.Member.entry =
      contract.requiredFields.map fun key =>
        (PyStr.ofString key.value, (fieldValue (contract.fieldTypes.lookup key)).2) := by
    rw [requiredMembers, List.map_map]
    rfl
  have hkeys : ((requiredMembers contract).map JsonWriter.Member.entry).map (·.1) =
      contract.requiredFields.map fun key => PyStr.ofString key.value := by
    rw [hentries, List.map_map]
    rfl
  have hinjective : Function.Injective fun key : Name => PyStr.ofString key.value := by
    rintro ⟨a, _, _⟩ ⟨b, _, _⟩ h
    cases PyStr.ofString_injective h
    rfl
  have hdistinct : (((requiredMembers contract).map JsonWriter.Member.entry).map (·.1)).Nodup := by
    rw [hkeys]
    exact contract.requiredFields_nodup.map hinjective
  have hsimple : ∀ kv ∈ (requiredMembers contract).map JsonWriter.Member.entry,
      ∃ text, Simple text kv.2 := by
    rw [hentries]
    intro kv hkv
    obtain ⟨key, _, rfl⟩ := List.mem_map.mp hkv
    exact ⟨_, fieldValue_simple _⟩
  obtain ⟨hstandard, hnesting, hnodup, hnumbers⟩ := object_checks hdistinct hsimple
  refine ⟨⟨hstandard, hnesting.trans (by decide), hnodup, ?_, ?_, ?_⟩, hnumbers⟩
  · intro rootType htype
    rw [hroot] at htype
    cases htype
    trivial
  · intro key hkey
    show _ ∈ ((requiredMembers contract).map JsonWriter.Member.entry).map (·.1)
    rw [hkeys]
    exact List.mem_map_of_mem hkey
  · intro field hfield value hvalue
    have hmem : (PyStr.ofString field.1.value, value) ∈
        (requiredMembers contract).map JsonWriter.Member.entry := hvalue
    rw [hentries] at hmem
    obtain ⟨key, _, heq⟩ := List.mem_map.mp hmem
    obtain ⟨hname, rfl⟩ := Prod.mk.inj heq
    have hsame : key = field.1 := hinjective hname
    have hlookup : contract.fieldTypes.lookup field.1 = some field.2 := by
      simpa using AssocList.lookup_map_of_nodup (g := (·.2)) contract.fieldTypes_keys hfield
    rw [hsame, hlookup]
    exact fieldValue_hasType field.2

/-- The wanted length fits the roots whose texts are bounded. -/
def LengthFits (contract : ValidationContract) : Prop :=
  ∀ n, contract.minCharacters = some n →
    (contract.rootType = some .null → n ≤ 4) ∧ (contract.rootType = some .boolean → n ≤ 5)

/-- A contract whose wanted length fits has a JSON text of that length. -/
theorem exists_meetsJson (hfits : LengthFits contract) :
    ∃ cs v, LongText (contract.minCharacters.getD 1) cs v ∧ MeetsJson contract v ∧
      v.AllNumbers InDecimalRange := by
  have hn : contract.minCharacters.getD 1 ≤ maxInputCharacters := by
    cases hmin : contract.minCharacters with
    | none => decide
    | some n => exact (contract.minCharacters_range n hmin).2
  have hsmall (limit : ℕ) (hpos : 1 ≤ limit)
      (h : ∀ n, contract.minCharacters = some n → n ≤ limit) :
      contract.minCharacters.getD 1 ≤ limit := by
    cases hmin : contract.minCharacters with
    | none => exact hpos
    | some n => exact h n hmin
  by_cases hobject : effectiveRootType contract = some .object
  · by_cases hrequired : contract.requiredFields = []
    · obtain ⟨cs, hcs⟩ := exists_emptyObject hn
      obtain ⟨hmeets, hnumbers⟩ := meetsJson_requiredMembers hobject
      rw [requiredMembers, hrequired] at hmeets hnumbers
      exact ⟨cs, _, hcs, hmeets, hnumbers⟩
    · have hne : requiredMembers contract ≠ [] := by
        rw [requiredMembers, Ne, List.map_eq_nil_iff]
        exact hrequired
      have hderives : ∀ m ∈ requiredMembers contract, Derives m.text (.value m.tree) := by
        intro m hm
        obtain ⟨key, _, rfl⟩ := List.mem_map.mp hm
        exact (fieldValue_simple _).derives
      obtain ⟨cs, hcs⟩ := exists_object hn hne hderives requiredMembers_short
      exact ⟨cs, _, hcs, meetsJson_requiredMembers hobject⟩
  have hfields : contract.requiredFields = [] ∧ contract.fieldTypes = [] := by
    by_contra hfields
    exact hobject (effectiveRootType_of_fields (not_and_or.mp hfields))
  have hroot : effectiveRootType contract = contract.rootType := by
    rw [effectiveRootType, hfields.1, hfields.2]
    simp
  have hmeets {v : JsonTree} (htype : ∀ t, contract.rootType = some t → HasType v t)
      (hstandard : v.Standard) (hnesting : v.nesting ≤ 1) (hkeys : v.KeysNodup) :
      MeetsJson contract v :=
    meetsJson_of_noFields hfields (by rw [hroot]; exact htype) hstandard hnesting hkeys
  have hnumber : (JsonTree.number ⟨false, ['1'], none, some 0⟩).AllNumbers InDecimalRange :=
    ⟨by decide, by decide⟩
  obtain ⟨numberText, hnumberText⟩ := exists_number hn
  cases htype : contract.rootType with
  | none =>
    refine ⟨_, _, hnumberText, hmeets (fun t ht => ?_) trivial (Nat.zero_le _) trivial, hnumber⟩
    rw [htype] at ht
    cases ht
  | some t =>
    have hof {v : JsonTree} (h : HasType v t) : ∀ t', contract.rootType = some t' → HasType v t' := by
      intro t' ht'
      rw [htype] at ht'
      cases ht'
      exact h
    cases t with
    | object =>
      rw [hroot, htype] at hobject
      exact absurd rfl hobject
    | array =>
      obtain ⟨cs, hcs⟩ := exists_array hn
      exact ⟨cs, _, hcs, hmeets (hof trivial) trivial le_rfl trivial, trivial⟩
    | string =>
      obtain ⟨cs, text, hcs⟩ := exists_string hn
      exact ⟨cs, _, hcs, hmeets (hof trivial) trivial (Nat.zero_le _) trivial, trivial⟩
    | number =>
      exact ⟨_, _, hnumberText, hmeets (hof trivial) trivial (Nat.zero_le _) trivial, hnumber⟩
    | integer =>
      have hone : HasType (.number ⟨false, ['1'], none, some 0⟩) .integer :=
        ⟨1, by simp [numberValue, coefficient, lastExponent, digitsValue]⟩
      exact ⟨_, _, hnumberText, hmeets (hof hone) trivial (Nat.zero_le _) trivial, hnumber⟩
    | boolean =>
      have hlong := hsmall 5 (by decide) fun n hn => (hfits n hn).2 htype
      have htext : LongText (contract.minCharacters.getD 1) ['f', 'a', 'l', 's', 'e']
          (.bool false) :=
        longText_enclosed (by decide) (by decide)
          (show Derives ('f' :: (['a', 'l', 's'] ++ ['e'])) _ from .false) hlong (by decide)
      exact ⟨_, _, htext, hmeets (hof trivial) trivial (Nat.zero_le _) trivial, trivial⟩
    | null =>
      have hlong := hsmall 4 (by decide) fun n hn => (hfits n hn).1 htype
      have htext : LongText (contract.minCharacters.getD 1) ['n', 'u', 'l', 'l'] .null :=
        longText_enclosed (by decide) (by decide)
          (show Derives ('n' :: (['u', 'l'] ++ ['l'])) _ from .null) hlong (by decide)
      exact ⟨_, _, htext, hmeets (hof trivial) trivial (Nat.zero_le _) trivial, trivial⟩

/-! ## Which contracts can be met -/

variable {recursionLimit : ℕ}

/-- The response of a text that ended by itself. -/
def completeResponse (cs : List Char) : InferenceResponse :=
  { InferenceResponse.sample with text := String.ofList cs, terminationReason := .complete }

theorem completeResponse_ne_length (cs : List Char) :
    (completeResponse cs).terminationReason ≠ .length := by
  show TerminationReason.complete ≠ .length
  decide

/-- Some response that ended by itself passes. -/
def Satisfiable (recursionLimit : ℕ) (contract : ValidationContract) : Prop :=
  ∃ response : InferenceResponse, response.terminationReason = .complete ∧
    ∀ durationMs, (validate recursionLimit response (some contract) durationMs).status = .passed

/-- Every allowed label passes, with any whitespace around it that the size limit admits. -/
def LabelsPass (recursionLimit : ℕ) (contract : ValidationContract) : Prop :=
  contract.format = .label → ∀ label ∈ contract.allowedLabels, ∀ before after : List Char,
    (∀ c ∈ before, PyStr.isSpaceChar c = true) → (∀ c ∈ after, PyStr.isSpaceChar c = true) →
    ∀ response : InferenceResponse,
      response.text.toList = before ++ (label.value.toList ++ after) →
      response.terminationReason = .complete → response.text.length ≤ maxInputCharacters →
      ∀ durationMs, (validate recursionLimit response (some contract) durationMs).status = .passed

/-- Every allowed label passes its contract. -/
theorem labelsPass (hlimit : maxJsonDepth ≤ recursionLimit) : LabelsPass recursionLimit contract := by
  intro hformat label hlabel before after hbefore hafter response htext hcomplete hsize durationMs
  have hstrip : PyStr.strip response.text.toList = label.value.toList := by
    rw [htext, PyStr.strip, PyStr.stripBy_append _ hbefore hafter]
    exact contract.labels_stripped hformat label hlabel
  rw [validate_passed_iff_check, check_eq_nil_iff hlimit]
  refine ⟨?_, hsize, ?_, fun n hn => ?_, fun _ => ⟨label, hlabel, hstrip.symm⟩, fun hjson => ?_⟩
  · rw [hcomplete]
    decide
  · rw [hstrip]
    exact fun hnil => label.nonempty (String.toList_eq_nil_iff.mp hnil)
  · rw [hstrip, String.length_toList]
    exact contract.labels_long_enough hformat n hn label hlabel
  · rw [hformat] at hjson
    cases hjson

/-- A text contract is met by letters. -/
theorem satisfiable_text (hlimit : maxJsonDepth ≤ recursionLimit) (hformat : contract.format = .text) :
    Satisfiable recursionLimit contract := by
  obtain ⟨k, hk⟩ : ∃ k, contract.minCharacters.getD 1 = k := ⟨_, rfl⟩
  have hkrange : 1 ≤ k ∧ k ≤ maxInputCharacters := by
    rw [← hk]
    cases hmin : contract.minCharacters with
    | none => decide
    | some n => exact contract.minCharacters_range n hmin
  have hletter : ∀ c ∈ List.replicate k 'a', PyStr.isSpaceChar c = false := by
    intro c hc
    rw [List.eq_of_mem_replicate hc]
    rfl
  have hstrip : PyStr.strip (List.replicate k 'a') = List.replicate k 'a' :=
    PyStr.stripBy_eq_self _ (fun c hc => hletter c (List.mem_of_mem_head? hc))
      (fun c hc => hletter c (List.mem_of_mem_getLast? hc))
  refine ⟨completeResponse (List.replicate k 'a'), rfl, fun durationMs => ?_⟩
  rw [validate_passed_iff_check, check_eq_nil_iff hlimit]
  have htext : (completeResponse (List.replicate k 'a')).text.toList = List.replicate k 'a' :=
    String.toList_ofList
  refine ⟨completeResponse_ne_length _, ?_, ?_, fun n hn => ?_, fun hlabel => ?_, fun hjson => ?_⟩
  · rw [← String.length_toList, htext, List.length_replicate]
    exact hkrange.2
  · rw [htext, hstrip, Ne, List.replicate_eq_nil_iff]
    omega
  · rw [htext, hstrip, List.length_replicate, ← hk, hn, Option.getD_some]
  · rw [hformat] at hlabel
    cases hlabel
  · rw [hformat] at hjson
    cases hjson

/-- A JSON contract whose wanted length fits is met by a padded text. -/
theorem satisfiable_json (hlimit : maxJsonDepth ≤ recursionLimit) (hformat : contract.format = .json)
    (hfits : LengthFits contract) : Satisfiable recursionLimit contract := by
  obtain ⟨cs, v, hcs, hmeets, hnumbers⟩ := exists_meetsJson hfits
  refine ⟨completeResponse cs, rfl, fun durationMs => ?_⟩
  rw [validate_passed_iff_check, check_eq_nil_iff hlimit]
  have htext : (completeResponse cs).text.toList = cs := String.toList_ofList
  refine ⟨completeResponse_ne_length _, ?_, ?_, fun n hn => ?_, fun hlabel => ?_,
    fun _ => ⟨v, ?_, hmeets, hnumbers⟩⟩
  · rw [← String.length_toList, htext]
    exact hcs.short
  · rw [htext]
    intro hnil
    have hlong := hcs.long
    rw [hnil, List.length_nil] at hlong
    cases hmin : contract.minCharacters with
    | none =>
      rw [hmin] at hlong
      cases hlong
    | some n =>
      rw [hmin, Option.getD_some] at hlong
      exact absurd (contract.minCharacters_range n hmin).1 (by omega)
  · rw [htext]
    have hlong := hcs.long
    rw [hn, Option.getD_some] at hlong
    exact hlong
  · rw [hformat] at hlabel
    cases hlabel
  · have hnil : Ws [] := List.forall_mem_nil _
    rw [htext]
    exact ⟨[], cs, [], hnil, hcs.derives, hnil, by rw [List.nil_append, List.append_nil]⟩

/-- Whitespace of the grammar is stripped. -/
theorem strip_text {cs : List Char} {v : JsonTree} (h : Text cs v) :
    ∃ cs', Derives cs' (.value v) ∧ PyStr.strip cs = PyStr.strip cs' := by
  obtain ⟨w, cs', w', hw, hderives, hw', rfl⟩ := h
  have hspace {ws : List Char} (hws : Ws ws) : ∀ c ∈ ws, PyStr.isSpaceChar c = true := by
    intro c hc
    have hc := hws c hc
    simp only [isWs, Bool.or_eq_true, decide_eq_true_eq] at hc
    rcases hc with ((rfl | rfl) | rfl) | rfl
    · decide
    · decide
    · decide
    · decide
  exact ⟨cs', hderives, PyStr.stripBy_append _ (hspace hw) (hspace hw')⟩

/-- What a contract with a root `null` or boolean admits has the length of that text. -/
theorem lengthFits_of_admits {response : InferenceResponse}
    (h : Admits InDecimalRange contract response) : LengthFits contract := by
  intro n hn
  have hlong := h.long_enough n hn
  have hscalar {t : JsonType} (ht : contract.rootType = some t) :
      ∃ v cs, Derives cs (.value v) ∧ HasType v t ∧ n ≤ (PyStr.strip cs).length := by
    have hformat : contract.format = .json := by
      by_contra hformat
      rw [(contract.json_only hformat).1] at ht
      cases ht
    obtain ⟨v, htext, hmeets, _⟩ := h.json hformat
    obtain ⟨cs, hderives, hstrip⟩ := strip_text htext
    refine ⟨v, cs, hderives, hmeets.root t ?_, hstrip ▸ hlong⟩
    rw [effectiveRootType, ht]
    rfl
  constructor
  · intro ht
    obtain ⟨v, cs, hderives, htype, hlength⟩ := hscalar ht
    cases v with
    | null =>
      cases hderives
      exact hlength
    | bool | number | constant | string | array | object => cases htype
  · intro ht
    obtain ⟨v, cs, hderives, htype, hlength⟩ := hscalar ht
    cases v with
    | bool b =>
      cases hderives with
      | true => exact hlength.trans (by decide)
      | false => exact hlength
    | null | number | constant | string | array | object => cases htype

/-- **Which contracts can be met.** Every label passes its own contract, and some complete response
passes a contract exactly when the length it wants fits a root `null` or boolean. -/
theorem satisfiable_iff (hlimit : maxJsonDepth ≤ recursionLimit) (contract : ValidationContract) :
    Satisfiable recursionLimit contract ∧ LabelsPass recursionLimit contract ↔
      LengthFits contract := by
  constructor
  · rintro ⟨⟨response, _, hpassed⟩, _⟩
    have hcheck := validate_passed_iff_check.mp (hpassed 0)
    exact lengthFits_of_admits ((check_eq_nil_iff hlimit).mp hcheck)
  · intro hfits
    refine ⟨?_, labelsPass hlimit⟩
    cases hformat : contract.format with
    | text => exact satisfiable_text hlimit hformat
    | json => exact satisfiable_json hlimit hformat hfits
    | label =>
      obtain ⟨label, hlabel⟩ := List.exists_mem_of_ne_nil _ (contract.labels_given hformat)
      have htext : (completeResponse label.value.toList).text = label.value := String.ofList_toList
      refine ⟨completeResponse label.value.toList, rfl, ?_⟩
      refine labelsPass hlimit hformat label hlabel [] [] (List.forall_mem_nil _)
        (List.forall_mem_nil _) _ ?_ rfl ?_
      · rw [htext, List.nil_append, List.append_nil]
      · rw [htext]
        exact label.max_length.trans (by decide)

/-- A contract of a boolean. -/
def booleanContract (minCharacters : ℕ) (h : 1 ≤ minCharacters ∧ minCharacters ≤ maxInputCharacters) :
    ValidationContract :=
  { ValidationContract.jsonValue with
    minCharacters := some minCharacters
    rootType := some .boolean
    minCharacters_range := by rintro n ⟨⟩; exact h
    json_only := fun h => absurd rfl h
    object_root := by simp [ValidationContract.jsonValue]
    labels_long_enough := nofun }

/-- A boolean of at least five characters can be met. -/
theorem satisfiable_iff_sample :
    Satisfiable 1000 (booleanContract 5 (by decide)) ∧
      LabelsPass 1000 (booleanContract 5 (by decide)) := by
  refine (satisfiable_iff (by decide) _).mpr ?_
  intro n hn
  obtain rfl : 5 = n := Option.some.inj hn
  exact ⟨(fun h => nomatch h), fun _ => le_rfl⟩

/-- No JSON boolean has six characters, and the constructor accepts the contract. -/
theorem long_boolean_unsatisfiable : ¬ Satisfiable 1000 (booleanContract 6 (by decide)) := by
  rintro ⟨response, _, hpassed⟩
  have hcheck := validate_passed_iff_check.mp (hpassed 0)
  have hfits := lengthFits_of_admits ((check_eq_nil_iff (by decide)).mp hcheck)
  exact absurd ((hfits 6 rfl).2 rfl) (by decide)

end contract

end DeterministicResponseValidator

end RouteLLM
