import RouteLLM.Validation.Validator

/-!
# The contract language

The documented meaning of a validation contract (`Admits`), stated on the grammar of JSON and on the
value of a number, and the theorem that the validator decides it (`validate_passed_iff`) on texts
whose numbers lie in the exponent range of `Decimal`. A number beyond the range is rejected as
invalid JSON, so that the validator decides a smaller language than the documented one
(`huge_exponent_rejected`).
-/

namespace RouteLLM

open JsonGrammar

namespace DeterministicResponseValidator

/-! ## The meaning of a contract -/

/-- The mathematical value of a number. -/
def numberValue (n : JsonNumber) : ℚ := coefficient n * 10 ^ lastExponent n

/-- A tree has a type of the contract language. Booleans are no numbers, and a number is an integer if
its value is one. -/
def HasType : JsonTree → JsonType → Prop
  | .object _, .object => True
  | .array _, .array => True
  | .string _, .string => True
  | .number _, .number => True
  | .number n, .integer => ∃ k : ℤ, numberValue n = k
  | .bool _, .boolean => True
  | .null, .null => True
  | _, _ => False

/-- The members of an object; other values have none. -/
def membersOf : JsonTree → List (PyStr × JsonTree)
  | .object members => members
  | _ => []

/-- A tree meets the JSON constraints of a contract. -/
structure MeetsJson (contract : ValidationContract) (v : JsonTree) : Prop where
  standard : v.Standard
  nesting : v.nesting ≤ maxJsonDepth
  keys : v.KeysNodup
  root : ∀ rootType, effectiveRootType contract = some rootType → HasType v rootType
  required : ∀ key ∈ contract.requiredFields,
    PyStr.ofString key.value ∈ (membersOf v).map (·.1)
  typed : ∀ field ∈ contract.fieldTypes, ∀ value,
    (PyStr.ofString field.1.value, value) ∈ membersOf v → HasType value field.2

/-- A response meets a contract, where the numbers of a JSON text satisfy `numbers`. -/
structure Admits (numbers : JsonNumber → Prop) (contract : ValidationContract)
    (response : InferenceResponse) : Prop where
  complete : response.terminationReason ≠ .length
  size : response.text.length ≤ maxInputCharacters
  nonempty : PyStr.strip response.text.toList ≠ []
  long_enough : ∀ n, contract.minCharacters = some n →
    n ≤ (PyStr.strip response.text.toList).length
  label : contract.format = .label →
    ∃ label ∈ contract.allowedLabels, label.value.toList = PyStr.strip response.text.toList
  json : contract.format = .json → ∃ v, Text response.text.toList v ∧ MeetsJson contract v ∧
    v.AllNumbers numbers

/-- A number that `Decimal` can hold. -/
def InDecimalRange (n : JsonNumber) : Prop :=
  Decimal.minExponent ≤ lastExponent n ∧
    lastExponent n + Decimal.digits (coefficient n).natAbs - 1 ≤ Decimal.maxAdjusted

/-! ## The depth scan -/

section scan
variable {depth : ℤ} {cs rest : List Char}

/-- The characters that the scan reacts to outside strings. -/
def structural (c : Char) : Bool :=
  c = '"' || c = '[' || c = '\x7b' || c = ']' || c = '\x7d'

/-- The scan passes over a text without structural characters. -/
theorem tooDeepFrom_plain (h : ∀ c ∈ cs, structural c = false) :
    tooDeepFrom depth false false (cs ++ rest) = tooDeepFrom depth false false rest := by
  induction cs with
  | nil => rfl
  | cons c cs ih =>
    have hc := h c (.head _)
    simp only [structural, Bool.or_eq_false_iff, decide_eq_false_iff_not] at hc
    obtain ⟨⟨⟨⟨h1, h2⟩, h3⟩, h4⟩, h5⟩ := hc
    rw [List.cons_append, tooDeepFrom, if_neg h1, if_neg (not_or.mpr ⟨h2, h3⟩),
      if_neg (not_or.mpr ⟨h4, h5⟩), ih fun d hd => h d (.tail _ hd)]

/-- The scan passes over one such character. -/
theorem tooDeepFrom_cons {c : Char} (h : structural c = false) :
    tooDeepFrom depth false false (c :: rest) = tooDeepFrom depth false false rest := by
  have hall : ∀ d ∈ [c], structural d = false := List.forall_mem_singleton.mpr h
  exact tooDeepFrom_plain hall

/-- Digits of a `\u` escape neither close the string nor escape. -/
theorem hexDigit_plain {c : Char} {n : ℕ} (h : hexDigit? c = some n) : c ≠ '\\' ∧ c ≠ '"' := by
  constructor <;> rintro rfl <;> simp [hexDigit?] at h

/-- The scan leaves a string at its closing quote. -/
theorem tooDeepFrom_chars {units : List ℕ} (h : CharsText cs units) :
    tooDeepFrom depth true false (cs ++ '"' :: rest) = tooDeepFrom depth false false rest := by
  induction h with
  | nil => simp [tooDeepFrom]
  | plain hc h ih =>
    simp only [isPlain, Bool.and_eq_true, decide_eq_true_eq] at hc
    simp [tooDeepFrom, hc.1.1, hc.1.2, ih]
  | escape hc h ih => simp [tooDeepFrom, ih]
  | @unicode a b c d u cs units hu h ih =>
    simp only [hex4?, Option.bind_eq_bind, Option.bind_eq_some_iff] at hu
    obtain ⟨_, ha, _, hb, _, hc, _, hd, -⟩ := hu
    simp [tooDeepFrom, hexDigit_plain ha, hexDigit_plain hb, hexDigit_plain hc, hexDigit_plain hd,
      ih]

/-- Whitespace of the grammar is no structural character. -/
theorem structural_ws {w : List Char} (hw : Ws w) : ∀ c ∈ w, structural c = false := by
  intro c hc
  have := hw c hc
  simp only [isWs, Bool.or_eq_true, decide_eq_true_eq] at this
  rcases this with ((rfl | rfl) | rfl) | rfl <;> rfl

/-- The scan passes over the key of a member. -/
theorem tooDeepFrom_key {ks w₁ w₂ : List Char} {units : List ℕ} (hk : CharsText ks units)
    (hw₁ : Ws w₁) (hw₂ : Ws w₂) :
    tooDeepFrom depth false false ('"' :: (ks ++ '"' :: (w₁ ++ ':' :: (w₂ ++ rest)))) =
      tooDeepFrom depth false false rest := by
  rw [tooDeepFrom, if_pos rfl, tooDeepFrom_chars hk, tooDeepFrom_plain (structural_ws hw₁),
    tooDeepFrom_cons (by decide), tooDeepFrom_plain (structural_ws hw₂)]

theorem structural_digits {ds : List Char} (h : Digits ds) : ∀ c ∈ ds, structural c = false := by
  intro c hc
  have hdigit := h c hc
  by_contra hs
  simp only [structural, Bool.not_eq_false, Bool.or_eq_true, decide_eq_true_eq] at hs
  rcases hs with (((rfl | rfl) | rfl) | rfl) | rfl <;> cases hdigit

/-- A number has no structural character. -/
theorem structural_number {n : JsonNumber} (h : NumberText cs n) :
    ∀ c ∈ cs, structural c = false := by
  obtain ⟨hs, hi, hf, he⟩ := h
  simp only [List.mem_append]
  rintro c (hc | hc | hc | hc)
  · cases hs with
    | absent => cases hc
    | minus => cases List.mem_singleton.mp hc; rfl
  · cases hi with
    | zero => cases List.mem_singleton.mp hc; rfl
    | @pos d ds hd hne hds =>
      have hall : Digits (d :: ds) := List.forall_mem_cons.mpr ⟨hd, hds⟩
      exact structural_digits hall c hc
  · cases hf with
    | absent => cases hc
    | digits hne hds =>
      rcases List.mem_cons.mp hc with rfl | hc
      · rfl
      · exact structural_digits hds c hc
  · cases he with
    | absent => cases hc
    | unsigned he hne hds =>
      rcases List.mem_cons.mp hc with rfl | hc
      · rcases he with rfl | rfl <;> rfl
      · exact structural_digits hds c hc
    | plus he hne hds | minus he hne hds =>
      rcases List.mem_cons.mp hc with rfl | hc
      · rcases he with rfl | rfl <;> rfl
      · rcases List.mem_cons.mp hc with rfl | hc
        · rfl
        · exact structural_digits hds c hc

/-- How deep an item nests. -/
def itemNesting : Item → ℕ
  | .value v => v.nesting
  | .items vs => JsonTree.nestingItems vs
  | .members kvs => JsonTree.nestingMembers kvs

/-- The deeper of two items decides. -/
theorem too_deep_max (a b : ℕ) : decide ((maxJsonDepth : ℤ) < depth + (max a b : ℕ)) =
    (decide ((maxJsonDepth : ℤ) < depth + a) || decide ((maxJsonDepth : ℤ) < depth + b)) := by
  rw [← Bool.decide_or]
  congr 1
  rw [eq_iff_iff]
  omega

/-- The scan of a container: it opens one level for its body. -/
theorem tooDeepFrom_container {o c : Char} (ho : o = '[' ∨ o = '\x7b') (hc : c = ']' ∨ c = '\x7d')
    {n : ℕ} (hbody : ∀ {depth : ℤ}, depth ≤ maxJsonDepth →
      tooDeepFrom depth false false (cs ++ c :: rest) =
        (decide ((maxJsonDepth : ℤ) < depth + n) || tooDeepFrom depth false false (c :: rest)))
    (hdepth : depth ≤ maxJsonDepth) :
    tooDeepFrom depth false false (o :: (cs ++ c :: rest)) =
      (decide ((maxJsonDepth : ℤ) < depth + (n + 1 : ℕ)) ||
        tooDeepFrom depth false false rest) := by
  have hquote : o ≠ '"' := by rcases ho with rfl | rfl <;> decide
  have hclose : tooDeepFrom (depth + 1) false false (c :: rest) =
      tooDeepFrom depth false false rest := by
    rcases hc with rfl | rfl <;> simp [tooDeepFrom]
  rw [tooDeepFrom, if_neg hquote, if_pos ho]
  by_cases hover : depth + 1 > maxJsonDepth
  · rw [if_pos hover, decide_eq_true (by push_cast; omega), Bool.true_or]
  · rw [if_neg hover, hbody (by omega), hclose]
    congr 2
    rw [eq_iff_iff]
    push_cast
    omega

/-- Whitespace between brackets. -/
theorem tooDeepFrom_empty {w : List Char} (hw : Ws w) (hdepth : depth ≤ maxJsonDepth) :
    tooDeepFrom depth false false (w ++ rest) =
      (decide ((maxJsonDepth : ℤ) < depth + (0 : ℕ)) || tooDeepFrom depth false false rest) := by
  rw [tooDeepFrom_plain (structural_ws hw), decide_eq_false (by push_cast; omega), Bool.false_or]

/-- **The scan measures the nesting of what a text derives.** By induction on the derivation. -/
theorem tooDeepFrom_derives {item : Item} (h : Derives cs item) (hdepth : depth ≤ maxJsonDepth) :
    tooDeepFrom depth false false (cs ++ rest) =
      (decide ((maxJsonDepth : ℤ) < depth + itemNesting item) ||
        tooDeepFrom depth false false rest) := by
  induction h generalizing depth rest with
  | null | true | false =>
    rw [tooDeepFrom_plain (by simp [structural])]
    simp [itemNesting, JsonTree.nesting, hdepth]
  | constant c =>
    rw [tooDeepFrom_plain (by cases c <;> simp [constantText, structural])]
    simp [itemNesting, JsonTree.nesting, hdepth]
  | number h =>
    rw [tooDeepFrom_plain (structural_number h)]
    simp [itemNesting, JsonTree.nesting, hdepth]
  | string h =>
    simp [tooDeepFrom, tooDeepFrom_chars h, itemNesting, JsonTree.nesting, hdepth]
  | emptyArray hw =>
    simpa [itemNesting, JsonTree.nesting, JsonTree.nestingItems] using
      tooDeepFrom_container (.inl rfl) (.inl rfl) (tooDeepFrom_empty hw) hdepth
  | array h ih =>
    simpa [itemNesting, JsonTree.nesting] using
      tooDeepFrom_container (.inl rfl) (.inl rfl) (fun h => ih h) hdepth
  | emptyObject hw =>
    simpa [itemNesting, JsonTree.nesting, JsonTree.nestingMembers] using
      tooDeepFrom_container (.inr rfl) (.inr rfl) (tooDeepFrom_empty hw) hdepth
  | object h ih =>
    simpa [itemNesting, JsonTree.nesting] using
      tooDeepFrom_container (.inr rfl) (.inr rfl) (fun h => ih h) hdepth
  | lastItem hw hv hw' ih =>
    simp only [List.append_assoc]
    rw [tooDeepFrom_plain (structural_ws hw), ih hdepth, tooDeepFrom_plain (structural_ws hw'),
      itemNesting, itemNesting, JsonTree.nestingItems, JsonTree.nestingItems, Nat.max_zero]
  | nextItem hw hv hw' hrest ih ihrest =>
    simp only [List.append_assoc, List.cons_append]
    rw [tooDeepFrom_plain (structural_ws hw), ih hdepth, tooDeepFrom_plain (structural_ws hw'),
      tooDeepFrom_cons (by decide), ihrest hdepth, itemNesting, itemNesting, itemNesting,
      JsonTree.nestingItems, too_deep_max, Bool.or_assoc]
  | lastMember hw hk hw₁ hw₂ hv hw₃ ih =>
    simp only [List.append_assoc, List.cons_append]
    rw [tooDeepFrom_plain (structural_ws hw), tooDeepFrom_key hk hw₁ hw₂, ih hdepth,
      tooDeepFrom_plain (structural_ws hw₃), itemNesting, itemNesting, JsonTree.nestingMembers,
      JsonTree.nestingMembers, Nat.max_zero]
  | nextMember hw hk hw₁ hw₂ hv hw₃ hrest ih ihrest =>
    simp only [List.append_assoc, List.cons_append]
    rw [tooDeepFrom_plain (structural_ws hw), tooDeepFrom_key hk hw₁ hw₂, ih hdepth,
      tooDeepFrom_plain (structural_ws hw₃), tooDeepFrom_cons (by decide), ihrest hdepth,
      itemNesting, itemNesting, itemNesting, JsonTree.nestingMembers, too_deep_max, Bool.or_assoc]

/-- A text without structural characters is not too deep, in whichever state the scan reaches it. -/
theorem tooDeepFrom_eq_false (h : ∀ c ∈ cs, structural c = false) (inString escaped : Bool) :
    tooDeepFrom depth inString escaped cs = false := by
  induction cs generalizing inString escaped with
  | nil => simp [tooDeepFrom]
  | cons c cs ih =>
    have hc := h c (.head _)
    simp only [structural, Bool.or_eq_false_iff, decide_eq_false_iff_not] at hc
    have ih := ih fun d hd => h d (.tail _ hd)
    cases inString <;> cases escaped <;> simp [tooDeepFrom, hc, ih]

/-- Such a text does not matter at the end. -/
theorem tooDeepFrom_append_plain (h : ∀ c ∈ rest, structural c = false) (inString escaped : Bool) :
    tooDeepFrom depth inString escaped (cs ++ rest) = tooDeepFrom depth inString escaped cs := by
  fun_induction tooDeepFrom depth inString escaped cs with
  | case1 => exact tooDeepFrom_eq_false h _ _
  | _ => simp_all [tooDeepFrom]

/-- Stripping removes nothing that the scan reacts to. -/
theorem tooDeep_strip : tooDeep (PyStr.strip cs) = tooDeep cs := by
  have hspace {l : List Char} (h : ∀ c ∈ l, PyStr.isSpaceChar c = true) :
      ∀ c ∈ l, structural c = false := by
    intro c hc
    have := h c hc
    by_contra hs
    simp only [structural, Bool.not_eq_false, Bool.or_eq_true, decide_eq_true_eq] at hs
    rcases hs with (((rfl | rfl) | rfl) | rfl) | rfl <;> cases this
  obtain ⟨l, r, hl, hr, hcs⟩ := PyStr.stripBy_split PyStr.isSpaceChar cs
  conv_rhs => rw [hcs]
  rw [tooDeep, tooDeep, tooDeepFrom_plain (hspace hl), tooDeepFrom_append_plain (hspace hr) _ _]
  rfl

/-- **The depth scan of a JSON text decides its nesting.** -/
theorem tooDeep_text {v : JsonTree} (h : Text cs v) :
    tooDeep (PyStr.strip cs) = decide (maxJsonDepth < v.nesting) := by
  obtain ⟨w, cs', w', hw, hv, hw', rfl⟩ := h
  rw [tooDeep_strip, tooDeep, tooDeepFrom_plain (structural_ws hw),
    tooDeepFrom_append_plain (structural_ws hw') _ _]
  have : tooDeepFrom 0 false false (cs' ++ []) = _ := tooDeepFrom_derives hv (by decide)
  simpa [itemNesting, tooDeepFrom] using this

end scan

/-! ## The built value -/

/-- A number is converted exactly, where it is in range. -/
theorem parseNumber_eq_ok {n : JsonNumber} {d : Decimal} :
    parseNumber n = .ok d ↔ InDecimalRange n ∧ d = ⟨coefficient n, lastExponent n⟩ := by
  rw [parseNumber, Decimal.ofLiteral?, InDecimalRange]
  split
  · rename_i h
    split at h <;> simp_all [eq_comm]
  · rename_i h
    split at h <;> simp_all

theorem pairs_eq_ok {items : List (PyStr × DecodedValue)} {d : DecodedValue} :
    pairs items = .ok d ↔ (items.map (·.1)).Nodup ∧ d = .dict items := by
  rw [pairs]
  split <;> simp_all [eq_comm]

/-- The entries are built from members with the same keys. -/
def BuildsMembers (kvs : List (PyStr × JsonTree)) (entries : List (PyStr × DecodedValue)) : Prop :=
  List.Forall₂ (fun kv entry => kv.1 = entry.1 ∧ build kv.2 = .ok entry.2) kvs entries

theorem buildMembers_eq_ok {kvs : List (PyStr × JsonTree)} {entries} :
    buildMembers kvs = .ok entries ↔ BuildsMembers kvs entries := by
  induction kvs generalizing entries with
  | nil => cases entries <;> simp [buildMembers, BuildsMembers]
  | cons kv kvs ih =>
    rw [BuildsMembers, List.forall₂_cons_left_iff, buildMembers, Except.bind_eq_ok]
    simp only [Except.bind_eq_ok, Except.pure_eq_ok, ih]
    constructor
    · rintro ⟨value, hv, entries, hes, rfl⟩
      exact ⟨(kv.1, value), entries, ⟨rfl, hv⟩, hes, rfl⟩
    · rintro ⟨⟨key, value⟩, entries, ⟨rfl, hv⟩, hes, rfl⟩
      exact ⟨value, hv, entries, hes, rfl⟩

theorem BuildsMembers.keys {kvs : List (PyStr × JsonTree)} {entries}
    (h : BuildsMembers kvs entries) : entries.map (·.1) = kvs.map (·.1) := by
  induction h with
  | nil => rfl
  | cons h hs ih => rw [List.map_cons, List.map_cons, ih, h.1]

/-- What the hooks accept. -/
def Buildable (v : JsonTree) : Prop := v.Standard ∧ v.KeysNodup ∧ v.AllNumbers InDecimalRange

mutual

/-- **The hooks accept the standard trees without repeated keys whose numbers are in range.** -/
theorem exists_build_eq_ok : (v : JsonTree) → ((∃ d, build v = .ok d) ↔ Buildable v)
  | .null | .bool _ | .string _ => by
    simp [build, Buildable, JsonTree.Standard, JsonTree.KeysNodup, JsonTree.AllNumbers]
  | .constant _ => by simp [build, Buildable, JsonTree.Standard]
  | .number n => by
    simp [build, Buildable, JsonTree.Standard, JsonTree.KeysNodup, JsonTree.AllNumbers,
      Except.map_eq_ok, parseNumber_eq_ok]
  | .array items => by
    have ih := exists_buildItems_eq_ok items
    simp only [build, Buildable, JsonTree.Standard, JsonTree.KeysNodup, JsonTree.AllNumbers,
      Except.map_eq_ok]
    rw [← ih]
    exact ⟨fun ⟨_, values, h, _⟩ => ⟨values, h⟩, fun ⟨values, h⟩ => ⟨_, values, h, rfl⟩⟩
  | .object members => by
    have ih := exists_buildMembers_eq_ok members
    simp only [build, Buildable, JsonTree.Standard, JsonTree.KeysNodup, JsonTree.AllNumbers,
      Except.bind_eq_ok, pairs_eq_ok]
    constructor
    · rintro ⟨_, entries, h, hnodup, -⟩
      obtain ⟨hs, hk, hn⟩ := ih.mp ⟨entries, h⟩
      exact ⟨hs, ⟨(buildMembers_eq_ok.mp h).keys ▸ hnodup, hk⟩, hn⟩
    · rintro ⟨hs, ⟨hnodup, hk⟩, hn⟩
      obtain ⟨entries, h⟩ := ih.mpr ⟨hs, hk, hn⟩
      exact ⟨_, entries, h, (buildMembers_eq_ok.mp h).keys.symm ▸ hnodup, rfl⟩

theorem exists_buildItems_eq_ok : (vs : List JsonTree) → ((∃ ds, buildItems vs = .ok ds) ↔
    JsonTree.StandardItems vs ∧ JsonTree.KeysNodupItems vs ∧
      JsonTree.AllNumbersItems InDecimalRange vs)
  | [] => by
    simp [buildItems, JsonTree.StandardItems, JsonTree.KeysNodupItems, JsonTree.AllNumbersItems]
  | v :: vs => by
    have hv := exists_build_eq_ok v
    have hvs := exists_buildItems_eq_ok vs
    simp only [buildItems, JsonTree.StandardItems, JsonTree.KeysNodupItems,
      JsonTree.AllNumbersItems, Except.bind_eq_ok, Except.pure_eq_ok]
    constructor
    · rintro ⟨_, value, h, values, hs, -⟩
      obtain ⟨h1, h2, h3⟩ := hv.mp ⟨value, h⟩
      obtain ⟨h1', h2', h3'⟩ := hvs.mp ⟨values, hs⟩
      exact ⟨⟨h1, h1'⟩, ⟨h2, h2'⟩, h3, h3'⟩
    · rintro ⟨⟨h1, h1'⟩, ⟨h2, h2'⟩, h3, h3'⟩
      obtain ⟨value, h⟩ := hv.mpr ⟨h1, h2, h3⟩
      obtain ⟨values, hs⟩ := hvs.mpr ⟨h1', h2', h3'⟩
      exact ⟨_, value, h, values, hs, rfl⟩

theorem exists_buildMembers_eq_ok : (kvs : List (PyStr × JsonTree)) →
    ((∃ entries, buildMembers kvs = .ok entries) ↔
      JsonTree.StandardMembers kvs ∧ JsonTree.KeysNodupMembers kvs ∧
        JsonTree.AllNumbersMembers InDecimalRange kvs)
  | [] => by
    simp [buildMembers, JsonTree.StandardMembers, JsonTree.KeysNodupMembers,
      JsonTree.AllNumbersMembers]
  | (key, v) :: kvs => by
    have hv := exists_build_eq_ok v
    have hkvs := exists_buildMembers_eq_ok kvs
    simp only [buildMembers, JsonTree.StandardMembers, JsonTree.KeysNodupMembers,
      JsonTree.AllNumbersMembers, Except.bind_eq_ok, Except.pure_eq_ok]
    constructor
    · rintro ⟨_, value, h, entries, hs, -⟩
      obtain ⟨h1, h2, h3⟩ := hv.mp ⟨value, h⟩
      obtain ⟨h1', h2', h3'⟩ := hkvs.mp ⟨entries, hs⟩
      exact ⟨⟨h1, h1'⟩, ⟨h2, h2'⟩, h3, h3'⟩
    · rintro ⟨⟨h1, h1'⟩, ⟨h2, h2'⟩, h3, h3'⟩
      obtain ⟨value, h⟩ := hv.mpr ⟨h1, h2, h3⟩
      obtain ⟨entries, hs⟩ := hkvs.mpr ⟨h1', h2', h3'⟩
      exact ⟨_, value, h, entries, hs, rfl⟩

end

/-- The checks of types agree with the types of the tree. -/
theorem matchesType_iff {v : JsonTree} {d : DecodedValue} {t : JsonType} (h : build v = .ok d) :
    matchesType d t = true ↔ HasType v t := by
  cases v with
  | null | bool | string => cases h; cases t <;> simp [matchesType, HasType]
  | constant => cases h
  | number n =>
    obtain ⟨x, hx, rfl⟩ := Except.map_eq_ok.mp h
    obtain ⟨-, rfl⟩ := parseNumber_eq_ok.mp hx
    cases t with
    | integer => exact decide_eq_true_iff.trans Decimal.toRat_toIntegralValue_eq_iff
    | _ => simp [matchesType, HasType]
  | array items =>
    obtain ⟨values, -, rfl⟩ := Except.map_eq_ok.mp h
    cases t <;> simp [matchesType, HasType]
  | object members =>
    obtain ⟨entries, -, h⟩ := Except.bind_eq_ok.mp h
    obtain ⟨-, rfl⟩ := pairs_eq_ok.mp h
    cases t <;> simp [matchesType, HasType]

/-! ## The fields -/

section fields
variable {contract : ValidationContract} {members : List (PyStr × JsonTree)}
  {entries : List (PyStr × DecodedValue)}

/-- The type check of one key: with distinct keys, the entry that is found is the only member with
that key. By induction on the entries. -/
theorem lookup_matches_iff (h : BuildsMembers members entries)
    (hnodup : (members.map (·.1)).Nodup) {key : PyStr} {t : JsonType} :
    (∀ d, entries.lookup key = some d → matchesType d t = true) ↔
      ∀ v, (key, v) ∈ members → HasType v t := by
  induction h with
  | nil => simp
  | @cons kv entry kvs es hkv hs ih =>
    obtain ⟨key', d⟩ := entry
    obtain ⟨rfl, hbuild⟩ : kv.1 = key' ∧ build kv.2 = .ok d := hkv
    rw [List.map_cons, List.nodup_cons] at hnodup
    by_cases heq : key = kv.1
    · -- The head is found, and no later member has its key.
      subst heq
      have hlater (v : JsonTree) : (kv.1, v) ∉ kvs := fun hv =>
        hnodup.1 (List.mem_map.mpr ⟨_, hv, rfl⟩)
      simp only [List.lookup_cons_self, Option.some.injEq, forall_eq', List.mem_cons, hlater, or_false,
        matchesType_iff hbuild]
      exact ⟨fun h v hv => by rw [← hv] at h; exact h, fun h => h kv.2 rfl⟩
    · have hskip : ((kv.1, d) :: es).lookup key = es.lookup key := by
        rw [List.lookup_cons, beq_false_of_ne heq]
      have hmem (v : JsonTree) : (key, v) ∈ kv :: kvs ↔ (key, v) ∈ kvs := by
        refine ⟨fun h => (List.mem_cons.mp h).resolve_left ?_, .tail _⟩
        rintro rfl
        exact heq rfl
      simp only [hskip, hmem, ih hnodup.2]

/-- The field checks of an object find nothing exactly when its members meet the contract. -/
theorem fieldCodes_dict_iff (h : BuildsMembers members entries)
    (hnodup : (members.map (·.1)).Nodup) :
    fieldCodes contract (.dict entries) = [] ↔
      (∀ key ∈ contract.requiredFields, PyStr.ofString key.value ∈ members.map (·.1)) ∧
      ∀ field ∈ contract.fieldTypes, ∀ value,
        (PyStr.ofString field.1.value, value) ∈ members → HasType value field.2 := by
  rw [fieldCodes, List.append_eq_nil_iff, List.filterMap_eq_nil_iff, List.filterMap_eq_nil_iff,
    h.keys]
  refine and_congr (forall₂_congr fun key _ => by simp) (forall₂_congr fun field _ => ?_)
  rw [← lookup_matches_iff h hnodup]
  cases hl : entries.lookup (PyStr.ofString field.1.value) <;> simp [hl]

/-- Field constraints ask for an object. -/
theorem effectiveRootType_of_fields (h : contract.requiredFields ≠ [] ∨ contract.fieldTypes ≠ []) :
    effectiveRootType contract = some .object := by
  rcases contract.object_root h with hroot | hroot <;> simp [effectiveRootType, hroot, h]

/-- The checks of a decoded text find nothing exactly when its tree meets the contract. -/
theorem valueCodes_iff {v : JsonTree} {d : DecodedValue} (hv : build v = .ok d) :
    valueCodes contract d = [] ↔
      (∀ rootType, effectiveRootType contract = some rootType → HasType v rootType) ∧
      (∀ key ∈ contract.requiredFields, PyStr.ofString key.value ∈ (membersOf v).map (·.1)) ∧
      ∀ field ∈ contract.fieldTypes, ∀ value,
        (PyStr.ofString field.1.value, value) ∈ membersOf v → HasType value field.2 := by
  have hroot : valueCodes contract d = [] ↔
      (∀ rootType, effectiveRootType contract = some rootType → HasType v rootType) ∧
      fieldCodes contract d = [] := by
    rw [valueCodes]
    cases effectiveRootType contract with
    | none => simp
    | some rootType =>
      by_cases hmatch : matchesType d rootType = true
      · simp [hmatch, (matchesType_iff hv).mp hmatch]
      · simp [hmatch, mt (matchesType_iff hv).mpr hmatch]
  rw [hroot]
  refine and_congr_right fun hroot => ?_
  by_cases hobj : ∃ members, v = .object members
  · obtain ⟨members, rfl⟩ := hobj
    obtain ⟨entries, hentries, h⟩ := Except.bind_eq_ok.mp hv
    obtain ⟨hnodup, rfl⟩ := pairs_eq_ok.mp h
    have hbuilds := buildMembers_eq_ok.mp hentries
    exact fieldCodes_dict_iff hbuilds (hbuilds.keys ▸ hnodup)
  · -- Without an object there are no field constraints.
    have hnone : contract.requiredFields = [] ∧ contract.fieldTypes = [] := by
      by_contra hfields
      have := hroot _ (effectiveRootType_of_fields (not_and_or.mp hfields))
      cases v <;> simp_all [HasType]
    simp [hnone.1, hnone.2, show fieldCodes contract d = [] by
      cases d <;> simp [fieldCodes, hnone.1, hnone.2]]

end fields

/-! ## The decision -/

section decision
variable {recursionLimit : ℕ} {contract : ValidationContract}

/-- A text is decoded exactly when it is a text of a tree that the hooks accept. -/
theorem loads_eq_ok {cs : List Char} {d : DecodedValue} :
    loads recursionLimit cs = .ok d ↔
      ∃ v, Text cs v ∧ v.nesting ≤ recursionLimit ∧ build v = .ok d := by
  simp only [← and_assoc, ← JsonParser.decode_eq_ok_iff]
  unfold loads
  split <;> simp_all

/-- The checks of a text in JSON format pass exactly on the texts of trees that meet the
contract. -/
theorem checkJson_eq_nil_iff {text : List Char} {codes : List ValidationFailureCode}
    (hlimit : maxJsonDepth ≤ recursionLimit) :
    checkJson recursionLimit contract text codes = .ok [] ↔
      codes = [] ∧ ∃ v, Text text v ∧ MeetsJson contract v ∧ v.AllNumbers InDecimalRange := by
  constructor
  · intro h
    rw [checkJson] at h
    split at h
    · simp at h
    rename_i hdeep
    split at h
    · split at h <;> simp at h
    rename_i d hd
    obtain ⟨v, htext, -, hbuild⟩ := loads_eq_ok.mp hd
    obtain ⟨hcodes, hvalue⟩ := List.append_eq_nil_iff.mp (Except.ok.inj h)
    obtain ⟨hroot, hrequired, htyped⟩ := (valueCodes_iff hbuild).mp hvalue
    obtain ⟨hstandard, hkeys, hnumbers⟩ := (exists_build_eq_ok v).mp ⟨d, hbuild⟩
    have hnesting : v.nesting ≤ maxJsonDepth := by simpa [tooDeep_text htext] using hdeep
    exact ⟨hcodes, v, htext, ⟨hstandard, hnesting, hkeys, hroot, hrequired, htyped⟩, hnumbers⟩
  · rintro ⟨rfl, v, htext, hmeets, hnumbers⟩
    obtain ⟨d, hbuild⟩ := (exists_build_eq_ok v).mpr ⟨hmeets.standard, hmeets.keys, hnumbers⟩
    have hloads : loads recursionLimit text = .ok d :=
      loads_eq_ok.mpr ⟨v, htext, hmeets.nesting.trans hlimit, hbuild⟩
    have hvalue : valueCodes contract d = [] :=
      (valueCodes_iff hbuild).mpr ⟨hmeets.root, hmeets.required, hmeets.typed⟩
    rw [checkJson, tooDeep_text htext, if_neg (by simpa using hmeets.nesting), hloads]
    simp [hvalue]

/-- The checks pass exactly on the responses that the contract admits. -/
theorem check_eq_nil_iff {response : InferenceResponse} (hlimit : maxJsonDepth ≤ recursionLimit) :
    check recursionLimit response contract = .ok [] ↔ Admits InDecimalRange contract response := by
  have hsplit : check recursionLimit response contract = .ok [] ↔
      response.terminationReason ≠ .length ∧ response.text.length ≤ maxInputCharacters ∧
      PyStr.strip response.text.toList ≠ [] ∧
      (∀ n, contract.minCharacters = some n → n ≤ (PyStr.strip response.text.toList).length) ∧
      (contract.format = .label → ∃ label ∈ contract.allowedLabels,
        label.value.toList = PyStr.strip response.text.toList) ∧
      (contract.format = .json → ∃ v, Text response.text.toList v ∧ MeetsJson contract v ∧
        v.AllNumbers InDecimalRange) := by
    simp only [check]
    by_cases hsize : maxInputCharacters < response.text.length
    · simp [hsize]
    by_cases hnonempty : PyStr.strip response.text.toList = []
    · simp [hsize, hnonempty]
    by_cases hjson : contract.format = .json
    · simp [hsize, hnonempty, hjson, checkJson_eq_nil_iff hlimit, not_lt.mp hsize, and_assoc]
    · simp [hsize, hnonempty, hjson, not_lt.mp hsize]
  rw [hsplit]
  constructor
  · rintro ⟨hcomplete, hsize, hnonempty, hlong, hlabel, hjson⟩
    exact ⟨hcomplete, hsize, hnonempty, hlong, hlabel, hjson⟩
  · rintro ⟨hcomplete, hsize, hnonempty, hlong, hlabel, hjson⟩
    exact ⟨hcomplete, hsize, hnonempty, hlong, hlabel, hjson⟩

mutual

/-- The hooks raise only what `_check` catches. -/
theorem build_eq_error {cls : ExcClass} : (v : JsonTree) → build v = .error cls →
    cls = .valueError ∨ cls = .arithmeticError
  | .null, h | .bool _, h | .string _, h => by cases h
  | .constant _, h => by cases h; exact .inl rfl
  | .number n, h => by
    have h := Except.map_eq_error.mp h
    rw [parseNumber] at h
    split at h
    · cases h
    · cases h; exact .inr rfl
  | .array items, h => buildItems_eq_error items (Except.map_eq_error.mp h)
  | .object members, h => by
    rcases Except.bind_eq_error.mp h with h | ⟨entries, -, h⟩
    · exact buildMembers_eq_error members h
    · rw [pairs] at h
      split at h
      · cases h
      · cases h; exact .inl rfl

theorem buildItems_eq_error {cls : ExcClass} : (vs : List JsonTree) →
    buildItems vs = .error cls → cls = .valueError ∨ cls = .arithmeticError
  | [], h => by cases h
  | v :: vs, h => by
    rcases Except.bind_eq_error.mp h with h | ⟨value, -, h⟩
    · exact build_eq_error v h
    · rcases Except.bind_eq_error.mp h with h | ⟨values, -, h⟩
      · exact buildItems_eq_error vs h
      · cases h

theorem buildMembers_eq_error {cls : ExcClass} : (kvs : List (PyStr × JsonTree)) →
    buildMembers kvs = .error cls → cls = .valueError ∨ cls = .arithmeticError
  | [], h => by cases h
  | (_, v) :: kvs, h => by
    rcases Except.bind_eq_error.mp h with h | ⟨value, -, h⟩
    · exact build_eq_error v h
    · rcases Except.bind_eq_error.mp h with h | ⟨values, -, h⟩
      · exact buildMembers_eq_error kvs h
      · cases h

end

/-- Every error of the decoder is one that `_check` catches. -/
theorem loads_eq_error {cs : List Char} {cls : ExcClass}
    (h : loads recursionLimit cs = .error cls) :
    (cls.isSubclass .valueError || cls.isSubclass .arithmeticError ||
      cls.isSubclass .recursionError) = true := by
  rw [loads] at h
  split at h
  · cases h; rfl
  · cases h; rfl
  · rcases build_eq_error _ h with rfl | rfl <;> rfl

/-- **The checks never raise.** -/
theorem check_ok (recursionLimit : ℕ) (response : InferenceResponse)
    (contract : ValidationContract) :
    ∃ codes, check recursionLimit response contract = .ok codes := by
  have hjson (text codes) : ∃ codes', checkJson recursionLimit contract text codes = .ok codes' := by
    unfold checkJson
    split
    · exact ⟨_, rfl⟩
    split
    · rename_i cls hloads
      rw [if_pos (loads_eq_error hloads)]
      exact ⟨_, rfl⟩
    · exact ⟨_, rfl⟩
  unfold check
  dsimp only
  split_ifs <;> first | exact ⟨_, rfl⟩ | exact hjson _ _

/-- A validator error is never reported. -/
theorem validate_status_ne_error (response : InferenceResponse)
    (contract : Option ValidationContract) (durationMs : ℚ≥0) :
    (validate recursionLimit response contract durationMs).status ≠ .error := by
  cases contract with
  | none => simp [validate]
  | some contract =>
    rw [validate]
    split
    · rw [resultOf]
      dsimp only
      split <;> simp
    · rename_i h
      obtain ⟨codes, hcodes⟩ := check_ok recursionLimit response contract
      rw [hcodes] at h
      cases h

/-- A response passes exactly when the checks find nothing. -/
theorem validate_passed_iff_check {response : InferenceResponse} {durationMs : ℚ≥0} :
    (validate recursionLimit response (some contract) durationMs).status = .passed ↔
      check recursionLimit response contract = .ok [] := by
  rw [validate]
  split
  · rename_i codes h
    have hcodes : check recursionLimit response contract = .ok [] ↔ codes = [] := by
      rw [h, Except.ok.injEq]
    rw [hcodes, resultOf]
    dsimp only
    split <;> simp_all
  · rename_i h
    rw [h]
    simp

/-- **The validator decides the contract language**, on numbers that `Decimal` can hold, if the
interpreter can decode what the depth scan lets through. -/
theorem validate_passed_iff {response : InferenceResponse} {durationMs : ℚ≥0}
    (hlimit : maxJsonDepth ≤ recursionLimit) :
    (validate recursionLimit response (some contract) durationMs).status = .passed ↔
      Admits InDecimalRange contract response := by
  rw [← check_eq_nil_iff hlimit]
  exact validate_passed_iff_check

end decision

/-- A response that is an object with a nested array. -/
def sampleResponse : InferenceResponse :=
  { InferenceResponse.sample with text := " \x7b\"a\": [1, -2.5e3]\x7d\n" }

/-- On an object with a nested array both sides hold. -/
theorem validate_passed_iff_sample :
    ((validate 1000 sampleResponse (some .jsonValue) 0).status = .passed ↔
      Admits InDecimalRange .jsonValue sampleResponse) ∧
    Admits InDecimalRange .jsonValue sampleResponse :=
  have h : (validate 1000 sampleResponse (some .jsonValue) 0).status = .passed ↔
      Admits InDecimalRange .jsonValue sampleResponse := validate_passed_iff (by decide)
  ⟨h, h.mp (by decide +kernel)⟩

/-- A response whose number has a huge exponent. -/
def hugeExponent : InferenceResponse :=
  { InferenceResponse.sample with text := "1e1000000000000000000" }

/-- A number beyond the exponent range is JSON, and the validator rejects it. -/
theorem huge_exponent_rejected :
    Admits (fun _ => True) .jsonValue hugeExponent ∧
      (validate 1000 hugeExponent (some .jsonValue) 0).status ≠ .passed := by
  have hdecode : JsonParser.decode 0 hugeExponent.text.toList =
      .ok (.number ⟨false, ['1'], none, some 1000000000000000000⟩) := rfl
  have htext := (JsonParser.decode_eq_ok_iff.mp hdecode).1
  refine ⟨⟨by decide, by decide, by decide, by simp [ValidationContract.jsonValue], nofun,
    fun _ => ⟨_, htext, ?_, trivial⟩⟩, by decide +kernel⟩
  exact ⟨trivial, Nat.zero_le _, trivial, nofun, nofun, nofun⟩

end DeterministicResponseValidator

end RouteLLM
