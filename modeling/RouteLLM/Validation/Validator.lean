import RouteLLM.Errors
import RouteLLM.Lib.Json.Correct
import RouteLLM.Validation.Contracts

/-!
# The deterministic validator

`validation/validator.py`. The decoder's hooks build the value from the syntax tree after the scan;
a text on which a hook fails and a text that has no tree raise errors that the validator treats
alike, so that the order of the two does not show. `recursionLimit` is the number of recursive calls
that the interpreter grants the decoder.
-/

namespace RouteLLM

/-- What `json.loads` returns under the validator's hooks: every number is a decimal. -/
inductive DecodedValue
  | none
  | bool (b : Bool)
  | decimal (d : Decimal)
  | str (s : PyStr)
  | list (items : List DecodedValue)
  | dict (entries : List (PyStr × DecodedValue))

namespace DeterministicResponseValidator

/-! ## Decoding -/

/-- The exponent of the last digit of a number. -/
def lastExponent (n : JsonNumber) : ℤ := n.exponent.getD 0 - (n.fraction.getD []).length

/-- The signed coefficient of a number. -/
def coefficient (n : JsonNumber) : ℤ :=
  let c : ℤ := JsonGrammar.digitsValue (n.integer ++ n.fraction.getD [])
  if n.negative then -c else c

/-- `Decimal` of a number as it is written: beyond the exponent range it signals an invalid
operation. -/
def parseNumber (n : JsonNumber) : Except ExcClass Decimal :=
  match Decimal.ofLiteral? (coefficient n) (lastExponent n) with
  | some d => .ok d
  | none => .error .arithmeticError

/-- `_pairs`: a repeated key raises. -/
def pairs (items : List (PyStr × DecodedValue)) : Except ExcClass DecodedValue :=
  if (items.map (·.1)).Nodup then .ok (.dict items) else .error .valueError

mutual

/-- The value that the hooks build: `_pairs`, `_constant`, and `Decimal` for every number. -/
def build : JsonTree → Except ExcClass DecodedValue
  | .null => .ok .none
  | .bool b => .ok (.bool b)
  | .number n => .decimal <$> parseNumber n
  | .constant _ => .error .valueError
  | .string s => .ok (.str s)
  | .array items => .list <$> buildItems items
  | .object members => do pairs (← buildMembers members)

def buildItems : List JsonTree → Except ExcClass (List DecodedValue)
  | [] => .ok []
  | v :: vs => do
    let value ← build v
    let values ← buildItems vs
    return value :: values

def buildMembers : List (PyStr × JsonTree) → Except ExcClass (List (PyStr × DecodedValue))
  | [] => .ok []
  | (key, v) :: kvs => do
    let value ← build v
    let entries ← buildMembers kvs
    return (key, value) :: entries

end

/-- `json.loads` under the validator's hooks. -/
def loads (recursionLimit : ℕ) (text : List Char) : Except ExcClass DecodedValue :=
  match JsonParser.decode recursionLimit text with
  | .error .syntax_ => .error .valueError
  | .error .recursion => .error .recursionError
  | .ok v => build v

/-! ## The checks -/

/-- `_too_deep`, from a state of its scan. -/
def tooDeepFrom : ℤ → Bool → Bool → List Char → Bool
  | _, _, _, [] => false
  | depth, true, true, _ :: text => tooDeepFrom depth true false text
  | depth, true, false, c :: text =>
    if c = '\\' then tooDeepFrom depth true true text
    else if c = '"' then tooDeepFrom depth false false text
    else tooDeepFrom depth true false text
  | depth, false, escaped, c :: text =>
    if c = '"' then tooDeepFrom depth true escaped text
    else if c = '[' ∨ c = '\x7b' then
      if depth + 1 > maxJsonDepth then true else tooDeepFrom (depth + 1) false escaped text
    else if c = ']' ∨ c = '\x7d' then tooDeepFrom (depth - 1) false escaped text
    else tooDeepFrom depth false escaped text

/-- `_too_deep`: brackets outside strings nest deeper than the limit. -/
def tooDeep (text : List Char) : Bool := tooDeepFrom 0 false false text

/-- `_matches`. -/
def matchesType : DecodedValue → JsonType → Bool
  | .dict _, .object => true
  | .list _, .array => true
  | .str _, .string => true
  | .decimal _, .number => true
  | .decimal d, .integer => d.toRat = d.toIntegralValue.toRat
  | .bool _, .boolean => true
  | .none, .null => true
  | _, _ => false

/-- `contract.root_type`, and the object root that field constraints ask for. -/
def effectiveRootType (contract : ValidationContract) : Option JsonType :=
  contract.rootType <|>
    if contract.requiredFields ≠ [] ∨ contract.fieldTypes ≠ [] then some .object else none

/-- The field checks of a decoded value. -/
def fieldCodes (contract : ValidationContract) : DecodedValue → List ValidationFailureCode
  | .dict entries =>
    (contract.requiredFields.filterMap fun key =>
      if PyStr.ofString key.value ∈ entries.map (·.1) then none else some .missingField) ++
    contract.fieldTypes.filterMap fun (key, expected) =>
      match entries.lookup (PyStr.ofString key.value) with
      | some value => if matchesType value expected then none else some .fieldType
      | none => none
  | _ => []

/-- The checks of a decoded value: the root type, then the fields. -/
def valueCodes (contract : ValidationContract) (value : DecodedValue) :
    List ValidationFailureCode :=
  match effectiveRootType contract with
  | some rootType =>
    if matchesType value rootType then fieldCodes contract value else [.rootType]
  | none => fieldCodes contract value

/-- The checks of a text in JSON format, after the codes of the earlier checks. -/
def checkJson (recursionLimit : ℕ) (contract : ValidationContract) (text : List Char)
    (codes : List ValidationFailureCode) : Except Exc (List ValidationFailureCode) :=
  if tooDeep (PyStr.strip text) then .ok (codes ++ [.jsonDepthLimit])
  else
    match loads recursionLimit text with
    | .error cls =>
      if cls.isSubclass .valueError || cls.isSubclass .arithmeticError ||
          cls.isSubclass .recursionError then
        .ok (codes ++ [.invalidJson])
      else .error (.raised cls "")
    | .ok value => .ok (codes ++ valueCodes contract value)

/-- `_check`. -/
def check (recursionLimit : ℕ) (response : InferenceResponse) (contract : ValidationContract) :
    Except Exc (List ValidationFailureCode) :=
  let truncated : List ValidationFailureCode :=
    if response.terminationReason = .length then [.outputTruncated] else []
  if maxInputCharacters < response.text.length then .ok (truncated ++ [.inputSizeLimit])
  else
    let text := PyStr.strip response.text.toList
    if text = [] then .ok (truncated ++ [.emptyResponse])
    else
      let short := if ∃ n ∈ contract.minCharacters, text.length < n then [.minimumCharacters] else []
      let label :=
        if contract.format = .label ∧ text ∉ contract.allowedLabels.map (·.value.toList) then
          [.labelNotAllowed] else []
      if contract.format ≠ .json then .ok (truncated ++ short ++ label)
      else checkJson recursionLimit contract response.text.toList (truncated ++ short ++ label)

/-- Every code of the checks names a failure of the response. -/
theorem validatorError_notMem_check {recursionLimit : ℕ} {response : InferenceResponse}
    {contract : ValidationContract} {codes : List ValidationFailureCode}
    (h : check recursionLimit response contract = .ok codes) : .validatorError ∉ codes := by
  have hfields (value : DecodedValue) : .validatorError ∉ fieldCodes contract value := by
    cases value with
    | dict entries =>
      simp only [fieldCodes, List.mem_append, List.mem_filterMap, not_or, not_exists, not_and]
      constructor
      · intro key _
        split <;> simp
      · intro field _
        split
        · split <;> simp
        · simp
    | _ => simp [fieldCodes]
  have hvalue (value : DecodedValue) : .validatorError ∉ valueCodes contract value := by
    unfold valueCodes
    split
    · split
      · exact hfields value
      · simp
    · exact hfields value
  have hjson {text codes codes'} (hcodes : .validatorError ∉ codes)
      (h : checkJson recursionLimit contract text codes = .ok codes') :
      .validatorError ∉ codes' := by
    unfold checkJson at h
    split at h
    · cases h; simpa using hcodes
    · split at h
      · split at h
        · cases h; simpa using hcodes
        · cases h
      · cases h; simpa using ⟨hcodes, hvalue _⟩
  simp only [check] at h
  split_ifs at h <;>
    first
      | (cases h; simp)
      | exact hjson (by simp) h

/-- The result that a list of codes makes. -/
def resultOf (codes : List ValidationFailureCode) (durationMs : ℚ≥0)
    (hcodes : .validatorError ∉ codes) : ValidationResult where
  status := if codes = [] then .passed else .failed
  failures := (codes.take maxFailures).map fun code => ⟨code, code ≠ .validatorError⟩
  durationMs
  failures_length := by simp
  failures_iff := by
    split
    · simp_all
    · simp_all [maxFailures]
  error_code := by split <;> simp
  no_error_code := by
    rintro - f hf
    obtain ⟨code, hmem, rfl⟩ := List.mem_map.mp hf
    rintro rfl
    exact hcodes (List.mem_of_mem_take hmem)

/-- `validate`, at a measured duration. Nothing that the checks do raises past them, so that the
handler that reports a validator error is not reached (`check_ok`). -/
def validate (recursionLimit : ℕ) (response : InferenceResponse)
    (contract : Option ValidationContract) (durationMs : ℚ≥0) : ValidationResult :=
  match contract with
  | none => ⟨.notRun, [], 0, by decide, by decide, by simp, by simp⟩
  | some contract =>
    match h : check recursionLimit response contract with
    | .ok codes => resultOf codes durationMs (validatorError_notMem_check h)
    | .error _ =>
      ⟨.error, [⟨.validatorError, false⟩], durationMs, by decide, by decide, by simp, by simp⟩

end DeterministicResponseValidator

end RouteLLM
