import RouteLLM.Benchmarks.Models
import RouteLLM.Benchmarks.RoutingBenchmark
import RouteLLM.Lib.Combinations
import RouteLLM.Lib.FloatMean
import RouteLLM.Lib.FloatOrder
import RouteLLM.Lib.Unicode
import RouteLLM.Lib.Words

/-!
# The duplicate audit

`normalize_content`, `canonicalize_content` and `duplicate_audit` of `benchmarks/routing_benchmark_v1.py`. A
pattern is a function that tells the length of its match at a position, given the character before it; `re.sub`
replaces the matches from left to right. `SequenceMatcher.ratio` is a parameter, on which no rejection depends.
-/

namespace RouteLLM.RoutingBenchmark

variable (unicode : UnicodeData)

/-- `[a-z0-9]`. -/
def isTokenChar (c : ℕ) : Bool := (97 ≤ c && c ≤ 122) || (48 ≤ c && c ≤ 57)

/-- `re.findall(r"[a-z0-9]+", text.casefold())`. -/
def contentTokens (text : PyStr) : List PyStr :=
  PyStr.splitBy (fun c => !isTokenChar c) (unicode.casefold text)

/-- `normalize_content`. -/
def normalizeContent (text : PyStr) : PyStr := [32].intercalate (contentTokens unicode text)

/-- The characters of `\w`. -/
def isWordChar (c : ℕ) : Bool := unicode.isAlnum c || c == 95

/-- `\b` between two characters, or at an end of the text. -/
def wordBoundary (before after : Option ℕ) : Bool :=
  before.any (isWordChar unicode) != after.any (isWordChar unicode)

/-- `re.sub`: the text with every match replaced. The first argument is the rest of a match to leave out. -/
def subFrom (matchAt : Option ℕ → PyStr → Option ℕ) (replacement : PyStr) : ℕ → Option ℕ → PyStr → PyStr
  | _, _, [] => []
  | skip + 1, _, c :: cs => subFrom matchAt replacement skip (some c) cs
  | 0, before, c :: cs =>
    match matchAt before (c :: cs) with
    | some n => replacement ++ subFrom matchAt replacement (n - 1) (some c) cs
    | none => c :: subFrom matchAt replacement 0 (some c) cs

@[inherit_doc subFrom]
def sub (matchAt : Option ℕ → PyStr → Option ℕ) (replacement text : PyStr) : PyStr :=
  subFrom matchAt replacement 0 none text

/-- The numbers from `n` down to one. -/
def downFrom (n : ℕ) : List ℕ := ((List.range n).map (· + 1)).reverse

/-- The end of a match of `i` characters is a word boundary. -/
def endsAtBoundary (cs : PyStr) (i : ℕ) : Bool := wordBoundary unicode cs[i - 1]? cs[i]?

/-- The ends that are tried after a run of `i` digits: of the fractions from the longest on, then of the run. -/
def numberEnds (cs : PyStr) (i : ℕ) : List ℕ :=
  (if cs[i]? = some 46 then
    (downFrom ((cs.drop (i + 1)).takeWhile unicode.isDecimal).length).map (i + 1 + ·) else []) ++ [i]

/-- `\b\d+(?:\.\d+)?\b`, with the runs of digits from the longest on. -/
def numberMatch (before : Option ℕ) (cs : PyStr) : Option ℕ :=
  if wordBoundary unicode before cs.head? then
    (downFrom (cs.takeWhile unicode.isDecimal).length).findSome? fun i =>
      (numberEnds unicode cs i).find? (endsAtBoundary unicode cs)
  else none

/-- `[a-z0-9._%+-]`. -/
def isLocalChar (c : ℕ) : Bool := isTokenChar c || c == 46 || c == 95 || c == 37 || c == 43 || c == 45

/-- `[a-z0-9.-]`. -/
def isDomainChar (c : ℕ) : Bool := isTokenChar c || c == 46 || c == 45

/-- `[a-z]`. -/
def isLowerChar (c : ℕ) : Bool := 97 ≤ c && c ≤ 122

/-- `\b[a-z0-9._%+-]+@[a-z0-9.-]+\.[a-z]{2,}\b`, with the hosts and then the last labels from the longest on. -/
def emailMatch (before : Option ℕ) (cs : PyStr) : Option ℕ :=
  let local_ := (cs.takeWhile isLocalChar).length
  if wordBoundary unicode before cs.head? ∧ 0 < local_ ∧ cs[local_]? = some 64 then
    let domain := cs.drop (local_ + 1)
    (downFrom (domain.takeWhile isDomainChar).length).findSome? fun host =>
      if domain[host]? = some 46 then
        let label := ((domain.drop (host + 1)).takeWhile isLowerChar).length
        ((downFrom label).filter (2 ≤ ·)).findSome? fun n =>
          let length := local_ + 1 + host + 1 + n
          if endsAtBoundary unicode cs length then some length else none
      else none
  else none

/-- `canonicalize_content`. -/
def canonicalizeContent (text : PyStr) : PyStr :=
  let normalized := normalizeContent unicode text
  let normalized := sub (numberMatch unicode) (PyStr.ofString "<number>") normalized
  sub (emailMatch unicode) (PyStr.ofString "<email>") normalized

/-- `_ngrams`, as the list of the distinct ones. -/
def ngrams (tokens : List PyStr) (size : ℕ) : List (List PyStr) :=
  ((List.range (tokens.length + 1 - size)).map fun index => (tokens.drop index).take size).dedup

/-- The share of the common elements of two sets, and one of empty sets. -/
def jaccard (left right : List (List PyStr)) : PyFloat :=
  let union := (left ++ right).dedup
  if union = [] then .finite 1 else PyFloat.ratio (left.filter (· ∈ right)).length union.length

/-- A hundredth as a float literal. -/
def hundredths (n : ℕ) : PyFloat := PyFloat.ratio n 100

/-- The record of a task that is compared. -/
structure AuditRecord where
  taskId : String
  family : Option TaskId
  source : String
  normalized : PyStr
  canonical : PyStr
  tokens : List PyStr

/-- `record`. -/
def auditRecord (task : BenchmarkTask) (source : String) (family : Option TaskId) : AuditRecord where
  taskId := task.taskId.value
  family := family
  source := source
  normalized := normalizeContent unicode (PyStr.ofString task.prompt)
  canonical := canonicalizeContent unicode (PyStr.ofString task.prompt)
  tokens := contentTokens unicode (PyStr.ofString task.prompt)

inductive AuditScope
  | withinBenchmark | historicalComparison
  deriving DecidableEq

inductive Disposition
  | trueDuplicateReject | suspiciousCosmeticVariantReject | sameFamily | acceptableThematicOverlap
  deriving DecidableEq

/-- `disposition.endswith("reject")`. -/
def Disposition.isReject : Disposition → Bool
  | .trueDuplicateReject | .suspiciousCosmeticVariantReject => true
  | .sameFamily | .acceptableThematicOverlap => false

structure AuditFlag where
  left : String
  right : String
  scope : AuditScope
  exactly : Bool
  canonicalEqual : Bool
  disposition : Disposition
  deriving DecidableEq

/-- `bool(left["family"] and left["family"] == right["family"])`. -/
def sameFamily (left right : AuditRecord) : Bool := left.family.isSome && left.family == right.family

/-- `compare`: the flag of two records, where they are similar. -/
def compareRecords (editRatio : List PyStr → List PyStr → PyFloat) (left right : AuditRecord)
    (scope : AuditScope) : Option AuditFlag :=
  let exactly := left.normalized == right.normalized
  let canonical := left.canonical == right.canonical
  let j3 := jaccard (ngrams left.tokens 3) (ngrams right.tokens 3)
  let j5 := jaccard (ngrams left.tokens 5) (ngrams right.tokens 5)
  if ¬ (exactly ∨ canonical ∨ (hundredths 72).Le j3 ∨ (hundredths 62).Le j5 ∨
      (hundredths 82).Le (editRatio left.tokens right.tokens)) then none
  else
    let disposition : Disposition :=
      if exactly then .trueDuplicateReject
      else if canonical && !sameFamily left right then .suspiciousCosmeticVariantReject
      else if sameFamily left right then .sameFamily
      else .acceptableThematicOverlap
    some { left := left.source ++ ":" ++ left.taskId
           right := right.source ++ ":" ++ right.taskId
           scope := scope
           exactly := exactly
           canonicalEqual := canonical
           disposition := disposition }

structure AuditReport where
  comparisons : ℕ
  flags : List AuditFlag
  unresolvedCount : ℕ

/-- `duplicate_audit`, with the historical datasets that exist. -/
def duplicateAudit (editRatio : List PyStr → List PyStr → PyFloat) (dataset : BenchmarkDataset)
    (historical : List BenchmarkDataset) : AuditReport :=
  let records := dataset.tasks.map fun task => auditRecord unicode task benchmarkName task.taskFamilyId
  let prior := historical.flatMap fun old => old.tasks.map fun task => auditRecord unicode task old.name none
  let compared := (Itertools.combinations records).map (fun pair => (pair, AuditScope.withinBenchmark)) ++
    (records.flatMap fun left => prior.map fun right => (left, right)).map
      fun pair => (pair, AuditScope.historicalComparison)
  let flags := compared.filterMap fun entry => compareRecords editRatio entry.1.1 entry.1.2 entry.2
  { comparisons := compared.length
    flags := flags
    unresolvedCount := (flags.filter (·.disposition.isReject)).length }

end RouteLLM.RoutingBenchmark
