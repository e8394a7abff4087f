import Mathlib.Data.List.Count
import RouteLLM.Benchmarks.CosmeticVariants

/-!
# What the audit rejects

Over prompts whose alphanumeric characters are those of ASCII, and that have neither a decimal literal nor an e-mail
address, the audit is exact: two tasks of different families are rejected where their prompts have the same tokens
after every number is replaced. A decimal literal is taken for two numbers, an e-mail address for its words, and a
letter beyond ASCII for a space.
-/

namespace RouteLLM.RoutingBenchmark

variable (unicode : UnicodeData)

/-! ## The content of a prompt -/

/-- What stands for an e-mail address. It is no character. -/
def emailMark : ℕ := 0x110000

/-- What stands for a number. It is no character. -/
def numberMark : ℕ := 0x110001

/-- A decimal literal: two runs of digits around a point, without an alphanumeric character next to them. -/
def decimalMatch (before : Option ℕ) (cs : PyStr) : Option ℕ :=
  let whole := (cs.takeWhile unicode.isDecimal).length
  let fraction := ((cs.drop (whole + 1)).takeWhile unicode.isDecimal).length
  if before.any unicode.isAlnum = false ∧ 0 < whole ∧ cs[whole]? = some 46 ∧ 0 < fraction ∧
      cs[whole + 1 + fraction]?.any unicode.isAlnum = false then some (whole + 1 + fraction)
  else none

/-- The case-folded text, with a mark for every e-mail address, and then for every decimal literal. -/
def markedText (text : PyStr) : PyStr :=
  sub (decimalMatch unicode) [32, numberMark, 32]
    (sub (emailMatch unicode) [32, emailMark, 32] (unicode.casefold text))

/-- A character of a token of the marked text. -/
def isItemChar (c : ℕ) : Bool := unicode.isAlnum c || c == emailMark || c == numberMark

/-- The mark of an integer literal, or the token. -/
def markInteger (w : PyStr) : PyStr := if w.all unicode.isDecimal then [numberMark] else w

/-- The alphanumeric tokens of a text, with a mark for every number and every e-mail address. -/
def contentItems (text : PyStr) : List PyStr :=
  (PyStr.splitBy (fun c => !isItemChar unicode c) (markedText unicode text)).map (markInteger unicode)

/-- The alphanumeric tokens of a text. -/
def alphanumericTokens (text : PyStr) : List PyStr :=
  PyStr.splitBy (fun c => !unicode.isAlnum c) (unicode.casefold text)

variable {unicode} {text left right : PyStr}

/-- A prompt on which the tokens of the audit are those of the content. -/
structure Plain (unicode : UnicodeData) (text : PyStr) : Prop where
  ascii : ∀ c ∈ unicode.casefold text, isItemChar unicode c = true → isTokenChar c = true
  noEmail : Unmatched (emailMatch unicode) none (unicode.casefold text)
  noDecimal : Unmatched (decimalMatch unicode) none (unicode.casefold text)

theorem isAlnum_of_isTokenChar {c : ℕ} (h : isTokenChar c = true) : unicode.isAlnum c = true := by
  rw [unicode.isAlnum_ascii c (isTokenChar_lt h)]
  simp only [isTokenChar, Bool.or_eq_true, Bool.and_eq_true, decide_eq_true_eq] at h ⊢
  omega

namespace Plain

theorem markedText_eq (h : Plain unicode text) : markedText unicode text = unicode.casefold text := by
  have hemail : sub (emailMatch unicode) [32, emailMark, 32] (unicode.casefold text) = unicode.casefold text :=
    subFrom_unmatched h.noEmail
  rw [markedText, hemail]
  exact subFrom_unmatched h.noDecimal

theorem isItemChar_eq (h : Plain unicode text) {c : ℕ} (hc : c ∈ unicode.casefold text) :
    isItemChar unicode c = isTokenChar c := by
  refine Bool.eq_iff_iff.mpr ⟨h.ascii c hc, fun htoken => ?_⟩
  rw [isItemChar, isAlnum_of_isTokenChar htoken]
  rfl

theorem isAlnum_eq (h : Plain unicode text) {c : ℕ} (hc : c ∈ unicode.casefold text) :
    unicode.isAlnum c = isTokenChar c := by
  refine Bool.eq_iff_iff.mpr ⟨fun halnum => h.ascii c hc ?_, isAlnum_of_isTokenChar⟩
  rw [isItemChar, halnum]
  rfl

/-- The tokens of a plain prompt. -/
theorem alphanumericTokens_eq (h : Plain unicode text) :
    alphanumericTokens unicode text = contentTokens unicode text :=
  PyStr.splitBy_congr fun c hc => by rw [h.isAlnum_eq hc]

/-- The content of a plain prompt. -/
theorem contentItems_eq (h : Plain unicode text) :
    contentItems unicode text = (contentTokens unicode text).map (markInteger unicode) := by
  rw [contentItems, h.markedText_eq]
  refine congrArg (List.map (markInteger unicode)) (PyStr.splitBy_congr fun c hc => ?_)
  rw [h.isItemChar_eq hc]

end Plain

/-! ## Placeholders and marks -/

/-- Two tokens are replaced by one text where they are equal or both are numbers. -/
theorem replaced_eq_iff {number w v : PyStr} (hnumber : ∃ c ∈ number, isTokenChar c = false)
    (hw : ∀ c ∈ w, isTokenChar c = true) (hv : ∀ c ∈ v, isTokenChar c = true) :
    (if w.all isDigitChar then number else w) = (if v.all isDigitChar then number else v) ↔
      w = v ∨ (w.all isDigitChar = true ∧ v.all isDigitChar = true) := by
  obtain ⟨c, hc, hnot⟩ := hnumber
  have hne : ∀ u : PyStr, (∀ c ∈ u, isTokenChar c = true) → u ≠ number := by
    intro u hu heq
    rw [hu c (heq ▸ hc)] at hnot
    cases hnot
  cases hwd : w.all isDigitChar <;> cases hvd : v.all isDigitChar
  · simp
  · have hwv : w ≠ v := fun heq => by rw [heq, hvd] at hwd; cases hwd
    simp [hne w hw, hwv]
  · have hwv : w ≠ v := fun heq => by rw [heq, hvd] at hwd; cases hwd
    simp [(hne v hv).symm, hwv]
  · simp

/-- Replacements that identify the same words identify the same texts. -/
theorem map_replaced_iff {f g : PyStr → PyStr} {words words' : List PyStr}
    (h : ∀ w ∈ words, ∀ v ∈ words', f w = f v ↔ g w = g v) :
    words.map f = words'.map f ↔ words.map g = words'.map g := by
  induction words generalizing words' with
  | nil =>
    cases words' with
    | nil => exact iff_of_true rfl rfl
    | cons v words' => exact iff_of_false (by simp) (by simp)
  | cons w words ih =>
    cases words' with
    | nil => exact iff_of_false (by simp) (by simp)
    | cons v words' =>
      have hrest := @ih words' fun w' hw' v' hv' => h w' (.tail _ hw') v' (.tail _ hv')
      rw [List.map_cons, List.map_cons, List.map_cons, List.map_cons, List.cons.injEq, List.cons.injEq, hrest,
        h w (.head _) v (.head _)]

theorem markInteger_eq {w : PyStr} (hw : ∀ c ∈ w, isTokenChar c = true) :
    markInteger unicode w = if w.all isDigitChar then [numberMark] else w := by
  have hall : w.all unicode.isDecimal = w.all isDigitChar := by
    rw [Bool.eq_iff_iff, List.all_eq_true, List.all_eq_true]
    exact forall₂_congr fun c hc => by rw [isDecimal_of_isTokenChar (hw c hc)]
  rw [markInteger, hall]

/-- Of plain prompts, the audit compares the content. -/
theorem canonicalWords_eq_iff (hleft : Plain unicode left) (hright : Plain unicode right) :
    canonicalWords unicode left = canonicalWords unicode right ↔
      contentItems unicode left = contentItems unicode right := by
  rw [hleft.contentItems_eq, hright.contentItems_eq, canonicalWords, canonicalWords]
  refine map_replaced_iff fun w hw v hv => ?_
  have hw := (mem_contentTokens hw).2
  have hv := (mem_contentTokens hv).2
  rw [markInteger_eq hw, markInteger_eq hv, replaced_eq_iff ⟨numberMark, List.mem_singleton_self _, rfl⟩ hw hv]
  exact replaced_eq_iff ⟨60, List.mem_cons_self, rfl⟩ hw hv

/-- Two prompts on which the audit is exact: they are the same but for case, or both are plain. -/
def Comparable (unicode : UnicodeData) (left right : PyStr) : Prop :=
  unicode.casefold left = unicode.casefold right ∨ (Plain unicode left ∧ Plain unicode right)

theorem Comparable.canonical_iff (h : Comparable unicode left right) :
    canonicalizeContent unicode left = canonicalizeContent unicode right ↔
      contentItems unicode left = contentItems unicode right := by
  rw [canonicalizeContent_inj]
  rcases h with heq | ⟨hleft, hright⟩
  · refine iff_of_true ?_ ?_
    · rw [canonicalWords, canonicalWords, contentTokens, contentTokens, heq]
    · rw [contentItems, contentItems, markedText, markedText, heq]
  · exact canonicalWords_eq_iff hleft hright

theorem Comparable.normalized_iff (h : Comparable unicode left right) :
    normalizeContent unicode left = normalizeContent unicode right ↔
      alphanumericTokens unicode left = alphanumericTokens unicode right := by
  rw [normalizeContent_inj]
  rcases h with heq | ⟨hleft, hright⟩
  · refine iff_of_true ?_ ?_
    · rw [contentTokens, contentTokens, heq]
    · rw [alphanumericTokens, alphanumericTokens, heq]
  · rw [hleft.alphanumericTokens_eq, hright.alphanumericTokens_eq]

/-! ## The comparison of two records -/

variable {editRatio : List PyStr → List PyStr → PyFloat}

theorem compareRecords_eq_some {l r : AuditRecord} {scope : AuditScope} {flag : AuditFlag}
    (h : compareRecords editRatio l r scope = some flag) :
    flag.left = l.source ++ ":" ++ l.taskId ∧ flag.right = r.source ++ ":" ++ r.taskId ∧ flag.scope = scope := by
  rw [compareRecords] at h
  dsimp only at h
  split at h
  · cases h
  · cases h
    exact ⟨rfl, rfl, rfl⟩

/-- Two records are rejected where their texts are equal, or where their canonical texts are and their families
differ. -/
theorem rejected_iff {l r : AuditRecord} {scope : AuditScope} :
    (compareRecords editRatio l r scope).any (·.disposition.isReject) = true ↔
      l.normalized = r.normalized ∨ (l.canonical = r.canonical ∧ sameFamily l r = false) := by
  rw [compareRecords]
  dsimp only
  split
  · rename_i hnone
    simp only [not_or, beq_iff_eq] at hnone
    exact iff_of_false Bool.false_ne_true (not_or.mpr ⟨hnone.1, fun h => hnone.2.1 h.1⟩)
  · cases hexact : l.normalized == r.normalized <;> cases hcanonical : l.canonical == r.canonical <;>
      cases hfamily : sameFamily l r <;>
      simp_all [Disposition.isReject]

/-! ## The audit -/

variable {dataset : BenchmarkDataset} {historical : List BenchmarkDataset} {a b : BenchmarkTask}

/-- The prompt of a task. -/
def auditedPrompt (task : BenchmarkTask) : PyStr := PyStr.ofString task.prompt

/-- The record of a task of the audited data set. -/
def taskRecord (unicode : UnicodeData) (task : BenchmarkTask) : AuditRecord :=
  auditRecord unicode task benchmarkName task.taskFamilyId

/-- A task in a flag. -/
def flagName (task : BenchmarkTask) : String := benchmarkName ++ ":" ++ task.taskId.value

/-- Two tasks of one declared family. -/
def oneFamily (a b : BenchmarkTask) : Bool := a.taskFamilyId.isSome && a.taskFamilyId == b.taskFamilyId

/-- Two tasks with the same content. -/
def sameContent (unicode : UnicodeData) (a b : BenchmarkTask) : Bool :=
  contentItems unicode (auditedPrompt a) == contentItems unicode (auditedPrompt b)

/-- Two tasks with the same tokens. -/
def sameTokens (unicode : UnicodeData) (a b : BenchmarkTask) : Bool :=
  alphanumericTokens unicode (auditedPrompt a) == alphanumericTokens unicode (auditedPrompt b)

/-- A report rejects two tasks of the data set. -/
def Rejects (report : AuditReport) (a b : BenchmarkTask) : Prop :=
  ∃ flag ∈ report.flags, flag.scope = .withinBenchmark ∧ flag.disposition.isReject = true ∧
    s(flag.left, flag.right) = s(flagName a, flagName b)

/-- The audit rejects the pairs of different families that have the same content, and counts them together with the
pairs of one family that have the same tokens. -/
structure AuditExact (unicode : UnicodeData) (editRatio : List PyStr → List PyStr → PyFloat)
    (dataset : BenchmarkDataset) (historical : List BenchmarkDataset) : Prop where
  rejects : ∀ a ∈ dataset.tasks, ∀ b ∈ dataset.tasks, a ≠ b → oneFamily a b = false →
    (Rejects (duplicateAudit unicode editRatio dataset historical) a b ↔ sameContent unicode a b = true)
  unresolved : historical = [] → (duplicateAudit unicode editRatio dataset historical).unresolvedCount =
    (Itertools.combinations dataset.tasks).countP (fun pair => !oneFamily pair.1 pair.2 && sameContent unicode pair.1 pair.2) +
      (Itertools.combinations dataset.tasks).countP (fun pair => oneFamily pair.1 pair.2 && sameTokens unicode pair.1 pair.2)

/-- What the comparison of two tasks rejects. -/
def rejectsPair (unicode : UnicodeData) (editRatio : List PyStr → List PyStr → PyFloat) (a b : BenchmarkTask) : Bool :=
  (compareRecords editRatio (taskRecord unicode a) (taskRecord unicode b) .withinBenchmark).any (·.disposition.isReject)

/-- Comparable tasks of different families are rejected where they have the same content. -/
theorem rejectsPair_across (hcomparable : Comparable unicode (auditedPrompt a) (auditedPrompt b)) (hfamily : oneFamily a b = false) :
    rejectsPair unicode editRatio a b = sameContent unicode a b := by
  rw [Bool.eq_iff_iff, rejectsPair, rejected_iff, sameContent, beq_iff_eq, ← hcomparable.canonical_iff]
  refine ⟨?_, fun hcanonical => .inr ⟨hcanonical, hfamily⟩⟩
  rintro (hnormalized | ⟨hcanonical, -⟩)
  · exact congrArg (fun text => sub (emailMatch unicode) (PyStr.ofString "<email>")
      (sub (numberMatch unicode) (PyStr.ofString "<number>") text)) hnormalized
  · exact hcanonical

/-- Comparable tasks of one family are rejected where they have the same tokens. -/
theorem rejectsPair_within (hcomparable : Comparable unicode (auditedPrompt a) (auditedPrompt b)) (hfamily : oneFamily a b = true) :
    rejectsPair unicode editRatio a b = sameTokens unicode a b := by
  rw [Bool.eq_iff_iff, rejectsPair, rejected_iff, sameTokens, beq_iff_eq, ← hcomparable.normalized_iff]
  refine or_iff_left fun hcanonical => ?_
  rw [show sameFamily (taskRecord unicode a) (taskRecord unicode b) = true from hfamily] at hcanonical
  cases hcanonical.2

theorem combinations_records :
    Itertools.combinations (dataset.tasks.map (taskRecord unicode)) =
      (Itertools.combinations dataset.tasks).map (Prod.map (taskRecord unicode) (taskRecord unicode)) :=
  Itertools.combinations_map _ _

/-- A flag within the data set is that of a pair of its tasks. -/
theorem mem_flags {flag : AuditFlag} (h : flag ∈ (duplicateAudit unicode editRatio dataset historical).flags)
    (hscope : flag.scope = .withinBenchmark) : ∃ pair ∈ Itertools.combinations dataset.tasks,
      compareRecords editRatio (taskRecord unicode pair.1) (taskRecord unicode pair.2) .withinBenchmark = some flag := by
  obtain ⟨entry, hentry, hflag⟩ := List.mem_filterMap.mp h
  rcases List.mem_append.mp hentry with hwithin | hhistorical
  · obtain ⟨records, hrecords, rfl⟩ := List.mem_map.mp hwithin
    rw [show dataset.tasks.map (fun task => auditRecord unicode task benchmarkName task.taskFamilyId) =
      dataset.tasks.map (taskRecord unicode) from rfl, combinations_records] at hrecords
    obtain ⟨pair, hpair, rfl⟩ := List.mem_map.mp hrecords
    exact ⟨pair, hpair, hflag⟩
  · obtain ⟨records, -, rfl⟩ := List.mem_map.mp hhistorical
    rw [(compareRecords_eq_some hflag).2.2] at hscope
    cases hscope

/-- The flags of the pairs of the data set are reported. -/
theorem flag_mem {pair : BenchmarkTask × BenchmarkTask} {flag : AuditFlag} (hpair : pair ∈ Itertools.combinations dataset.tasks)
    (hflag : compareRecords editRatio (taskRecord unicode pair.1) (taskRecord unicode pair.2) .withinBenchmark = some flag) :
    flag ∈ (duplicateAudit unicode editRatio dataset historical).flags := by
  refine List.mem_filterMap.mpr ⟨((taskRecord unicode pair.1, taskRecord unicode pair.2), .withinBenchmark), ?_, hflag⟩
  refine List.mem_append_left _ (List.mem_map.mpr ⟨(taskRecord unicode pair.1, taskRecord unicode pair.2), ?_, rfl⟩)
  have hmem := List.mem_map_of_mem (f := Prod.map (taskRecord unicode) (taskRecord unicode)) hpair
  rw [← combinations_records] at hmem
  exact hmem

theorem flagName_injOn (ha : a ∈ dataset.tasks) (hb : b ∈ dataset.tasks) (h : flagName a = flagName b) : a = b := by
  have htext : (benchmarkName ++ ":").toList ++ a.taskId.value.toList =
      (benchmarkName ++ ":").toList ++ b.taskId.value.toList := by
    rw [← String.toList_append, ← String.toList_append]
    exact congrArg String.toList h
  have hid := TaskId.value_injective (String.toList_inj.mp (List.append_cancel_left htext))
  exact List.inj_on_of_nodup_map dataset.tasks_nodup ha hb hid

theorem rejectsPair_comm : rejectsPair unicode editRatio a b = rejectsPair unicode editRatio b a := by
  have hfamily : sameFamily (taskRecord unicode a) (taskRecord unicode b) = sameFamily (taskRecord unicode b) (taskRecord unicode a) := by
    rw [Bool.eq_iff_iff, sameFamily, sameFamily, Bool.and_eq_true, Bool.and_eq_true, beq_iff_eq, beq_iff_eq]
    constructor
    all_goals
      rintro ⟨hsome, heq⟩
      exact ⟨heq ▸ hsome, heq.symm⟩
  rw [Bool.eq_iff_iff, rejectsPair, rejectsPair, rejected_iff, rejected_iff, hfamily]
  exact or_congr eq_comm (and_congr_left' eq_comm)

theorem tasks_nodup_of_ids (dataset : BenchmarkDataset) : dataset.tasks.Nodup := List.Nodup.of_map _ dataset.tasks_nodup

theorem mem_of_mem_combinations {pair : BenchmarkTask × BenchmarkTask}
    (h : pair ∈ Itertools.combinations dataset.tasks) : pair.1 ∈ dataset.tasks ∧ pair.2 ∈ dataset.tasks :=
  ((Itertools.mem_unordered_combinations (tasks_nodup_of_ids dataset)).mp (List.mem_map_of_mem h)).2

/-- The report rejects two tasks where their comparison does. -/
theorem rejects_iff (ha : a ∈ dataset.tasks) (hb : b ∈ dataset.tasks) (hne : a ≠ b) :
    Rejects (duplicateAudit unicode editRatio dataset historical) a b ↔ rejectsPair unicode editRatio a b = true := by
  have hcongr : ∀ pair : BenchmarkTask × BenchmarkTask, s(pair.1, pair.2) = s(a, b) →
      rejectsPair unicode editRatio pair.1 pair.2 = rejectsPair unicode editRatio a b := by
    intro pair hpair
    rcases Sym2.eq_iff.mp hpair with ⟨rfl, rfl⟩ | ⟨rfl, rfl⟩
    · rfl
    · exact rejectsPair_comm
  constructor
  · rintro ⟨flag, hflag, hscope, hreject, hnames⟩
    obtain ⟨pair, hpair, hcompare⟩ := mem_flags hflag hscope
    obtain ⟨hleft, hright, -⟩ := compareRecords_eq_some hcompare
    obtain ⟨hmem, hmem'⟩ := mem_of_mem_combinations hpair
    have hsame : s(pair.1, pair.2) = s(a, b) := by
      rw [hleft, hright] at hnames
      rcases Sym2.eq_iff.mp hnames with ⟨hl, hr⟩ | ⟨hl, hr⟩
      · rw [flagName_injOn hmem ha hl, flagName_injOn hmem' hb hr]
      · rw [flagName_injOn hmem hb hl, flagName_injOn hmem' ha hr, Sym2.eq_swap]
    rw [← hcongr pair hsame, rejectsPair, hcompare]
    exact hreject
  · intro hrejects
    have hmem := (Itertools.mem_unordered_combinations (tasks_nodup_of_ids dataset)).mpr ⟨hne, ha, hb⟩
    obtain ⟨pair, hpair, hsame⟩ := List.mem_map.mp hmem
    rw [← hcongr pair hsame, rejectsPair] at hrejects
    obtain ⟨flag, hflag, hreject⟩ := (Option.any_eq_true _ _).mp hrejects
    obtain ⟨hleft, hright, hscope⟩ := compareRecords_eq_some hflag
    refine ⟨flag, flag_mem hpair hflag, hscope, hreject, ?_⟩
    rw [hleft, hright]
    rcases Sym2.eq_iff.mp hsame with ⟨rfl, rfl⟩ | ⟨rfl, rfl⟩
    · rfl
    · exact Sym2.eq_swap

/-- Without historical data sets the report counts the rejected pairs. -/
theorem unresolvedCount_eq : (duplicateAudit unicode editRatio dataset []).unresolvedCount =
    (Itertools.combinations dataset.tasks).countP fun pair => rejectsPair unicode editRatio pair.1 pair.2 := by
  have hnone : (dataset.tasks.map (taskRecord unicode)).flatMap
      (fun left => ([] : List AuditRecord).map fun right => (left, right)) = [] := by
    simp
  have hcompared : ((Itertools.combinations (dataset.tasks.map (taskRecord unicode))).map
      (fun pair => (pair, AuditScope.withinBenchmark)) ++ ((dataset.tasks.map (taskRecord unicode)).flatMap
        fun left => ([] : List AuditRecord).map fun right => (left, right)).map
          fun pair => (pair, AuditScope.historicalComparison)) =
      (Itertools.combinations dataset.tasks).map fun pair =>
        ((taskRecord unicode pair.1, taskRecord unicode pair.2), AuditScope.withinBenchmark) := by
    rw [hnone, combinations_records, List.map_map, List.map_nil, List.append_nil]
    rfl
  rw [duplicateAudit]
  dsimp only
  rw [← List.countP_eq_length_filter, List.countP_filterMap, List.flatMap_nil]
  refine (congrArg (List.countP _) hcompared).trans ?_
  rw [List.countP_map]
  refine List.countP_congr fun pair _ => ?_
  rw [rejectsPair]
  dsimp only [Function.comp_apply]
  cases compareRecords editRatio (taskRecord unicode pair.1) (taskRecord unicode pair.2) .withinBenchmark with
  | none => rfl
  | some flag => rfl

theorem Comparable.symm {left right : PyStr} (h : Comparable unicode left right) : Comparable unicode right left :=
  h.imp Eq.symm And.symm

theorem sameContent_comm : sameContent unicode a b = sameContent unicode b a :=
  Bool.eq_iff_iff.mpr (by rw [sameContent, sameContent, beq_iff_eq, beq_iff_eq, eq_comm])

/-- **Exactness of the audit.** Where every two prompts are comparable, the audit rejects what it is for. -/
theorem audit_exact_of_comparable (h : ∀ pair ∈ Itertools.combinations dataset.tasks,
    Comparable unicode (auditedPrompt pair.1) (auditedPrompt pair.2)) :
    AuditExact unicode editRatio dataset historical := by
  refine ⟨fun a ha b hb hne hfamily => ?_, ?_⟩
  · have hmem := (Itertools.mem_unordered_combinations (tasks_nodup_of_ids dataset)).mpr ⟨hne, ha, hb⟩
    obtain ⟨pair, hpair, hsame⟩ := List.mem_map.mp hmem
    have hcomparable : Comparable unicode (auditedPrompt a) (auditedPrompt b) := by
      rcases Sym2.eq_iff.mp hsame with ⟨rfl, rfl⟩ | ⟨rfl, rfl⟩
      · exact h pair hpair
      · exact (h pair hpair).symm
    rw [rejects_iff ha hb hne, rejectsPair_across hcomparable hfamily]
  · rintro rfl
    rw [unresolvedCount_eq, List.countP_eq_countP_filter_add _ _ fun pair => !oneFamily pair.1 pair.2,
      List.countP_filter, List.countP_filter]
    refine congrArg₂ (· + ·) (List.countP_congr fun pair hpair => ?_) (List.countP_congr fun pair hpair => ?_)
    all_goals
      rw [Bool.and_comm]
      cases hfamily : oneFamily pair.1 pair.2
    · rw [rejectsPair_across (h pair hpair) hfamily]
    · exact iff_of_false Bool.false_ne_true Bool.false_ne_true
    · exact iff_of_false Bool.false_ne_true Bool.false_ne_true
    · rw [rejectsPair_within (h pair hpair) hfamily]
      rfl

/-! ## A decimal literal -/

/-- The ids of two tasks, which are those of their families. -/
def firstId : TaskId := ⟨"first", rfl⟩

@[inherit_doc firstId]
def secondId : TaskId := ⟨"second", rfl⟩

theorem ids_nodup : [firstId, secondId].Nodup := by decide

/-- A task that is a family of its own. -/
def familyTask (taskId : TaskId) (prompt : String) (hprompt : PyStr.strip prompt.toList ≠ []) : BenchmarkTask :=
  { BenchmarkTask.sample with
    taskId := taskId
    taskFamilyId := some taskId
    prompt := prompt
    prompt_nonblank := hprompt }

/-- Two prompts of different families. -/
def promptPair (first second : String) (hfirst : PyStr.strip first.toList ≠ []) (hsecond : PyStr.strip second.toList ≠ []) :
    BenchmarkDataset :=
  { BenchmarkDataset.sample with
    tasks := [familyTask firstId first hfirst, familyTask secondId second hsecond]
    tasks_nonempty := List.cons_ne_nil _ _
    tasks_nodup := ids_nodup }

/-- Two prompts that differ in an integer. -/
theorem audit_exact_of_comparable_sample : AuditExact .ascii (fun _ _ => PyFloat.ratio 4 6)
    (promptPair "Pay 1 now." "Pay 2 now!" (by decide) (by decide)) [] := by
  refine audit_exact_of_comparable fun pair hpair => ?_
  rw [show pair = _ from List.mem_singleton.mp hpair]
  exact .inr ⟨⟨by decide, by decide, by decide⟩, ⟨by decide, by decide, by decide⟩⟩

/-- A decimal literal is taken for two numbers, so that the prompts that differ in it are not rejected. -/
theorem decimal_literal_split : ¬ AuditExact .ascii (fun _ _ => PyFloat.ratio 4 7)
    (promptPair "Pay 1.5 now." "Pay 2 now." (by decide) (by decide)) [] := by
  intro h
  have hcount := h.unresolved rfl
  rw [unresolvedCount_eq] at hcount
  revert hcount
  decide +kernel

end RouteLLM.RoutingBenchmark
