import RouteLLM.Validation.Language

/-!
# What the depth scan promises

A text that passes the scan never makes a parser open more than the limit of containers: neither a
parser of the grammar (`le_of_not_tooDeep`) nor the decoder with its recursive calls
(`decode_ne_recursion`), whether or not the text is well formed. On a well-formed text the scan finds
exactly the containers that are inside as many others (`depth_scan`).
-/

namespace RouteLLM.DeterministicResponseValidator

open JsonGrammar JsonParser

variable {depth : ℤ} {cs rest : List Char}

/-! ## The containers that a parser has open -/

/-- A scan that ends well has passed over what comes before an item. -/
theorem not_tooDeep_item (hcs : BeforeItem cs) (hdepth : depth ≤ maxJsonDepth)
    (h : tooDeepFrom depth false false (cs ++ rest) = false) :
    tooDeepFrom depth false false rest = false := by
  cases hcs with
  | first hw => rwa [tooDeepFrom_plain (structural_ws hw)] at h
  | next hitems hw =>
    rw [List.append_assoc, tooDeepFrom_derives hitems hdepth, Bool.or_eq_false_iff,
      List.cons_append, tooDeepFrom_cons (by decide), tooDeepFrom_plain (structural_ws hw)] at h
    exact h.2

/-- It has passed over a key. -/
theorem not_tooDeep_key (hk : KeyText cs) (h : tooDeepFrom depth false false (cs ++ rest) = false) :
    tooDeepFrom depth false false rest = false := by
  obtain ⟨hw, hk, hw₁, hw₂⟩ := hk
  simp only [List.append_assoc, List.cons_append] at h
  rwa [tooDeepFrom_plain (structural_ws hw), tooDeepFrom_key hk hw₁ hw₂] at h

/-- And over what comes before the value of a member. -/
theorem not_tooDeep_member (hcs : BeforeMember cs) (hdepth : depth ≤ maxJsonDepth)
    (h : tooDeepFrom depth false false (cs ++ rest) = false) :
    tooDeepFrom depth false false rest = false := by
  cases hcs with
  | first hk => exact not_tooDeep_key hk h
  | next hmembers hk =>
    rw [List.append_assoc, tooDeepFrom_derives hmembers hdepth, Bool.or_eq_false_iff,
      List.cons_append, tooDeepFrom_cons (by decide)] at h
    exact not_tooDeep_key hk h.2

/-- A scan that goes on after an opening bracket has not reached the limit. -/
theorem lt_of_not_tooDeep {o : Char} (ho : o = '[' ∨ o = '\x7b')
    (h : tooDeepFrom depth false false (o :: rest) = false) :
    depth + 1 ≤ maxJsonDepth ∧ tooDeepFrom (depth + 1) false false rest = false := by
  have hquote : o ≠ '"' := by rcases ho with rfl | rfl <;> decide
  rw [tooDeepFrom, if_neg hquote, if_pos ho] at h
  split at h
  · cases h
  · exact ⟨by omega, h⟩

/-- **The scan counts the open containers**: where a value may start it has counted exactly those. -/
theorem not_tooDeep_opened {n : ℕ} {pre : List Char} (hopened : Opened n pre)
    (h : tooDeepFrom 0 false false (pre ++ rest) = false) :
    tooDeepFrom n false false rest = false := by
  induction hopened generalizing rest with
  | start hw => rwa [tooDeepFrom_plain (structural_ws hw)] at h
  | array _ hcs ih =>
    rw [List.append_assoc, List.cons_append] at h
    obtain ⟨hlt, hbody⟩ := lt_of_not_tooDeep (.inl rfl) (ih h)
    exact not_tooDeep_item hcs hlt hbody
  | object _ hcs ih =>
    rw [List.append_assoc, List.cons_append] at h
    obtain ⟨hlt, hbody⟩ := lt_of_not_tooDeep (.inr rfl) (ih h)
    exact not_tooDeep_member hcs hlt hbody

/-- A text that passes the scan opens no container beyond the limit. -/
theorem le_of_not_tooDeep {n : ℕ} {pre : List Char} {o : Char} (hopened : Opened n pre)
    (ho : o = '[' ∨ o = '\x7b') (h : tooDeep (pre ++ o :: rest) = false) : n + 1 ≤ maxJsonDepth := by
  have hlt := (lt_of_not_tooDeep ho (not_tooDeep_opened hopened h)).1
  exact_mod_cast hlt

/-! ## The decoder -/

/-- A decoder that may enter the containers up to the limit does not run out of them at a fuel. -/
structure NoRecursionAt (fuel : ℕ) : Prop where
  value : ∀ {depth : ℤ} {budget : ℕ} {cs : List Char}, (maxJsonDepth : ℤ) ≤ depth + budget →
    tooDeepFrom depth false false cs = false → parseValue fuel budget cs ≠ .error .recursion
  items : ∀ {depth : ℤ} {budget : ℕ} {cs : List Char}, (maxJsonDepth : ℤ) ≤ depth + budget →
    depth ≤ maxJsonDepth → tooDeepFrom depth false false cs = false →
    parseItems fuel budget cs ≠ .error .recursion
  members : ∀ {depth : ℤ} {budget : ℕ} {cs : List Char}, (maxJsonDepth : ℤ) ≤ depth + budget →
    depth ≤ maxJsonDepth → tooDeepFrom depth false false cs = false →
    parseMembers fuel budget cs ≠ .error .recursion

/-- Scalars are read without recursion. -/
theorem scanScalar_ne_recursion (cs : List Char) : scanScalar cs ≠ .error .recursion := by
  unfold scanScalar
  split
  · intro h
    cases h
  · split <;> (intro h; cases h)

theorem memberKey_ne_recursion (cs : List Char) : memberKey cs ≠ .error .recursion := by
  unfold memberKey
  split
  · split
    · intro h
      cases h
    · split <;> (intro h; cases h)
  · intro h
    cases h

/-- A container is entered where the scan has counted fewer than the limit. -/
theorem container_ne_recursion {α : Type} {o close : Char} {mk : List α → JsonTree}
    {parse : ℕ → List Char → Except DecodeError (List α × List Char)} {budget : ℕ}
    (ho : o = '[' ∨ o = '\x7b') (hbudget : (maxJsonDepth : ℤ) ≤ depth + budget)
    (h : tooDeepFrom depth false false (o :: cs) = false)
    (hparse : ∀ {budget : ℕ}, (maxJsonDepth : ℤ) ≤ depth + 1 + budget →
      depth + 1 ≤ maxJsonDepth → tooDeepFrom (depth + 1) false false cs = false →
      parse budget cs ≠ .error .recursion) :
    container close mk parse budget cs ≠ .error .recursion := by
  obtain ⟨hlt, hbody⟩ := lt_of_not_tooDeep ho h
  cases budget with
  | zero =>
    push_cast at hbudget
    omega
  | succ budget =>
    rw [container]
    split
    · intro herror
      cases herror
    · intro herror
      rcases Except.bind_eq_error.mp herror with hrec | ⟨_, -, hrec⟩
      · exact hparse (by push_cast at hbudget; omega) hlt hbody hrec
      · cases hrec

/-- After an element the parser goes on in the same container. -/
theorem elementTail_ne_recursion {α : Type} {close : Char} {x : α}
    {parse : List Char → Except DecodeError (List α × List Char)}
    (h : tooDeepFrom depth false false cs = false)
    (hparse : ∀ {cs}, tooDeepFrom depth false false cs = false → parse cs ≠ .error .recursion) :
    elementTail close x parse cs ≠ .error .recursion := by
  obtain ⟨w, hw, hcs⟩ := skipWs_split cs
  rw [hcs, tooDeepFrom_plain (structural_ws hw)] at h
  unfold elementTail
  split
  · intro herror
    cases herror
  · rename_i c cs' hskip
    rw [hskip] at h
    split
    · intro herror
      cases herror
    · split
      · rename_i hcomma
        rw [hcomma, tooDeepFrom_cons (by decide)] at h
        intro herror
        rcases Except.bind_eq_error.mp herror with hrec | ⟨_, -, hrec⟩
        · exact hparse h hrec
        · cases hrec
      · intro herror
        cases herror

/-- The scan goes on after a value that was parsed. -/
theorem not_tooDeep_after {fuel budget : ℕ} {v : JsonTree} (hdepth : depth ≤ maxJsonDepth)
    (h : tooDeepFrom depth false false cs = false)
    (hv : parseValue fuel budget (skipWs cs) = .ok (v, rest)) :
    tooDeepFrom depth false false rest = false := by
  obtain ⟨w, hw, hcs⟩ := skipWs_split cs
  obtain ⟨pre, hpre, -, hskip⟩ := (sound fuel).value hv
  rw [hcs, tooDeepFrom_plain (structural_ws hw), hskip, tooDeepFrom_derives hpre hdepth,
    Bool.or_eq_false_iff] at h
  exact h.2

/-- The decoder does not run out of containers, by induction on the fuel. -/
theorem noRecursion (fuel : ℕ) : NoRecursionAt fuel := by
  induction fuel with
  | zero =>
    constructor
    · intro depth budget cs _ _ h
      cases h
    · intro depth budget cs _ _ _ h
      cases h
    · intro depth budget cs _ _ _ h
      cases h
  | succ fuel ih =>
    constructor
    · intro depth budget cs hbudget h
      cases cs with
      | nil =>
        intro herror
        cases herror
      | cons c cs =>
        rw [parseValue]
        split
        · split <;> (intro herror; cases herror)
        · split
          · rename_i ho
            rw [ho] at h
            exact container_ne_recursion (.inl rfl) hbudget h ih.items
          · split
            · rename_i ho
              rw [ho] at h
              exact container_ne_recursion (.inr rfl) hbudget h ih.members
            · exact scanScalar_ne_recursion _
    · intro depth budget cs hbudget hdepth h herror
      obtain ⟨w, hw, hcs⟩ := skipWs_split cs
      have hskip : tooDeepFrom depth false false (skipWs cs) = false := by
        rwa [hcs, tooDeepFrom_plain (structural_ws hw)] at h
      rcases Except.bind_eq_error.mp herror with hrec | ⟨⟨v, rest⟩, hv, hrec⟩
      · exact ih.value hbudget hskip hrec
      · exact elementTail_ne_recursion (not_tooDeep_after hdepth h hv)
          (ih.items hbudget hdepth) hrec
    · intro depth budget cs hbudget hdepth h herror
      rcases Except.bind_eq_error.mp herror with hrec | ⟨⟨key, rest⟩, hkey, hrec⟩
      · exact memberKey_ne_recursion _ hrec
      · obtain ⟨w, ks, units, w₁, hw, hks, hw₁, -, rfl⟩ := memberKey_sound hkey
        rw [tooDeepFrom_plain (structural_ws hw)] at h
        have hnil : Ws [] := List.forall_mem_nil _
        have hrest : tooDeepFrom depth false false ([] ++ rest) = false :=
          (tooDeepFrom_key hks hw₁ hnil).symm.trans h
        rw [List.nil_append] at hrest
        obtain ⟨w₂, hw₂, hcs⟩ := skipWs_split rest
        have hskip : tooDeepFrom depth false false (skipWs rest) = false := by
          rwa [hcs, tooDeepFrom_plain (structural_ws hw₂)] at hrest
        rcases Except.bind_eq_error.mp hrec with hrec | ⟨⟨v, rest'⟩, hv, hrec⟩
        · exact ih.value hbudget hskip hrec
        · exact elementTail_ne_recursion (not_tooDeep_after hdepth hrest hv)
            (ih.members hbudget hdepth) hrec

/-- **The decoder never has more containers open than the limit**, on a text that passes the scan. -/
theorem decode_ne_recursion {budget : ℕ} (h : tooDeep (PyStr.strip cs) = false)
    (hbudget : maxJsonDepth ≤ budget) : decode budget cs ≠ .error .recursion := by
  rw [tooDeep_strip, tooDeep] at h
  intro herror
  obtain ⟨w, hw, hcs⟩ := skipWs_split cs
  have hskip : tooDeepFrom 0 false false (skipWs cs) = false := by
    rwa [hcs, tooDeepFrom_plain (structural_ws hw)] at h
  rcases Except.bind_eq_error.mp herror with hrec | ⟨_, -, hrec⟩
  · exact (noRecursion _).value (by omega) hskip hrec
  · dsimp only at hrec
    split at hrec <;> cases hrec

/-! ## What the scan promises -/

/-- **The depth scan** bounds the containers that a parser opens on a text that passes it, well formed
or not: those that the grammar has open where one more is opened, and those that the decoder enters. Of
a well-formed text it finds exactly the containers that are inside as many others as the limit, so also
every value inside more. -/
theorem depth_scan (text : List Char) :
    (tooDeep (PyStr.strip text) = false →
      (∀ n pre o rest, text = pre ++ o :: rest → o = '[' ∨ o = '\x7b' → Opened n pre →
        n + 1 ≤ maxJsonDepth) ∧
      ∀ budget, maxJsonDepth ≤ budget → decode budget text ≠ .error .recursion) ∧
    ∀ v, Text text v →
      (tooDeep text = true ↔ ∃ n c, maxJsonDepth ≤ n ∧ v.Inside n c ∧ c.isContainer = true) ∧
      ∀ n x, maxJsonDepth < n → v.Inside n x → tooDeep text = true := by
  refine ⟨?_, ?_⟩
  · intro h
    refine ⟨?_, fun budget hbudget => decode_ne_recursion h hbudget⟩
    intro n pre o rest htext ho hopened
    rw [tooDeep_strip, htext] at h
    exact le_of_not_tooDeep hopened ho h
  · intro v hv
    have hnesting : tooDeep text = true ↔ maxJsonDepth < v.nesting := by
      rw [← tooDeep_strip, tooDeep_text hv, decide_eq_true_iff]
    refine ⟨?_, ?_⟩
    · rw [hnesting]
      constructor
      · intro hlt
        obtain ⟨c, hinside, hc⟩ := JsonTree.exists_inside_of_lt_nesting hlt
        exact ⟨maxJsonDepth, c, le_rfl, hinside, hc⟩
      · rintro ⟨n, c, hn, hinside, hc⟩
        exact lt_of_le_of_lt hn (hinside.lt_nesting hc)
    · intro n x hn hinside
      exact hnesting.mpr (lt_of_lt_of_le hn hinside.le_nesting)

/-- Nested arrays, the innermost empty. -/
def emptyNest : ℕ → JsonTree
  | 0 => .array []
  | n + 1 => .array [emptyNest n]

/-- Their text. -/
def nestText (n : ℕ) : List Char := List.replicate (n + 1) '[' ++ List.replicate (n + 1) ']'

theorem derives_emptyNest (n : ℕ) : Derives (nestText n) (.value (emptyNest n)) := by
  have hnil : Ws [] := List.forall_mem_nil _
  induction n with
  | zero => exact .emptyArray hnil
  | succ n ih =>
    have htext : nestText (n + 1) = '[' :: (([] ++ (nestText n ++ [])) ++ [']']) := by
      rw [nestText, nestText, List.replicate_succ, List.replicate_succ' (n := n + 1),
        List.nil_append, List.append_nil, List.cons_append, List.append_assoc]
    rw [htext]
    exact .array (.lastItem hnil ih hnil)

/-- No value of the nest is inside more containers than the innermost array. -/
theorem le_of_inside_emptyNest {m n : ℕ} {x : JsonTree} (h : (emptyNest m).Inside n x) : n ≤ m := by
  induction m generalizing n with
  | zero =>
    cases h with
    | self => exact le_rfl
    | item hv _ => cases hv
  | succ m ih =>
    cases h with
    | self => exact Nat.zero_le _
    | item hv h =>
      rw [List.mem_singleton.mp hv] at h
      exact Nat.succ_le_succ (ih h)

/-- Thirty-three nested arrays are refused, though no value is inside more than 32 containers. -/
theorem empty_nest_too_deep :
    Text (nestText 32) (emptyNest 32) ∧ tooDeep (nestText 32) = true ∧
      ∀ n x, (emptyNest 32).Inside n x → ¬ maxJsonDepth < n := by
  refine ⟨⟨[], nestText 32, [], ?_, derives_emptyNest 32, ?_, ?_⟩, ?_, ?_⟩
  · exact List.forall_mem_nil _
  · exact List.forall_mem_nil _
  · rw [List.append_nil, List.nil_append]
  · decide +kernel
  · intro n x hinside
    exact not_lt.mpr (le_of_inside_emptyNest hinside)

end RouteLLM.DeterministicResponseValidator
