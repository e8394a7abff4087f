import Mathlib.Data.List.DropRight

/-!
# Python strings

A Python string is a list of code points (`PyStr`), which may be lone surrogates. A text that a
validated model admits has none, and is a Lean `String`, whose characters are Unicode scalar values.
`strip` and `split` are `str.strip` and `str.split` without an argument; they are stated over any
alphabet with a whitespace predicate, so that both readings of a text share them.
-/

/-- A Python string: its code points. -/
abbrev PyStr := List ℕ

namespace PyStr

/-- The code points of a text without surrogates. -/
def ofString (s : String) : PyStr := s.toList.map Char.toNat

theorem ofString_injective : Function.Injective ofString := by
  intro s t h
  have hchars : s.toList = t.toList := by
    refine List.map_injective_iff.mpr (fun c d hcd => ?_) h
    exact Char.ext (UInt32.toNat_inj.mp hcd)
  exact String.toList_inj.mp hchars

/-- The text of a Python string, which has one unless a code point is a surrogate. -/
def text? (s : PyStr) : Option String :=
  (s.mapM fun n : ℕ => if h : n.isValidChar then some (Char.ofNatAux n h) else none).map String.ofList

/-- The code points that `str.isspace` accepts. -/
def isSpace (n : ℕ) : Bool :=
  (9 ≤ n && n ≤ 13) || (28 ≤ n && n ≤ 32) || n == 0x85 || n == 0xA0 || n == 0x1680 ||
    (0x2000 ≤ n && n ≤ 0x200A) || n == 0x2028 || n == 0x2029 || n == 0x202F || n == 0x205F ||
    n == 0x3000

@[inherit_doc isSpace]
def isSpaceChar (c : Char) : Bool := isSpace c.toNat

variable {α : Type*} (space : α → Bool)

/-- The text without its surrounding whitespace. -/
def stripBy (cs : List α) : List α := (cs.dropWhile space).rdropWhile space

/-- The maximal runs of characters that are not whitespace. -/
def splitBy (cs : List α) : List (List α) := (cs.splitOnP space).filter fun w => !w.isEmpty

/-- `str.rstrip()` of a text. -/
def rstrip (cs : List Char) : List Char := cs.rdropWhile isSpaceChar

/-- The number of occurrences of a nonempty pattern that do not overlap, after the first `skip`
characters. -/
def countFrom [BEq α] (pattern : List α) : ℕ → List α → ℕ
  | _, [] => 0
  | skip + 1, _ :: cs => countFrom pattern skip cs
  | 0, c :: cs =>
    if pattern.isPrefixOf (c :: cs) then countFrom pattern (pattern.length - 1) cs + 1
    else countFrom pattern 0 cs

/-- `str.count` of a nonempty pattern. -/
def count [BEq α] (pattern cs : List α) : ℕ := countFrom pattern 0 cs

/-- `str.strip()` of a text. -/
def strip (cs : List Char) : List Char := stripBy isSpaceChar cs

/-- `str.split()` of a text. -/
def split (cs : List Char) : List (List Char) := splitBy isSpaceChar cs

/-- Stripping leaves nothing exactly of a text of whitespace. -/
theorem stripBy_eq_nil_iff {cs : List α} : stripBy space cs = [] ↔ ∀ c ∈ cs, space c := by
  rw [stripBy, List.rdropWhile_eq_nil_iff]
  constructor
  · intro h c hc
    by_contra hs
    -- The first character that is not whitespace heads what is left.
    have hne : cs.dropWhile space ≠ [] := by
      rw [Ne, List.dropWhile_eq_nil_iff]
      exact fun hall => hs (hall c hc)
    have := h _ (List.head_mem hne)
    exact absurd this (by simpa using List.head_dropWhile_not space hne)
  · exact fun h c hc => h c ((List.dropWhile_suffix space).subset hc)

/-- Stripping removes whitespace at both ends and nothing else. -/
theorem stripBy_split (cs : List α) :
    ∃ l r, (∀ c ∈ l, space c = true) ∧ (∀ c ∈ r, space c = true) ∧
      cs = l ++ (stripBy space cs ++ r) := by
  refine ⟨cs.takeWhile space, (cs.dropWhile space).rtakeWhile space,
    fun _ h => List.mem_takeWhile_imp h, fun _ h => List.mem_rtakeWhile_imp h, ?_⟩
  rw [stripBy, List.rdropWhile_append_rtakeWhile, List.takeWhile_append_dropWhile]

/-- Whitespace around a text is stripped with what the text has. -/
theorem stripBy_append {l cs r : List α} (hl : ∀ c ∈ l, space c = true)
    (hr : ∀ c ∈ r, space c = true) : stripBy space (l ++ (cs ++ r)) = stripBy space cs := by
  rw [stripBy, stripBy, List.dropWhile_append_of_pos hl, List.dropWhile_append]
  have hnil : r.dropWhile space = [] := List.dropWhile_eq_nil_iff.mpr hr
  split
  · rename_i hempty
    rw [hnil, List.isEmpty_iff.mp hempty]
  · rw [List.rdropWhile, List.reverse_append, List.dropWhile_append_of_pos, List.rdropWhile]
    intro c hc
    exact hr c (List.mem_reverse.mp hc)

/-- A text that no whitespace starts or ends is not stripped. -/
theorem stripBy_eq_self {cs : List α} (hhead : ∀ c ∈ cs.head?, space c = false)
    (hlast : ∀ c ∈ cs.getLast?, space c = false) : stripBy space cs = cs := by
  have hdrop : cs.dropWhile space = cs := by
    cases cs with
    | nil => rfl
    | cons c cs => rw [List.dropWhile_cons, hhead c rfl]; rfl
  rw [stripBy, hdrop, List.rdropWhile_eq_self_iff]
  intro hne hspace
  have hlast := hlast _ (List.getLast?_eq_some_getLast hne)
  rw [hspace] at hlast
  cases hlast

/-- A stripped text is stripped. -/
@[simp] theorem stripBy_stripBy (cs : List α) : stripBy space (stripBy space cs) = stripBy space cs := by
  refine stripBy_eq_self space (fun c hc => ?_) fun c hc => ?_
  · -- What is left starts as the text without its leading whitespace.
    obtain ⟨rest, hrest⟩ := List.rdropWhile_prefix space (cs.dropWhile space)
    have hhead := List.head?_dropWhile_not space cs
    have hc' : (cs.dropWhile space).head? = some c := by
      rw [← hrest, List.head?_append, ← stripBy, hc]
      rfl
    rw [hc'] at hhead
    exact hhead
  · have hne : stripBy space cs ≠ [] := by
      intro hnil
      rw [hnil] at hc
      cases hc
    rw [List.getLast?_eq_some_getLast hne] at hc
    cases hc
    exact Bool.eq_false_iff.mpr (List.rdropWhile_last_not space _ hne)

end PyStr
