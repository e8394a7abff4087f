import RouteLLM.Lib.PyStr

/-!
# The JSON grammar

The grammar of RFC 8259 as a relation `Derives` between texts and syntax trees, with one extension:
the three constants that Python's decoder knows besides (`JsonConstant`). A tree without them
(`JsonTree.Standard`) is the tree of a text of the standard. A string of the tree is a list of code
points, with escaped surrogate pairs joined as the decoder joins them.
-/

/-- A number as it is written. -/
structure JsonNumber where
  negative : Bool
  integer : List Char
  fraction : Option (List Char)
  exponent : Option ℤ
  deriving DecidableEq

/-- The constants that are no JSON. -/
inductive JsonConstant
  | nan | infinity | negInfinity
  deriving DecidableEq

/-- A syntax tree. The members of an object are in the order of the text, repeated keys included. -/
inductive JsonTree
  | null
  | bool (b : Bool)
  | number (n : JsonNumber)
  | constant (c : JsonConstant)
  | string (s : PyStr)
  | array (items : List JsonTree)
  | object (members : List (PyStr × JsonTree))

namespace JsonTree

mutual

/-- How deep the containers nest. -/
def nesting : JsonTree → ℕ
  | .array items => nestingItems items + 1
  | .object members => nestingMembers members + 1
  | _ => 0

/-- The deepest of some items. -/
def nestingItems : List JsonTree → ℕ
  | [] => 0
  | v :: vs => max v.nesting (nestingItems vs)

/-- The deepest of some members. -/
def nestingMembers : List (PyStr × JsonTree) → ℕ
  | [] => 0
  | (_, v) :: kvs => max v.nesting (nestingMembers kvs)

end

/-- A value occurs in another, inside a number of its containers. -/
inductive Inside : JsonTree → ℕ → JsonTree → Prop
  | self (v : JsonTree) : Inside v 0 v
  | item {vs v n x} (hv : v ∈ vs) (h : Inside v n x) : Inside (.array vs) (n + 1) x
  | member {kvs key v n x} (hv : (key, v) ∈ kvs) (h : Inside v n x) : Inside (.object kvs) (n + 1) x

/-- An array or an object. -/
def isContainer : JsonTree → Bool
  | .array _ | .object _ => true
  | _ => false

/-- Some item is deeper than `n` exactly where the items are. -/
theorem lt_nestingItems {n : ℕ} {vs : List JsonTree} :
    n < nestingItems vs ↔ ∃ v ∈ vs, n < v.nesting := by
  induction vs with
  | nil => simp [nestingItems]
  | cons v vs ih =>
    have hmax : n < nestingItems (v :: vs) ↔ n < v.nesting ∨ n < nestingItems vs := by
      rw [nestingItems]
      omega
    rw [hmax, ih]
    simp

theorem lt_nestingMembers {n : ℕ} {kvs : List (PyStr × JsonTree)} :
    n < nestingMembers kvs ↔ ∃ entry ∈ kvs, n < entry.2.nesting := by
  induction kvs with
  | nil => simp [nestingMembers]
  | cons entry kvs ih =>
    obtain ⟨key, v⟩ := entry
    have hmax : n < nestingMembers ((key, v) :: kvs) ↔ n < v.nesting ∨ n < nestingMembers kvs := by
      rw [nestingMembers]
      omega
    rw [hmax, ih]
    simp

/-- A container inside `n` others makes the nesting exceed `n`. -/
theorem Inside.lt_nesting {v c : JsonTree} {n : ℕ} (h : Inside v n c) (hc : c.isContainer = true) :
    n < v.nesting := by
  induction h with
  | self v =>
    cases v with
    | array vs => exact Nat.succ_pos _
    | object kvs => exact Nat.succ_pos _
    | _ => cases hc
  | item hv _ ih => exact Nat.succ_lt_succ (lt_nestingItems.mpr ⟨_, hv, ih hc⟩)
  | member hv _ ih => exact Nat.succ_lt_succ (lt_nestingMembers.mpr ⟨_, hv, ih hc⟩)

/-- A nesting above `n` comes from a container inside `n` others. -/
theorem exists_inside_of_lt_nesting {v : JsonTree} {n : ℕ} (h : n < v.nesting) :
    ∃ c, Inside v n c ∧ c.isContainer = true := by
  induction n generalizing v with
  | zero =>
    cases v with
    | array vs => exact ⟨_, .self _, rfl⟩
    | object kvs => exact ⟨_, .self _, rfl⟩
    | _ => cases h
  | succ n ih =>
    cases v with
    | array vs =>
      obtain ⟨v, hv, hlt⟩ := lt_nestingItems.mp (Nat.lt_of_succ_lt_succ h)
      obtain ⟨c, hinside, hc⟩ := ih hlt
      exact ⟨c, .item hv hinside, hc⟩
    | object kvs =>
      obtain ⟨⟨key, v⟩, hv, hlt⟩ := lt_nestingMembers.mp (Nat.lt_of_succ_lt_succ h)
      obtain ⟨c, hinside, hc⟩ := ih hlt
      exact ⟨c, .member hv hinside, hc⟩
    | _ => cases h

/-- The nesting is the number of containers that a container is inside of, itself counted. -/
theorem lt_nesting_iff {v : JsonTree} {n : ℕ} :
    n < v.nesting ↔ ∃ c, Inside v n c ∧ c.isContainer = true :=
  ⟨exists_inside_of_lt_nesting, fun ⟨_, h, hc⟩ => h.lt_nesting hc⟩

/-- A value is inside at most as many containers as nest. -/
theorem Inside.le_nesting {v x : JsonTree} {n : ℕ} (h : Inside v n x) : n ≤ v.nesting := by
  induction h with
  | self v => exact Nat.zero_le _
  | @item vs v n x hv _ ih =>
    rw [nesting, Nat.succ_le_succ_iff]
    cases n with
    | zero => exact Nat.zero_le _
    | succ n => exact Nat.succ_le_of_lt (lt_nestingItems.mpr ⟨v, hv, ih⟩)
  | @member kvs key v n x hv _ ih =>
    rw [nesting, Nat.succ_le_succ_iff]
    cases n with
    | zero => exact Nat.zero_le _
    | succ n => exact Nat.succ_le_of_lt (lt_nestingMembers.mpr ⟨(key, v), hv, ih⟩)

mutual

/-- No constant occurs. -/
def Standard : JsonTree → Prop
  | .constant _ => False
  | .array items => StandardItems items
  | .object members => StandardMembers members
  | _ => True

def StandardItems : List JsonTree → Prop
  | [] => True
  | v :: vs => v.Standard ∧ StandardItems vs

def StandardMembers : List (PyStr × JsonTree) → Prop
  | [] => True
  | (_, v) :: kvs => v.Standard ∧ StandardMembers kvs

end

mutual

/-- No object at any level has a repeated key. -/
def KeysNodup : JsonTree → Prop
  | .array items => KeysNodupItems items
  | .object members => (members.map (·.1)).Nodup ∧ KeysNodupMembers members
  | _ => True

def KeysNodupItems : List JsonTree → Prop
  | [] => True
  | v :: vs => v.KeysNodup ∧ KeysNodupItems vs

def KeysNodupMembers : List (PyStr × JsonTree) → Prop
  | [] => True
  | (_, v) :: kvs => v.KeysNodup ∧ KeysNodupMembers kvs

end

mutual

/-- Every number satisfies a predicate. -/
def AllNumbers (p : JsonNumber → Prop) : JsonTree → Prop
  | .number n => p n
  | .array items => AllNumbersItems p items
  | .object members => AllNumbersMembers p members
  | _ => True

def AllNumbersItems (p : JsonNumber → Prop) : List JsonTree → Prop
  | [] => True
  | v :: vs => v.AllNumbers p ∧ AllNumbersItems p vs

def AllNumbersMembers (p : JsonNumber → Prop) : List (PyStr × JsonTree) → Prop
  | [] => True
  | (_, v) :: kvs => v.AllNumbers p ∧ AllNumbersMembers p kvs

end

end JsonTree

namespace JsonGrammar

/-- The whitespace of the grammar. -/
def isWs (c : Char) : Bool := c = ' ' || c = '\t' || c = '\n' || c = '\r'

/-- A text of whitespace. -/
def Ws (cs : List Char) : Prop := ∀ c ∈ cs, isWs c = true

/-- A text of digits. -/
def Digits (cs : List Char) : Prop := ∀ c ∈ cs, c.isDigit = true

/-- The number that decimal digits write. -/
def digitsValue (ds : List Char) : ℕ := ds.foldl (fun n d => 10 * n + (d.toNat - 48)) 0

/-! ## Numbers -/

inductive IntText : List Char → Prop
  | zero : IntText ['0']
  | pos {c ds} (hc : c.isDigit = true) (hne : c ≠ '0') (hds : Digits ds) : IntText (c :: ds)

inductive FractionText : List Char → Option (List Char) → Prop
  | absent : FractionText [] none
  | digits {ds} (hne : ds ≠ []) (hds : Digits ds) : FractionText ('.' :: ds) (some ds)

inductive ExponentText : List Char → Option ℤ → Prop
  | absent : ExponentText [] none
  | unsigned {e ds} (he : e = 'e' ∨ e = 'E') (hne : ds ≠ []) (hds : Digits ds) :
      ExponentText (e :: ds) (some (digitsValue ds))
  | plus {e ds} (he : e = 'e' ∨ e = 'E') (hne : ds ≠ []) (hds : Digits ds) :
      ExponentText (e :: '+' :: ds) (some (digitsValue ds))
  | minus {e ds} (he : e = 'e' ∨ e = 'E') (hne : ds ≠ []) (hds : Digits ds) :
      ExponentText (e :: '-' :: ds) (some (-digitsValue ds))

/-- The optional sign of a number. -/
inductive SignText : List Char → Bool → Prop
  | absent : SignText [] false
  | minus : SignText ['-'] true

inductive NumberText : List Char → JsonNumber → Prop
  | mk {s i f e negative fraction exponent} (hs : SignText s negative) (hi : IntText i)
      (hf : FractionText f fraction) (he : ExponentText e exponent) :
      NumberText (s ++ (i ++ (f ++ e))) ⟨negative, i, fraction, exponent⟩

/-! ## Strings -/

/-- The value of a hexadecimal digit. -/
def hexDigit? (c : Char) : Option ℕ :=
  if '0' ≤ c ∧ c ≤ '9' then some (c.toNat - 48)
  else if 'a' ≤ c ∧ c ≤ 'f' then some (c.toNat - 87)
  else if 'A' ≤ c ∧ c ≤ 'F' then some (c.toNat - 55)
  else none

/-- The code unit of a `\u` escape. -/
def hex4? (a b c d : Char) : Option ℕ := do
  return 4096 * (← hexDigit? a) + 256 * (← hexDigit? b) + 16 * (← hexDigit? c) + (← hexDigit? d)

/-- The code point of a short escape. -/
def escape? : Char → Option ℕ
  | '"' => some 34
  | '\\' => some 92
  | '/' => some 47
  | 'b' => some 8
  | 'f' => some 12
  | 'n' => some 10
  | 'r' => some 13
  | 't' => some 9
  | _ => none

/-- The characters of a string that stand for themselves. -/
def isPlain (c : Char) : Bool := c ≠ '"' && c ≠ '\\' && 32 ≤ c.toNat

/-- The text between the quotes of a string, and the units it writes. -/
inductive CharsText : List Char → List ℕ → Prop
  | nil : CharsText [] []
  | plain {c cs units} (hc : isPlain c = true) (h : CharsText cs units) :
      CharsText (c :: cs) (c.toNat :: units)
  | escape {c u cs units} (hc : escape? c = some u) (h : CharsText cs units) :
      CharsText ('\\' :: c :: cs) (u :: units)
  | unicode {a b c d u cs units} (hu : hex4? a b c d = some u) (h : CharsText cs units) :
      CharsText ('\\' :: 'u' :: a :: b :: c :: d :: cs) (u :: units)

/-- A high surrogate joins with a low one that follows it. -/
def joinSurrogates : List ℕ → PyStr
  | h :: l :: units =>
    if 0xD800 ≤ h ∧ h ≤ 0xDBFF ∧ 0xDC00 ≤ l ∧ l ≤ 0xDFFF then
      (0x10000 + (h - 0xD800) * 0x400 + (l - 0xDC00)) :: joinSurrogates units
    else h :: joinSurrogates (l :: units)
  | units => units

/-! ## Values -/

/-- The text of a constant. -/
def constantText : JsonConstant → List Char
  | .nan => ['N', 'a', 'N']
  | .infinity => ['I', 'n', 'f', 'i', 'n', 'i', 't', 'y']
  | .negInfinity => ['-', 'I', 'n', 'f', 'i', 'n', 'i', 't', 'y']

/-- What a text derives: a value, the items between brackets, or the members between braces. -/
inductive Item
  | value (v : JsonTree)
  | items (vs : List JsonTree)
  | members (kvs : List (PyStr × JsonTree))

/-- **The grammar.** -/
inductive Derives : List Char → Item → Prop
  | null : Derives ['n', 'u', 'l', 'l'] (.value .null)
  | true : Derives ['t', 'r', 'u', 'e'] (.value (.bool Bool.true))
  | false : Derives ['f', 'a', 'l', 's', 'e'] (.value (.bool Bool.false))
  | constant (c : JsonConstant) : Derives (constantText c) (.value (.constant c))
  | number {cs n} (h : NumberText cs n) : Derives cs (.value (.number n))
  | string {cs units} (h : CharsText cs units) :
      Derives ('"' :: (cs ++ ['"'])) (.value (.string (joinSurrogates units)))
  | emptyArray {w} (hw : Ws w) : Derives ('[' :: (w ++ [']'])) (.value (.array []))
  | array {cs vs} (h : Derives cs (.items vs)) :
      Derives ('[' :: (cs ++ [']'])) (.value (.array vs))
  | emptyObject {w} (hw : Ws w) : Derives ('\x7b' :: (w ++ ['\x7d'])) (.value (.object []))
  | object {cs kvs} (h : Derives cs (.members kvs)) :
      Derives ('\x7b' :: (cs ++ ['\x7d'])) (.value (.object kvs))
  | lastItem {w cs w' v} (hw : Ws w) (hv : Derives cs (.value v)) (hw' : Ws w') :
      Derives (w ++ (cs ++ w')) (.items [v])
  | nextItem {w cs w' cs' v vs} (hw : Ws w) (hv : Derives cs (.value v)) (hw' : Ws w')
      (hrest : Derives cs' (.items vs)) :
      Derives (w ++ (cs ++ (w' ++ ',' :: cs'))) (.items (v :: vs))
  | lastMember {w ks units w₁ w₂ cs w₃ v} (hw : Ws w) (hk : CharsText ks units) (hw₁ : Ws w₁)
      (hw₂ : Ws w₂) (hv : Derives cs (.value v)) (hw₃ : Ws w₃) :
      Derives (w ++ '"' :: (ks ++ '"' :: (w₁ ++ ':' :: (w₂ ++ (cs ++ w₃)))))
        (.members [(joinSurrogates units, v)])
  | nextMember {w ks units w₁ w₂ cs w₃ cs' v kvs} (hw : Ws w) (hk : CharsText ks units)
      (hw₁ : Ws w₁) (hw₂ : Ws w₂) (hv : Derives cs (.value v)) (hw₃ : Ws w₃)
      (hrest : Derives cs' (.members kvs)) :
      Derives (w ++ '"' :: (ks ++ '"' :: (w₁ ++ ':' :: (w₂ ++ (cs ++ (w₃ ++ ',' :: cs'))))))
        (.members ((joinSurrogates units, v) :: kvs))

/-- What may stand between the opening bracket of an array and an item. -/
inductive BeforeItem : List Char → Prop
  | first {w} (hw : Ws w) : BeforeItem w
  | next {cs vs w} (h : Derives cs (.items vs)) (hw : Ws w) : BeforeItem (cs ++ ',' :: w)

/-- The key of a member, up to where its value may start. -/
inductive KeyText : List Char → Prop
  | mk {w ks units w₁ w₂} (hw : Ws w) (hk : CharsText ks units) (hw₁ : Ws w₁) (hw₂ : Ws w₂) :
      KeyText (w ++ '"' :: (ks ++ '"' :: (w₁ ++ ':' :: w₂)))

/-- What may stand between the opening brace of an object and the value of a member. -/
inductive BeforeMember : List Char → Prop
  | first {k} (hk : KeyText k) : BeforeMember k
  | next {cs kvs k} (h : Derives cs (.members kvs)) (hk : KeyText k) : BeforeMember (cs ++ ',' :: k)

/-- The containers that are open where a value may start, by the text before it: what a parser that
reads from the left has open there, as long as it has met no syntax error. -/
inductive Opened : ℕ → List Char → Prop
  | start {w} (hw : Ws w) : Opened 0 w
  | array {n pre cs} (h : Opened n pre) (hcs : BeforeItem cs) : Opened (n + 1) (pre ++ '[' :: cs)
  | object {n pre cs} (h : Opened n pre) (hcs : BeforeMember cs) :
      Opened (n + 1) (pre ++ '\x7b' :: cs)

/-- A whole text: one value between whitespace. -/
def Text (cs : List Char) (v : JsonTree) : Prop :=
  ∃ w cs' w', Ws w ∧ Derives cs' (.value v) ∧ Ws w' ∧ cs = w ++ (cs' ++ w')

end JsonGrammar
