import RouteLLM.Lib.Json.Grammar

/-!
# The JSON decoder

The decoder of Python's `json` module up to the building of values: it returns a syntax tree, from
which the hooks of a call build the result. A container enters a recursive call; a decoder that may
enter `depth` more of them raises `RecursionError` at a container below that (`DecodeError.recursion`).
The functions recurse on a fuel, which `decode` gives as twice the length of the text.
-/

namespace JsonParser

open JsonGrammar

/-- Why a text has no tree. -/
inductive DecodeError
  | syntax_ | recursion
  deriving DecidableEq

def skipWs (cs : List Char) : List Char := cs.dropWhile isWs

/-- The integer part of a number. -/
def scanInteger : List Char → Option (List Char × List Char)
  | [] => none
  | c :: cs =>
    if c = '0' then some (['0'], cs)
    else if c.isDigit then some (c :: cs.takeWhile Char.isDigit, cs.dropWhile Char.isDigit)
    else none

/-- The fraction, where a point is followed by a digit. -/
def scanFraction : List Char → Option (List Char) × List Char
  | [] => (none, [])
  | c :: cs =>
    if c = '.' ∧ cs.takeWhile Char.isDigit ≠ [] then
      (some (cs.takeWhile Char.isDigit), cs.dropWhile Char.isDigit)
    else (none, c :: cs)

/-- The sign of an exponent. -/
def scanExponentSign : List Char → Bool × List Char
  | [] => (false, [])
  | c :: cs => if c = '-' then (true, cs) else if c = '+' then (false, cs) else (false, c :: cs)

/-- The exponent, where its letter is followed by digits. -/
def scanExponent : List Char → Option ℤ × List Char
  | [] => (none, [])
  | c :: cs =>
    let (negative, ds) := scanExponentSign cs
    if (c = 'e' ∨ c = 'E') ∧ ds.takeWhile Char.isDigit ≠ [] then
      let n : ℤ := digitsValue (ds.takeWhile Char.isDigit)
      (some (if negative then -n else n), ds.dropWhile Char.isDigit)
    else (none, c :: cs)

/-- A number after its sign. -/
def scanUnsigned (negative : Bool) (cs : List Char) : Option (JsonNumber × List Char) := do
  let (integer, cs) ← scanInteger cs
  let (fraction, cs) := scanFraction cs
  let (exponent, cs) := scanExponent cs
  return (⟨negative, integer, fraction, exponent⟩, cs)

/-- The longest number at the start of a text. -/
def scanNumber : List Char → Option (JsonNumber × List Char)
  | [] => none
  | c :: cs => if c = '-' then scanUnsigned true cs else scanUnsigned false (c :: cs)

/-- The units of a string up to its closing quote. -/
def scanChars : List Char → Option (List ℕ × List Char)
  | [] => none
  | c :: cs =>
    if c = '"' then some ([], cs)
    else if c = '\\' then
      match cs with
      | 'u' :: a :: b :: c :: d :: cs => do
        let u ← hex4? a b c d
        let (units, rest) ← scanChars cs
        return (u :: units, rest)
      | c :: cs => do
        let u ← escape? c
        let (units, rest) ← scanChars cs
        return (u :: units, rest)
      | [] => none
    else if isPlain c then do
      let (units, rest) ← scanChars cs
      return (c.toNat :: units, rest)
    else none

/-- The literal names of the decoder. -/
def keywords : List (List Char × JsonTree) :=
  [(['n', 'u', 'l', 'l'], .null), (['t', 'r', 'u', 'e'], .bool true),
    (['f', 'a', 'l', 's', 'e'], .bool false),
    (constantText .nan, .constant .nan), (constantText .infinity, .constant .infinity),
    (constantText .negInfinity, .constant .negInfinity)]

def scanKeyword (cs : List Char) : Option (JsonTree × List Char) :=
  keywords.findSome? fun (text, v) => (cs.dropPrefix? text).map (v, ·)

/-- A scalar other than a string. -/
def scanScalar (cs : List Char) : Except DecodeError (JsonTree × List Char) :=
  match scanKeyword cs with
  | some result => .ok result
  | none =>
    match scanNumber cs with
    | some (n, rest) => .ok (.number n, rest)
    | none => .error .syntax_

/-- A container after its opening bracket, which enters a recursive call. -/
def container {α : Type} (close : Char) (mk : List α → JsonTree)
    (parse : ℕ → List Char → Except DecodeError (List α × List Char)) :
    ℕ → List Char → Except DecodeError (JsonTree × List Char)
  | 0, _ => .error .recursion
  | depth + 1, cs =>
    if (skipWs cs).head? = some close then .ok (mk [], (skipWs cs).tail)
    else do
      let (xs, rest) ← parse depth cs
      return (mk xs, rest)

/-- What follows an element of a container: its end, or a comma and the elements that are left. -/
def elementTail {α : Type} (close : Char) (x : α)
    (parse : List Char → Except DecodeError (List α × List Char)) (cs : List Char) :
    Except DecodeError (List α × List Char) :=
  match skipWs cs with
  | [] => .error .syntax_
  | c :: cs =>
    if c = close then .ok ([x], cs)
    else if c = ',' then do
      let (xs, rest) ← parse cs
      return (x :: xs, rest)
    else .error .syntax_

/-- The key of a member and the colon after it. -/
def memberKey (cs : List Char) : Except DecodeError (PyStr × List Char) :=
  match skipWs cs with
  | '"' :: cs =>
    match scanChars cs with
    | none => .error .syntax_
    | some (units, rest) =>
      match skipWs rest with
      | ':' :: rest => .ok (joinSurrogates units, rest)
      | _ => .error .syntax_
  | _ => .error .syntax_

mutual

/-- A value at the start of a text. -/
def parseValue : ℕ → ℕ → List Char → Except DecodeError (JsonTree × List Char)
  | 0, _, _ => .error .syntax_
  | _ + 1, _, [] => .error .syntax_
  | fuel + 1, depth, c :: cs =>
    if c = '"' then
      match scanChars cs with
      | some (units, rest) => .ok (.string (joinSurrogates units), rest)
      | none => .error .syntax_
    else if c = '[' then container ']' .array (parseItems fuel) depth cs
    else if c = '\x7b' then container '\x7d' .object (parseMembers fuel) depth cs
    else scanScalar (c :: cs)

/-- The items of an array, with its closing bracket. -/
def parseItems : ℕ → ℕ → List Char → Except DecodeError (List JsonTree × List Char)
  | 0, _, _ => .error .syntax_
  | fuel + 1, depth, cs => do
    let (v, rest) ← parseValue fuel depth (skipWs cs)
    elementTail ']' v (parseItems fuel depth) rest

/-- The members of an object, with its closing brace. -/
def parseMembers : ℕ → ℕ → List Char →
    Except DecodeError (List (PyStr × JsonTree) × List Char)
  | 0, _, _ => .error .syntax_
  | fuel + 1, depth, cs => do
    let (key, rest) ← memberKey cs
    let (v, rest) ← parseValue fuel depth (skipWs rest)
    elementTail '\x7d' (key, v) (parseMembers fuel depth) rest

end

/-- `json.loads` up to its hooks: one value between whitespace, and nothing after it. -/
def decode (depth : ℕ) (cs : List Char) : Except DecodeError JsonTree := do
  let (v, rest) ← parseValue (2 * cs.length + 1) depth (skipWs cs)
  if skipWs rest = [] then .ok v else .error .syntax_

example : (decode 8 "[1, \x7b\"a\": -0.5e+3\x7d]".toList).isOk = true := by decide +kernel

end JsonParser
