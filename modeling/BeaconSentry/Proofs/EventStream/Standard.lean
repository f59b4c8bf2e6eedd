import BeaconSentry.Proofs.EventStream.Chunks
import BeaconSentry.Proofs.Text.Utf8Machine
import Mathlib.Data.List.DropRight

/-!
This module contains the interpretation of event streams as the HTML Standard has it, and that a stream is read in this
way if it keeps clear of the few things that are read in another way.
-/

namespace BeaconSentry
namespace EventStream

/-- An event as the standard dispatches it. The last id is empty until one is given. -/
structure Message where
  type : String
  data : String
  lastId : String
  deriving Repr, DecidableEq

namespace Standard

/-- The characters of a stream, without a mark of the byte order in front. -/
def decode : List UInt8 → List Char
  | 0xef :: 0xbb :: 0xbf :: bytes => Utf8.chars bytes
  | bytes => Utf8.chars bytes

/--
The lines of a stream after what was read of the first one, which is in reverse. A line ends with a carriage return and
a line feed, or with one of them. What no such end follows cannot dispatch an event.
-/
def lines (line : List Char) : List Char → List (List Char)
  | [] => []
  | '\r' :: '\n' :: cs => line.reverse :: lines [] cs
  | '\r' :: cs => line.reverse :: lines [] cs
  | '\n' :: cs => line.reverse :: lines [] cs
  | c :: cs => lines (c :: line) cs

/-- The name and the value of a field. A line without a colon is a name, and a value loses one space in front. -/
def fieldOf (line : List Char) : List Char × List Char :=
  if ':' ∈ line then
    let value := (line.dropWhile (· != ':')).tail
    (line.takeWhile (· != ':'), if value.head? = some ' ' then value.tail else value)
  else (line, [])

structure Buffers where
  data : List Char
  type : List Char
  lastId : List Char
  deriving Repr, DecidableEq

namespace Buffers

def start : Buffers := ⟨[], [], []⟩

def dispatch (buffers : Buffers) : Buffers × Option Message :=
  if buffers.data = [] then ({ buffers with data := [], type := [] }, none)
  else
    let data := if buffers.data.getLast? = some '\n' then buffers.data.dropLast else buffers.data
    let type := if buffers.type = [] then "message" else String.ofList buffers.type
    ({ buffers with data := [], type := [] }, some ⟨type, String.ofList data, String.ofList buffers.lastId⟩)

/-- The time between attempts to connect is no part of the events, so a field that sets it is passed over, too. -/
def field (buffers : Buffers) (name value : List Char) : Buffers :=
  if name = "event".toList then { buffers with type := value }
  else if name = "data".toList then { buffers with data := buffers.data ++ value ++ ['\n'] }
  else if name = "id".toList then
    if '\x00' ∈ value then buffers else { buffers with lastId := value }
  else buffers

def line (buffers : Buffers) (line : List Char) : Buffers × Option Message :=
  if line = [] then buffers.dispatch
  else if line.head? = some ':' then (buffers, none)
  else (buffers.field (fieldOf line).1 (fieldOf line).2, none)

def interpret (buffers : Buffers) : List (List Char) → List Message
  | [] => []
  | line :: rest => (buffers.line line).2.toList ++ (buffers.line line).1.interpret rest

end Buffers

def messages (bytes : List UInt8) : List Message := Buffers.start.interpret (lines [] (decode bytes))

/-- A line feed comes after each carriage return. -/
def Paired (bytes : List UInt8) : Prop := ∀ i < bytes.length, bytes[i]? = some 13 → bytes[i + 1]? = some 10

instance (bytes : List UInt8) : Decidable (Paired bytes) := inferInstanceAs (Decidable (∀ i < bytes.length, _ → _))

/--
A stream without what is read in another way: a mark of the byte order, a carriage return that no line feed follows, an
id with a null character, and an empty type.
-/
structure Plain (bytes : List UInt8) : Prop where
  mark : ¬[0xef, 0xbb, 0xbf] <+: bytes
  paired : Paired bytes
  ids : ∀ line ∈ lines [] (decode bytes), (fieldOf line).1 = "id".toList → '\x00' ∉ (fieldOf line).2
  types : ∀ line ∈ lines [] (decode bytes), (fieldOf line).1 = "event".toList → (fieldOf line).2 ≠ []

section Lines

theorem decode_of_not_prefix {bytes : List UInt8} (h : ¬[0xef, 0xbb, 0xbf] <+: bytes)
    : decode bytes = Utf8.chars bytes := by
  unfold decode
  split
  next bytes => exact absurd (List.prefix_append _ bytes) h
  next => rfl

theorem lines_append {xs : List Char} (hreturn : '\r' ∉ xs) (hfeed : '\n' ∉ xs) (line cs : List Char)
    : lines line (xs ++ cs) = lines (xs.reverse ++ line) cs := by
  induction xs generalizing line with
  | nil => rfl
  | cons x xs ih =>
    rw [List.mem_cons, not_or] at hreturn hfeed
    have hstep : lines line (x :: (xs ++ cs)) = lines (x :: line) (xs ++ cs) :=
      lines.eq_5 _ _ _ (fun _ h _ => hreturn.1 h.symm) (fun h => hreturn.1 h.symm) (fun h => hfeed.1 h.symm)
    rw [List.cons_append, hstep, ih hreturn.2 hfeed.2, List.reverse_cons, List.append_assoc]
    rfl

theorem lineFeed_not_mem_chars {bytes : List UInt8} (h : 10 ∉ bytes) : '\n' ∉ Utf8.chars bytes := fun hmem =>
  h (@Utf8.mem_of_mem_chars bytes 10 (by decide) (by decide) hmem)

theorem return_not_mem_chars {bytes : List UInt8} (h : 13 ∉ bytes) : '\r' ∉ Utf8.chars bytes := fun hmem =>
  h (@Utf8.mem_of_mem_chars bytes 13 (by decide) (by decide) hmem)

theorem chars_lineFeed (xs ys : List UInt8) : Utf8.chars (xs ++ 10 :: ys) = Utf8.chars xs ++ '\n' :: Utf8.chars ys :=
  Utf8.chars_append_ascii (by decide) xs ys

theorem chars_return (xs ys : List UInt8) : Utf8.chars (xs ++ 13 :: ys) = Utf8.chars xs ++ '\r' :: Utf8.chars ys :=
  Utf8.chars_append_ascii (by decide) xs ys

variable {body : List UInt8}

theorem lineText_of_not_mem (h : 13 ∉ body) : lineText body = Utf8.chars body := by
  show List.rdropWhile (· == '\r') (Utf8.decodeLossy body).toList = Utf8.chars body
  rw [Utf8.toList_decodeLossy, List.rdropWhile_eq_self_iff]
  intro hne hlast
  exact return_not_mem_chars h (beq_iff_eq.mp hlast ▸ List.getLast_mem hne)

theorem lineText_return (h : 13 ∉ body) : lineText (body ++ [13]) = Utf8.chars body := by
  rw [← lineText_of_not_mem h]
  show List.rdropWhile (· == '\r') (Utf8.decodeLossy (body ++ [13])).toList
    = List.rdropWhile (· == '\r') (Utf8.decodeLossy body).toList
  rw [Utf8.toList_decodeLossy, Utf8.toList_decodeLossy, chars_return]
  exact List.rdropWhile_concat_pos _ _ _ rfl

theorem cutLines_append_cons {xs : List UInt8} (h : 10 ∉ xs) (ys : List UInt8)
    : cutLines (xs ++ 10 :: ys) = (xs :: (cutLines ys).1, (cutLines ys).2) := by
  induction xs with
  | nil => rfl
  | cons x xs ih =>
    rw [List.mem_cons, not_or] at h
    exact cutLines_cons_of_cons (Ne.symm h.1) (ih h.2)

theorem lines_body (hreturn : 13 ∉ body) (hfeed : 10 ∉ body) (cs : List Char)
    : lines [] (Utf8.chars body ++ cs) = lines (Utf8.chars body).reverse cs := by
  rw [lines_append (return_not_mem_chars hreturn) (lineFeed_not_mem_chars hfeed), List.append_nil]

/-- A line feed, or a carriage return and a line feed, ends the first line. -/
theorem lines_cons {line : List UInt8} (hreturn : 13 ∉ body) (hfeed : 10 ∉ body) (h : line = body ∨ line = body ++ [13])
    (bytes : List UInt8)
    : lines [] (Utf8.chars (line ++ 10 :: bytes)) = lineText line :: lines [] (Utf8.chars bytes) := by
  rcases h with rfl | rfl
  . rw [lineText_of_not_mem hreturn, chars_lineFeed, lines_body hreturn hfeed, lines, List.reverse_reverse]
  . rw [lineText_return hreturn, chars_lineFeed, chars_return, List.append_assoc, lines_body hreturn hfeed]
    show (Utf8.chars body).reverse.reverse :: _ = _
    rw [List.reverse_reverse]

theorem Paired.exists_cons {before after : List UInt8} (h : Paired (before ++ 13 :: after))
    : ∃ rest, after = 10 :: rest := by
  have hnext := h before.length (by rw [List.length_append, List.length_cons]; omega)
  rw [List.getElem?_append_right (Nat.le_refl _), Nat.sub_self, List.getElem?_append_right (Nat.le_add_right _ 1),
    Nat.add_sub_cancel_left, List.getElem?_cons_succ] at hnext
  cases after with
  | nil => cases hnext rfl
  | cons b rest =>
    cases hnext rfl
    exact ⟨rest, rfl⟩

theorem Paired.of_append {before after : List UInt8} (h : Paired (before ++ after)) : Paired after := by
  intro i hi
  have hshifted := h (before.length + i) (by rw [List.length_append]; omega)
  rwa [Nat.add_assoc, List.getElem?_append_right (Nat.le_add_right ..), List.getElem?_append_right (Nat.le_add_right ..),
    Nat.add_sub_cancel_left, Nat.add_sub_cancel_left] at hshifted

/-- A carriage return is at most the last byte of a line. -/
theorem exists_body {line bytes : List UInt8} (hline : 10 ∉ line) (h : Paired (line ++ 10 :: bytes))
    : ∃ body, 13 ∉ body ∧ 10 ∉ body ∧ (line = body ∨ line = body ++ [13]) := by
  by_cases hreturn : 13 ∈ line
  . obtain ⟨body, after, rfl, hbody⟩ := List.eq_append_cons_of_mem hreturn
    rw [List.mem_append, List.mem_cons, not_or, not_or] at hline
    rw [List.append_assoc, List.cons_append] at h
    obtain ⟨rest, hrest⟩ := h.exists_cons
    cases after with
    | nil => exact ⟨body, hbody, hline.1, .inr rfl⟩
    | cons b after =>
      cases hrest
      exact absurd List.mem_cons_self hline.2.2
  . exact ⟨line, hreturn, hline, .inl rfl⟩

/-- The lines that are cut off at line feeds are those of the standard, if no carriage return stands alone. -/
theorem map_lineText_cutLines {bytes : List UInt8} (h : Paired bytes)
    : (cutLines bytes).1.map lineText = lines [] (Utf8.chars bytes) := by
  induction hlength : bytes.length using Nat.strong_induction_on generalizing bytes with
  | h length ih =>
    by_cases hmem : 10 ∈ bytes
    . obtain ⟨line, rest, rfl, hline⟩ := List.eq_append_cons_of_mem hmem
      obtain ⟨body, hreturn, hfeed, hbody⟩ := exists_body hline h
      have hshorter : rest.length < length := by
        rw [← hlength, List.length_append, List.length_cons]
        omega
      have hrest : Paired rest := by
        rw [List.append_cons] at h
        exact h.of_append
      rw [cutLines_append_cons hline, List.map_cons, ih _ hshorter hrest rfl, lines_cons hreturn hfeed hbody]
    . have hreturn : 13 ∉ bytes := fun hreturn => by
        obtain ⟨before, after, rfl, _⟩ := List.eq_append_cons_of_mem hreturn
        obtain ⟨rest, rfl⟩ := h.exists_cons
        exact hmem (List.mem_append_right _ (List.mem_cons_of_mem _ List.mem_cons_self))
      have hlines := lines_body hreturn hmem []
      rw [List.append_nil] at hlines
      rw [cutLines_of_not_mem hmem, hlines]
      rfl

end Lines

section Fields

theorem dropWhile_colon {line : List Char} (h : ':' ∈ line) : ∃ rest, line.dropWhile (· != ':') = ':' :: rest := by
  obtain ⟨name, rest, rfl, hname⟩ := List.eq_append_cons_of_mem h
  refine ⟨rest, ?_⟩
  rw [List.dropWhile_append_of_pos fun c hc => bne_iff_ne.mpr (ne_of_mem_of_not_mem hc hname)]
  rfl

theorem splitField_eq (line : List Char)
    : splitField line = (String.ofList (fieldOf line).1, String.ofList (fieldOf line).2) := by
  unfold splitField fieldOf
  by_cases hcolon : ':' ∈ line
  . obtain ⟨rest, hrest⟩ := dropWhile_colon hcolon
    rw [if_pos hcolon, hrest]
    match rest with
    | [] => rfl
    | c :: rest =>
      by_cases hc : c = ' '
      . subst hc
        rfl
      . simp [hc]
  . have hname : ∀ c ∈ line, (c != ':') = true := fun c hc => bne_iff_ne.mpr (ne_of_mem_of_not_mem hc hcolon)
    rw [if_neg hcolon, List.dropWhile_eq_nil_iff.mpr hname, List.takeWhile_eq_self_iff.mpr hname]

end Fields

/-- An event of a stream as the standard dispatches it. -/
def message (event : ServerEvent) : Message := ⟨event.event, event.data, event.id.getD ""⟩

/-- The stream remembers what the buffers do. The data lines stand in the buffer, each with a line feed after it. -/
structure Simulates (stream : EventStream) (buffers : Buffers) : Prop where
  data : buffers.data = stream.data.flatMap fun line => line.toList ++ ['\n']
  type : buffers.type = (stream.event.getD "").toList
  named : stream.event ≠ some ""
  lastId : buffers.lastId = (stream.id.getD "").toList

section Dispatch

/-- The buffer is the joined lines and one more line feed. -/
theorem flatMap_eq_intercalate {lines : List String} (h : lines ≠ [])
    : (lines.flatMap fun line => line.toList ++ ['\n']) = ("\n".intercalate lines).toList ++ ['\n'] := by
  induction lines with
  | nil => exact absurd rfl h
  | cons first rest ih =>
    cases rest with
    | nil => rw [String.intercalate_singleton, List.flatMap_singleton]
    | cons second rest =>
      rw [List.flatMap_cons, ih (List.cons_ne_nil _ _), String.intercalate_cons_cons, String.toList_append,
        String.toList_append, List.append_assoc, List.append_assoc, List.append_assoc]
      rfl

variable {stream : EventStream} {buffers : Buffers}

theorem Simulates.getD_event (h : Simulates stream buffers)
    : (if buffers.type = [] then "message" else String.ofList buffers.type) = stream.event.getD "message" := by
  rw [h.type]
  cases hevent : stream.event with
  | none => rfl
  | some event =>
    have hne : event ≠ "" := fun heq => h.named (hevent.trans (congrArg some heq))
    have hlist : event.toList ≠ [] := fun heq => hne (String.toList_eq_nil_iff.mp heq)
    rw [Option.getD_some, if_neg hlist, String.ofList_toList, Option.getD_some]

theorem Simulates.dispatch (h : Simulates stream buffers)
    : Simulates stream.dispatch.1 buffers.dispatch.1 ∧ stream.dispatch.2.map message = buffers.dispatch.2 := by
  have hcleared : Simulates { stream with event := none, data := [] } { buffers with data := [], type := [] } :=
    ⟨rfl, rfl, nofun, h.lastId⟩
  by_cases hdata : stream.data = []
  . have hbuffer : buffers.data = [] := by rw [h.data, hdata, List.flatMap_nil]
    rw [EventStream.dispatch, Buffers.dispatch, if_pos hbuffer, hdata]
    exact ⟨hcleared, rfl⟩
  . have hbuffer := h.data.trans (flatMap_eq_intercalate hdata)
    have hne : buffers.data ≠ [] := by
      rw [hbuffer]
      exact List.append_ne_nil_of_right_ne_nil _ (List.cons_ne_nil _ _)
    have hempty : ¬stream.data.isEmpty = true := fun heq => hdata (List.isEmpty_iff.mp heq)
    rw [EventStream.dispatch, Buffers.dispatch, if_neg hne, if_neg hempty]
    refine ⟨hcleared, ?_⟩
    dsimp only
    rw [h.getD_event, hbuffer, h.lastId, List.getLast?_concat, if_pos rfl, List.dropLast_concat, String.ofList_toList,
      String.ofList_toList]
    rfl

end Dispatch

section Run

variable {stream : EventStream} {buffers : Buffers}

theorem Simulates.field {name value : List Char} (h : Simulates stream buffers)
    (hid : name = "id".toList → '\x00' ∉ value) (htype : name = "event".toList → value ≠ [])
    : Simulates (stream.field (String.ofList name) (String.ofList value)) (buffers.field name value) := by
  have hname (s : String) : (String.ofList name == s) = true ↔ name = s.toList := by
    rw [beq_iff_eq, ← String.toList_inj, String.toList_ofList]
  unfold EventStream.field Buffers.field
  simp only [hname]
  split
  next hevent =>
    have hne : (some (String.ofList value)) ≠ some "" := fun heq =>
      htype hevent (String.ofList_eq_empty_iff.mp (Option.some.inj heq))
    exact ⟨h.data, String.toList_ofList.symm, hne, h.lastId⟩
  next =>
    split
    next =>
      refine ⟨?_, h.type, h.named, h.lastId⟩
      rw [List.flatMap_append, List.flatMap_singleton, String.toList_ofList, ← h.data, List.append_assoc]
    next =>
      split
      next hname =>
        rw [if_neg (hid hname)]
        exact ⟨h.data, h.type, h.named, String.toList_ofList.symm⟩
      next => exact h

/-- A line whose field is neither an id with a null character nor an empty type leads to the same event, if to any. -/
theorem Simulates.line {line : List Char} (h : Simulates stream buffers)
    (hid : (fieldOf line).1 = "id".toList → '\x00' ∉ (fieldOf line).2)
    (htype : (fieldOf line).1 = "event".toList → (fieldOf line).2 ≠ [])
    : Simulates (stream.line line).1 (buffers.line line).1 ∧ (stream.line line).2.map message = (buffers.line line).2 := by
  unfold EventStream.line Buffers.line
  split
  next => exact h.dispatch
  next => exact ⟨h, rfl⟩
  next hempty hcolon =>
    have hhead : line.head? ≠ some ':' := by
      intro hhead
      obtain ⟨rest, rfl⟩ := List.head?_eq_some_iff.mp hhead
      exact hcolon rest rfl
    rw [if_neg hempty, if_neg hhead, splitField_eq]
    exact ⟨h.field hid htype, rfl⟩

/-- From there on all lines lead to the same events. -/
theorem Simulates.interpret {stream : EventStream} {buffers : Buffers} (h : Simulates stream buffers)
    {lines : List (List UInt8)}
    (hids : ∀ line ∈ lines.map lineText, (fieldOf line).1 = "id".toList → '\x00' ∉ (fieldOf line).2)
    (htypes : ∀ line ∈ lines.map lineText, (fieldOf line).1 = "event".toList → (fieldOf line).2 ≠ [])
    : (stream.feedLines lines).2.map message = buffers.interpret (lines.map lineText) := by
  induction lines generalizing stream buffers with
  | nil => rfl
  | cons line rest ih =>
    rw [List.map_cons, List.forall_mem_cons] at hids htypes
    obtain ⟨hnext, hevent⟩ := h.line hids.1 htypes.1
    have hrest := ih hnext hids.2 htypes.2
    rw [feedLines, List.map_cons, Buffers.interpret, ← hevent, ← hrest, List.map_append]
    cases (stream.line (lineText line)).2 <;> rfl

theorem simulates_start : Simulates EventStream.start Buffers.start := ⟨rfl, rfl, nofun, rfl⟩

end Run

/-- The events of such a stream are those that the standard dispatches. -/
theorem map_message_feed {bytes : List UInt8} (h : Plain bytes)
    : (EventStream.start.feed bytes).2.map message = messages bytes := by
  have hdecode := decode_of_not_prefix h.mark
  have hlines : (cutLines bytes).1.map lineText = lines [] (decode bytes) := by
    rw [hdecode, map_lineText_cutLines h.paired]
  have hevents : (EventStream.start.feed bytes).2 = (EventStream.start.feedLines (cutLines bytes).1).2 := by
    rw [feed_eq]
    rfl
  rw [hevents, messages, ← hlines]
  refine simulates_start.interpret ?_ ?_
  . rw [hlines]
    exact h.ids
  . rw [hlines]
    exact h.types

namespace Torn

/-- Lines of all kinds, one with an error in the middle, and a last one that does not end. -/
def bytes : List UInt8 :=
  Utf8.encode ": note\r\nevent: a\nevent:reorg\r\ndata: x" ++ [0xe2, 0x82] ++
    Utf8.encode "\ndata\nid: 7\nretry: 5\r\nother\r\n\r\n\nevent: lost\n\ndata:  é\n\ndata: z\nid\n\ndata: cut\nid: 8"

theorem plain_bytes : Plain bytes :=
  ⟨by decide +kernel, by decide +kernel, by decide +kernel, by decide +kernel⟩

theorem map_message_feed_torn
    : (EventStream.start.feed bytes).2.map message = messages bytes
        ∧ messages bytes = [⟨"reorg", "x\ufffd\n", "7"⟩, ⟨"message", " é", "7"⟩, ⟨"message", "z", ""⟩] :=
  ⟨map_message_feed plain_bytes, by decide +kernel⟩

end Torn
end Standard
end EventStream
end BeaconSentry
