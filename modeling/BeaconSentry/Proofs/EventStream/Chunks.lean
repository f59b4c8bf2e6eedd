import BeaconSentry.EventStream

/-!
This module contains the law of event streams that arrive in chunks: where the bytes are cut changes neither the events
nor what the stream remembers.
-/

namespace BeaconSentry
namespace EventStream

/-- The stream after some chunks. -/
def afterAll (stream : EventStream) (chunks : List (List UInt8)) : EventStream :=
  chunks.foldl (fun stream chunk => (stream.feed chunk).1) stream

theorem cutLines_cons_lineFeed (bytes : List UInt8) :
    cutLines (10 :: bytes) = ([] :: (cutLines bytes).1, (cutLines bytes).2) := rfl

theorem cutLines_cons_of_nil {b : UInt8} {bytes rest : List UInt8} (hb : b ≠ 10) (h : cutLines bytes = ([], rest)) :
    cutLines (b :: bytes) = ([], b :: rest) := by
  simp [cutLines, hb, h]

theorem cutLines_cons_of_cons {b : UInt8} {bytes line rest : List UInt8} {lines : List (List UInt8)} (hb : b ≠ 10)
    (h : cutLines bytes = (line :: lines, rest)) : cutLines (b :: bytes) = ((b :: line) :: lines, rest) := by
  simp [cutLines, hb, h]

/-- The bytes after the last line go on with the next ones. -/
theorem cutLines_append (xs ys : List UInt8) :
    cutLines (xs ++ ys)
      = ((cutLines xs).1 ++ (cutLines ((cutLines xs).2 ++ ys)).1, (cutLines ((cutLines xs).2 ++ ys)).2) := by
  induction xs with
  | nil => rfl
  | cons b xs ih =>
    rw [List.cons_append]
    by_cases hb : b = 10
    . subst hb
      rw [cutLines_cons_lineFeed, cutLines_cons_lineFeed, ih]
      rfl
    . generalize hcut : cutLines xs = cut at ih
      rcases cut with ⟨_ | ⟨line, lines⟩, rest⟩
      . -- No line has ended yet, so the first byte belongs to what the next ones go on with.
        rw [cutLines_cons_of_nil hb hcut, List.cons_append]
        generalize hrest : cutLines (rest ++ ys) = cut at ih
        rcases cut with ⟨_ | ⟨line, lines⟩, rest'⟩
        . rw [cutLines_cons_of_nil hb ih, cutLines_cons_of_nil hb hrest]
          rfl
        . rw [cutLines_cons_of_cons hb ih, cutLines_cons_of_cons hb hrest]
          rfl
      . rw [cutLines_cons_of_cons hb hcut, cutLines_cons_of_cons hb ih]
        rfl

theorem lineFeed_not_mem_cutLines (bytes : List UInt8) : 10 ∉ (cutLines bytes).2 := by
  induction bytes with
  | nil => exact List.not_mem_nil
  | cons b bytes ih =>
    by_cases hb : b = 10
    . subst hb
      exact ih
    . generalize hcut : cutLines bytes = cut at ih
      rcases cut with ⟨_ | _, rest⟩
      . rw [cutLines_cons_of_nil hb hcut, List.mem_cons, not_or]
        exact ⟨Ne.symm hb, ih⟩
      . rw [cutLines_cons_of_cons hb hcut]
        exact ih

theorem cutLines_of_not_mem {bytes : List UInt8} (h : 10 ∉ bytes) : cutLines bytes = ([], bytes) := by
  induction bytes with
  | nil => rfl
  | cons b bytes ih =>
    rw [List.mem_cons, not_or] at h
    exact cutLines_cons_of_nil (Ne.symm h.1) (ih h.2)

/-- The stream with other bytes of a line that has not ended. -/
def withPending (stream : EventStream) (pending : List UInt8) : EventStream := { stream with pending }

@[simp]
theorem pending_withPending (stream : EventStream) (pending : List UInt8) :
    (stream.withPending pending).pending = pending := rfl

@[simp]
theorem withPending_withPending (stream : EventStream) (pending pending' : List UInt8) :
    (stream.withPending pending).withPending pending' = stream.withPending pending' := rfl

theorem dispatch_withPending (stream : EventStream) (pending : List UInt8) :
    (stream.withPending pending).dispatch = (stream.dispatch.1.withPending pending, stream.dispatch.2) := by
  unfold dispatch withPending
  dsimp only
  split <;> rfl

theorem field_withPending (stream : EventStream) (pending : List UInt8) (name value : String) :
    (stream.withPending pending).field name value = (stream.field name value).withPending pending := by
  unfold field
  repeat' split
  all_goals rfl

/-- A line does not look at the bytes of the next one. -/
theorem line_withPending (stream : EventStream) (pending : List UInt8) (text : List Char) :
    (stream.withPending pending).line text = ((stream.line text).1.withPending pending, (stream.line text).2) := by
  unfold line
  split
  . exact dispatch_withPending ..
  . rfl
  . dsimp only
    rw [field_withPending]

theorem feedLines_withPending (stream : EventStream) (pending : List UInt8) (lines : List (List UInt8)) :
    (stream.withPending pending).feedLines lines
      = ((stream.feedLines lines).1.withPending pending, (stream.feedLines lines).2) := by
  induction lines generalizing stream with
  | nil => rfl
  | cons bytes rest ih =>
    rw [feedLines, feedLines, line_withPending]
    dsimp only
    rw [ih]

theorem feedLines_append (stream : EventStream) (xs ys : List (List UInt8)) :
    stream.feedLines (xs ++ ys)
      = (((stream.feedLines xs).1.feedLines ys).1, (stream.feedLines xs).2 ++ ((stream.feedLines xs).1.feedLines ys).2)
    := by
  induction xs generalizing stream with
  | nil => rfl
  | cons bytes rest ih =>
    rw [List.cons_append, feedLines, feedLines]
    dsimp only
    rw [ih, List.append_assoc]

theorem feed_eq (stream : EventStream) (chunk : List UInt8) :
    stream.feed chunk
      = ((stream.feedLines (cutLines (stream.pending ++ chunk)).1).1.withPending (cutLines (stream.pending ++ chunk)).2,
          (stream.feedLines (cutLines (stream.pending ++ chunk)).1).2) :=
  feedLines_withPending ..

theorem lineFeed_not_mem_feed (stream : EventStream) (chunk : List UInt8) : 10 ∉ (stream.feed chunk).1.pending := by
  rw [feed_eq]
  exact lineFeed_not_mem_cutLines _

theorem feed_nil {stream : EventStream} (h : 10 ∉ stream.pending) : stream.feed [] = (stream, []) := by
  rw [feed_eq, List.append_nil, cutLines_of_not_mem h]
  rfl

/-- Bytes can be fed in two parts. -/
theorem feed_append (stream : EventStream) (xs ys : List UInt8) :
    stream.feed (xs ++ ys)
      = (((stream.feed xs).1.feed ys).1, (stream.feed xs).2 ++ ((stream.feed xs).1.feed ys).2) := by
  rw [feed_eq stream, feed_eq stream, feed_eq, ← List.append_assoc, cutLines_append, feedLines_append,
    feedLines_withPending]
  rfl

/--
However bytes are cut into chunks, they lead to the same events and leave the stream in the same state as if they had
arrived at once. Only a stream that already holds the end of a line could tell no chunks from no bytes, and no chunk
leaves it so.
-/
theorem feedAll_flatten (stream : EventStream) (chunks : List (List UInt8))
    (h : chunks ≠ [] ∨ 10 ∉ stream.pending)
    : (stream.afterAll chunks, (stream.feedAll chunks).flatten) = stream.feed chunks.flatten
        ∧ 10 ∉ (stream.afterAll chunks).pending := by
  induction chunks generalizing stream with
  | nil =>
    have h := h.resolve_left fun h => h rfl
    exact ⟨(feed_nil h).symm, h⟩
  | cons chunk rest ih =>
    have ⟨hrest, hpending⟩ := ih (stream.feed chunk).1 (.inr (lineFeed_not_mem_feed stream chunk))
    refine ⟨?_, hpending⟩
    rw [List.flatten_cons, feed_append, ← hrest]
    rfl

/-- The cuts are within a field, within a character, within the end of a line, and on both sides of nothing. -/
theorem feedAll_flatten_of_torn :
    let stream : EventStream := ⟨[0x64], some "reorg", ["one"], some "7"⟩
    let chunks : List (List UInt8) := [[0x61, 0x74], [0x61, 0x3a, 0xc3], [], [0xa9, 0x0d], [0x0a, 0x0d], [0x0a, 0x69]]
    10 ∉ stream.pending ∧ (stream.afterAll chunks, (stream.feedAll chunks).flatten) = stream.feed chunks.flatten
      ∧ stream.feed chunks.flatten = (⟨[0x69], none, [], some "7"⟩, [⟨"reorg", "one\né", some "7"⟩]) := by
  refine ⟨by decide, ?_, by decide +kernel⟩
  exact (feedAll_flatten _ _ (.inr (by decide))).1

end EventStream
end BeaconSentry
