import BeaconSentry.Text.Utf8

/-!
This module contains the decoding of event streams. Bytes arrive in chunks that may be cut anywhere; lines end
with a line feed, fields fill the event that is being built, and an empty line dispatches it.
-/

namespace BeaconSentry

structure ServerEvent where
  /-- The type, `message` if the server gave none. -/
  event : String
  /-- The data lines, joined by line feeds. -/
  data : String
  /-- The last id that the server gave. -/
  id : Option String
  deriving Repr, DecidableEq

structure EventStream where
  /-- The bytes of a line that has not ended. -/
  pending : List UInt8
  /-- The type of the event that is being built. -/
  event : Option String
  /-- The data lines of the event that is being built. -/
  data : List String
  /-- The last id. -/
  id : Option String
  deriving Repr, DecidableEq

namespace EventStream

def start : EventStream := ⟨[], none, [], none⟩

/-- Cut bytes into the lines that end with a line feed, without it, and the bytes after the last one. -/
def cutLines : List UInt8 → List (List UInt8) × List UInt8
  | [] => ([], [])
  | b :: bytes =>
    let (lines, rest) := cutLines bytes
    if b == 10 then ([] :: lines, rest)
    else
      match lines with
      | [] => ([], b :: rest)
      | line :: lines => ((b :: line) :: lines, rest)

def lineText (line : List UInt8) : List Char :=
  ((Utf8.decodeLossy line).toList.reverse.dropWhile (· == '\r')).reverse

def splitField (line : List Char) : String × String :=
  let value :=
    match line.dropWhile (· != ':') with
    | ':' :: ' ' :: value => value
    | ':' :: value => value
    | _ => []
  (String.ofList (line.takeWhile (· != ':')), String.ofList value)

/-- Finish the event that is being built. Without data there is none; the id stays. -/
def dispatch (stream : EventStream) : EventStream × Option ServerEvent :=
  let next := { stream with event := none, data := [] }
  if stream.data.isEmpty then (next, none)
  else
    (next, some {
      event := stream.event.getD "message"
      data := "\n".intercalate stream.data
      id := stream.id })

def field (stream : EventStream) (name value : String) : EventStream :=
  if name == "event" then { stream with event := some value }
  else if name == "data" then { stream with data := stream.data ++ [value] }
  else if name == "id" then { stream with id := some value }
  else stream

def line (stream : EventStream) (text : List Char) : EventStream × Option ServerEvent :=
  match text with
  | [] => stream.dispatch
  | ':' :: _ => (stream, none)
  | text =>
    let (name, value) := splitField text
    (stream.field name value, none)

def feedLines (stream : EventStream) : List (List UInt8) → EventStream × List ServerEvent
  | [] => (stream, [])
  | bytes :: rest =>
    let (stream, event) := stream.line (lineText bytes)
    let (stream, events) := stream.feedLines rest
    (stream, event.toList ++ events)

def feed (stream : EventStream) (chunk : List UInt8) : EventStream × List ServerEvent :=
  let (lines, rest) := cutLines (stream.pending ++ chunk)
  { stream with pending := rest }.feedLines lines

def feedAll (stream : EventStream) : List (List UInt8) → List (List ServerEvent)
  | [] => []
  | chunk :: rest =>
    let (stream, events) := stream.feed chunk
    events :: stream.feedAll rest

end EventStream
end BeaconSentry
