import BeaconSentry.Json.Printer
import BeaconSentry.Metrics.Exposition

/-!
This module contains what the servers of the watcher answer: one tells whether the watcher is alive, the other
one exposes its metrics.
-/

namespace BeaconSentry

structure Page where
  status : Nat
  contentType : Option String
  /-- The methods that a page admits, if it does not admit the one that was used. -/
  allow : Option String
  body : String
  deriving Repr, DecidableEq

namespace Page

def methodNotAllowed : Page := ⟨405, none, some "GET,HEAD", ""⟩

def notFound : Page := ⟨404, none, none, ""⟩

/-- The answer to a method, given the page: all of it, all but the body, or nothing. -/
def forMethod (method : String) (page : Page) : Page :=
  if method == "GET" then page
  else if method == "HEAD" then { page with body := "" }
  else methodNotAllowed

end Page

def pathOfTarget (target : String) : String := String.ofList (target.toList.takeWhile (· != '?'))

structure Heart where
  /-- When it beat last, in milliseconds since it was made. -/
  lastBeat : Nat
  /-- After how long without a beat it counts as still. -/
  longestPause : Duration
  deriving Repr, DecidableEq

namespace Heart

def start (longestPause : Duration) : Heart := ⟨0, longestPause⟩

def isStill (now : Nat) (heart : Heart) : Bool :=
  heart.longestPause.nanos < (Duration.ofMillis (now - heart.lastBeat)).nanos

def page (now : Nat) (heart : Heart) : Page :=
  let json := some "application/json"
  if heart.isStill now then
    let body : Json.Value := .record [("status", .text "fail"), ("reason", .text "timeout exceeded")]
    ⟨503, json, none, body.toText⟩
  else
    ⟨200, json, none, (Json.Value.record [("status", .text "ok")]).toText⟩

def isBeat (method target : String) : Bool :=
  pathOfTarget target == "/pulse/" && (method == "GET" || method == "HEAD")

/-- Answer a request. One path makes the heart beat first, all others only look at it. -/
def answer (now : Nat) (method target : String) (heart : Heart) : Page × Heart :=
  let heart := if isBeat method target then { heart with lastBeat := now } else heart
  ((heart.page now).forMethod method, heart)

end Heart

def Metrics.answer (metrics : Metrics) (method target : String) : Page :=
  if pathOfTarget target == "/metrics" then
    (Page.mk 200 (some "text/plain; version=0.0.4") none metrics.text).forMethod method
  else
    .notFound

end BeaconSentry
