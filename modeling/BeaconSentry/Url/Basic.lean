/-!
This module contains URLs by their parts, each of which is kept in its printed form.
-/

namespace BeaconSentry

structure Authority where
  user : String
  password : String
  host : String
  port : Option Nat
  deriving Repr, DecidableEq

inductive UrlPath where
  /-- A text without structure. -/
  | plain (text : String)
  /-- Segments, each after a slash. -/
  | segments (names : List String)
  deriving Repr, DecidableEq

structure Url where
  scheme : String
  authority : Option Authority
  path : UrlPath
  query : Option String
  fragment : Option String
  deriving Repr, DecidableEq

namespace Authority

def print (authority : Authority) : String :=
  let password := if authority.password.isEmpty then "" else ":" ++ authority.password
  let user :=
    if authority.user.isEmpty && authority.password.isEmpty then "" else authority.user ++ password ++ "@"
  user ++ authority.host ++ (authority.port.map fun port => s!":{port}").getD ""

end Authority

namespace UrlPath

def print : UrlPath → String
  | .plain text => text
  | .segments names => String.join (names.map ("/" ++ ·))

end UrlPath

namespace Url

def printBase (url : Url) : String :=
  let path := url.path.print
  match url.authority with
  | some authority => url.scheme ++ "://" ++ authority.print ++ path
  | none => url.scheme ++ ":" ++ (if path.startsWith "//" then "/." else "") ++ path

def print (url : Url) : String :=
  url.printBase ++ (url.query.map ("?" ++ ·)).getD "" ++ (url.fragment.map ("#" ++ ·)).getD ""

def domain (url : Url) : String :=
  match url.authority with
  | none => url.print
  | some authority =>
    if authority.host.isEmpty then url.print
    else authority.host ++ (authority.port.map fun port => s!":{port}").getD ""

/-- What a request asks a host for: the path and the query. -/
def target (url : Url) : String :=
  let path := url.path.print
  (if path.isEmpty then "/" else path) ++ (url.query.map ("?" ++ ·)).getD ""

def addQuery (url : Url) (query : String) : Url :=
  { url with query := some ((url.query.map (· ++ "&")).getD "" ++ query) }

end Url
end BeaconSentry
